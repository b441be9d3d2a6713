import Questline.Proofs.Store.Disk
import Questline.Store.Memory
set_option autoImplicit false

/-!
# A store in a directory does what a store in memory does

Asked the same, one thing after the other, a store in a directory replies what a store in memory
replies, and after each reply the directory has one file for each text that is kept and no other:
temporary files have names that no key has, and are gone once the text is in place.  A single dot is
the one key that cannot be kept in a directory, for its temporary file would be the directory above.
-/

namespace Questline

/-! ## Asking a store -/

namespace Store

/-- What a store can be asked. -/
inductive Request where
  | get (key : String)
  | set (key text : String)
  | remove (key : String)
  deriving DecidableEq

/-- The key that is asked for. -/
def Request.key : Request → String
  | get key => key
  | set key _ => key
  | remove key => key

/-- What a store replies. -/
inductive Reply where
  | text (result : Except Fault (Option String))
  | done (result : Except Fault Unit)

/-- Asks a store one thing after the other. -/
def ask {σ : Type} (answer : σ → Request → Reply × σ) : σ → List Request → List Reply × σ
  | s, [] => ([], s)
  | s, r :: rs =>
    let (reply, s) := answer s r
    let (replies, s) := ask answer s rs
    (reply :: replies, s)

end Store

/-- A store in memory is asked. -/
def Memory.answer (m : Memory) : Store.Request → Store.Reply × Memory
  | .get key => (.text (m.get key), m)
  | .set key text => let (result, m) := m.set key text; (.done result, m)
  | .remove key => let (result, m) := m.remove key; (.done result, m)

/-- A store in a directory of the disk is asked. -/
def Folder.answer (f : Folder) (disk : Node) : Store.Request → Store.Reply × Node
  | .get key => (.text (f.get key disk), disk)
  | .set key text => let (result, disk) := f.set key text disk; (.done result, disk)
  | .remove key => let (result, disk) := f.remove key disk; (.done result, disk)

namespace Folder

open Store (Request ask)

/-! ## File names -/

/-- A key of at most 246 characters, all of which stand for themselves in a file name. -/
structure PlainKey (key : String) : Prop where
  nonempty : 1 ≤ key.length
  short : key.length ≤ 246
  plain : ∀ c ∈ key.toList, isPlain c = true

theorem stem_of_plain {key : String} (h : ∀ c ∈ key.toList, isPlain c = true) :
    stem key = key.toList := by
  rw [stem]
  refine (List.map_congr_left fun c hc => if_pos (h c hc)).trans (List.map_id _)

theorem PlainKey.fileName {key : String} (h : PlainKey key) :
    Folder.fileName key = key ++ ".json" := by
  rw [Folder.fileName, stem_of_plain h.plain]
  exact String.toList_injective (by simp)

theorem PlainKey.tempName? {key : String} (h : PlainKey key) (hdot : key ≠ ".") :
    Folder.tempName? key = some (key ++ ".json.tmp") := by
  have hnil : key.toList ≠ [] := by
    intro heq
    have hlength := h.nonempty
    rw [← String.length_toList, heq] at hlength
    exact absurd hlength (by decide)
  have hlist : key.toList ≠ ['.'] := fun heq => hdot (String.toList_injective heq)
  rw [Folder.tempName?, stem_of_plain h.plain, if_neg hlist, if_neg (by simpa using hnil)]
  exact congrArg some (String.toList_injective (by simp))

theorem append_json_inj {a b : String} (h : a ++ ".json" = b ++ ".json") : a = b := by
  have hlist := congrArg String.toList h
  simp only [String.toList_append] at hlist
  exact String.toList_injective (List.append_cancel_right hlist)

/-- No temporary file is the file of a key. -/
theorem append_tmp_ne (a b : String) : a ++ ".json.tmp" ≠ b ++ ".json" := by
  intro h
  have hlast := congrArg (fun s : String => s.toList.getLast?) h
  simp at hlast

/-- A plain character takes one byte. -/
theorem utf8Size_of_plain {c : Char} (h : isPlain c = true) : c.utf8Size = 1 := by
  rw [Char.utf8Size_eq_one_iff, UInt32.le_iff_toNat_le]
  simp only [isPlain, Bool.or_eq_true, Bool.and_eq_true, decide_eq_true_eq, Char.le_def,
    UInt32.le_iff_toNat_le] at h
  rcases h with ((((⟨-, h⟩ | ⟨-, h⟩) | ⟨-, h⟩) | rfl) | rfl) | rfl
  · exact Nat.le_trans h (by decide)
  · exact Nat.le_trans h (by decide)
  · exact Nat.le_trans h (by decide)
  · decide
  · decide
  · decide

theorem utf8ByteSize_of_plain {key : String} (h : ∀ c ∈ key.toList, isPlain c = true) :
    key.utf8ByteSize = key.length := by
  have hchars : ∀ cs : List Char, (∀ c ∈ cs, isPlain c = true) →
      (String.ofList cs).utf8ByteSize = cs.length := by
    intro cs
    induction cs with
    | nil => exact fun _ => rfl
    | cons c r ih =>
      intro hcs
      obtain ⟨hc, hr⟩ := List.forall_mem_cons.1 hcs
      have hsplit : String.ofList (c :: r) = String.singleton c ++ String.ofList r :=
        String.toList_injective (by simp)
      rw [hsplit, String.utf8ByteSize_append, String.utf8ByteSize_singleton, utf8Size_of_plain hc,
        ih hr, List.length_cons, Nat.add_comm]
  have hkey := hchars key.toList h
  rwa [String.ofList_toList, String.length_toList] at hkey

/-- A disk can hold the names for a key that is not too long. -/
theorem PlainKey.fits {key : String} (h : PlainKey key) {suffix : String}
    (hsuffix : suffix.utf8ByteSize ≤ 9) : Disk.fits (key ++ suffix) = true := by
  have hshort := h.short
  rw [Disk.fits, String.utf8ByteSize_append, utf8ByteSize_of_plain h.plain, decide_eq_true_eq]
  omega

theorem PlainKey.nul_notMem {key : String} (h : PlainKey key) {suffix : String}
    (hsuffix : '\x00' ∉ suffix.toList) : '\x00' ∉ (key ++ suffix).toList := by
  rw [String.toList_append, List.mem_append]
  rintro (hkey | hmem)
  · exact absurd (h.plain _ hkey) (by decide)
  · exact hsuffix hmem

/-! ## The files of a directory -/

/-- The children of a directory are one file for each text, under its key. -/
structure Files (cs : List (String × Node)) (texts : Keyed String) : Prop where
  sorted : Entries.Sorted cs
  mem_iff : ∀ e, e ∈ cs ↔ ∃ key text, texts.get? key = some text ∧ e = (key ++ ".json", .file text)

variable {cs : List (String × Node)} {texts : Keyed String}

theorem files_nil : Files [] .empty := ⟨.nil, fun e => by simp⟩

/-- It is enough to know what stands under each name. -/
theorem files_of_get? (hsorted : Entries.Sorted cs)
    (hget : ∀ key, Entries.get? (key ++ ".json") cs = (texts.get? key).map Node.file)
    (hnames : ∀ name n, Entries.get? name cs = some n → ∃ key, name = key ++ ".json") :
    Files cs texts := by
  refine ⟨hsorted, fun ⟨name, n⟩ => ?_⟩
  rw [← Entries.get?_eq_some_iff hsorted]
  constructor
  · intro hn
    obtain ⟨key, rfl⟩ := hnames name n hn
    rw [hget, Option.map_eq_some_iff] at hn
    obtain ⟨text, htext, rfl⟩ := hn
    exact ⟨key, text, htext, rfl⟩
  · rintro ⟨key, text, htext, heq⟩
    cases heq
    rw [hget, htext, Option.map_some]

theorem Files.exists_of_get? (h : Files cs texts) {name : String} {n : Node}
    (hn : Entries.get? name cs = some n) : ∃ key text, texts.get? key = some text ∧
      (name, n) = (key ++ ".json", .file text) :=
  (h.mem_iff _).1 (Entries.mem_of_get?_eq_some hn)

theorem Files.get? (h : Files cs texts) (key : String) :
    Entries.get? (key ++ ".json") cs = (texts.get? key).map Node.file := by
  cases htext : texts.get? key with
  | some text =>
    exact (Entries.get?_eq_some_iff h.sorted).2 ((h.mem_iff _).2 ⟨key, text, htext, rfl⟩)
  | none =>
    cases hn : Entries.get? (key ++ ".json") cs with
    | none => rfl
    | some n =>
      obtain ⟨other, text, htext', heq⟩ := h.exists_of_get? hn
      rw [← append_json_inj (congrArg Prod.fst heq), htext] at htext'
      cases htext'

theorem Files.isDir_eq_false (h : Files cs texts) {name : String} {n : Node}
    (hn : Entries.get? name cs = some n) : n.isDir = false := by
  obtain ⟨key, text, -, heq⟩ := h.exists_of_get? hn
  cases heq
  rfl

/-- The file of a text takes the place of the one that was there, and the temporary file goes. -/
theorem Files.replace (h : Files cs texts) (key text : String) :
    Files (Entries.insert (key ++ ".json") (.file text)
        (Entries.erase (key ++ ".json.tmp") (Entries.insert (key ++ ".json.tmp") (.file text) cs)))
      (texts.insert key text) := by
  have hwritten := h.sorted.insert (key ++ ".json.tmp") (.file text)
  have hothers : ∀ name, name ≠ key ++ ".json" → name ≠ key ++ ".json.tmp" →
      Entries.get? name (Entries.insert (key ++ ".json") (.file text) (Entries.erase
        (key ++ ".json.tmp") (Entries.insert (key ++ ".json.tmp") (.file text) cs))) =
        Entries.get? name cs := by
    intro name hfile htemp
    rw [Entries.get?_insert_of_ne hfile, Entries.get?_erase_of_ne htemp,
      Entries.get?_insert_of_ne htemp]
  refine files_of_get? ((hwritten.erase _).insert _ _) (fun other => ?_) fun name n hn => ?_
  · by_cases hkey : other = key
    · subst hkey
      rw [Entries.get?_insert_self, Keyed.get?_insert_self, Option.map_some]
    · rw [hothers _ (fun heq => hkey (append_json_inj heq)) (append_tmp_ne key other).symm, h.get?,
        Keyed.get?_insert_of_ne _ hkey]
  · by_cases hfile : name = key ++ ".json"
    · exact ⟨key, hfile⟩
    · by_cases htemp : name = key ++ ".json.tmp"
      · rw [Entries.get?_insert_of_ne hfile, htemp, Entries.get?_erase_self hwritten] at hn
        cases hn
      · rw [hothers name hfile htemp] at hn
        obtain ⟨other, _, -, heq⟩ := h.exists_of_get? hn
        exact ⟨other, congrArg Prod.fst heq⟩

theorem Files.erase (h : Files cs texts) (key : String) :
    Files (Entries.erase (key ++ ".json") cs) (texts.erase key) := by
  refine files_of_get? (h.sorted.erase _) (fun other => ?_) fun name n hn => ?_
  · by_cases hkey : other = key
    · subst hkey
      rw [Entries.get?_erase_self h.sorted, Keyed.get?_erase_self, Option.map_none]
    · rw [Entries.get?_erase_of_ne fun heq => hkey (append_json_inj heq), h.get?,
        Keyed.get?_erase_of_ne _ hkey]
  · by_cases hfile : name = key ++ ".json"
    · exact ⟨key, hfile⟩
    · rw [Entries.get?_erase_of_ne hfile] at hn
      obtain ⟨other, _, -, heq⟩ := h.exists_of_get? hn
      exact ⟨other, congrArg Prod.fst heq⟩

/-! ## One request -/

variable {f : Folder} {disk : Node} {m : Memory}

/-- The disk shows these texts: there is no directory yet and no text, or the directory has one
file for each text, under its key, and no other. -/
def Shows (f : Folder) (disk : Node) (texts : Keyed String) : Prop :=
  Disk.find f.place disk = .nothing ∧ texts = .empty ∨
    ∃ cs, Disk.find f.place disk = .node (.dir cs) ∧ Files cs texts

/-- The store in memory can be read and changed. -/
structure Unfailing (m : Memory) : Prop where
  reads : m.failsRead = false
  writes : m.failsWrite = false
  removes : m.failsRemove = false

/-- The directory is there or can be made, the paths of files with the longest names in it are not
too long, and it shows what is in memory. -/
structure Mirrors (f : Folder) (disk : Node) (m : Memory) : Prop extends Unfailing m where
  speakable : Disk.pathFault? f.place = none
  short : Disk.pathBytes f.place ≤ 3839
  wellFormed : disk.WellFormed
  makeable : ∃ made, Disk.makeDirs f.place disk = .ok made
  shows : f.Shows disk m.entries

theorem Mirrors.lists (h : f.Mirrors disk m)
    (hfind : Disk.find f.place disk = .node (.dir cs)) : Disk.Lists f.place cs disk :=
  ⟨Disk.at?_of_find hfind, Disk.fits_of_makeDirs h.makeable.choose_spec, h.wellFormed⟩

/-- The directory of which the children are known mirrors what they are. -/
theorem Mirrors.of_lists (h : f.Mirrors disk m) {disk' : Node} {m' : Memory}
    (hm' : m' = { m with entries := m'.entries }) (hlists : Disk.Lists f.place cs disk')
    (hfiles : Files cs m'.entries) : f.Mirrors disk' m' where
  reads := by rw [hm']; exact h.reads
  writes := by rw [hm']; exact h.writes
  removes := by rw [hm']; exact h.removes
  speakable := h.speakable
  short := h.short
  wellFormed := hlists.wellFormed
  makeable := ⟨_, hlists.makeDirs⟩
  shows := .inr ⟨cs, hlists.find, hfiles⟩

/-- Once the directory is made, its children are the files of what is in memory. -/
theorem Mirrors.exists_made (h : f.Mirrors disk m) : ∃ made cs,
    Disk.makeDirs f.place disk = .ok made ∧ Disk.Lists f.place cs made ∧ Files cs m.entries := by
  rcases h.shows with ⟨hfind, hempty⟩ | ⟨cs, hfind, hfiles⟩
  · obtain ⟨made, hmade⟩ := h.makeable
    exact ⟨made, [], hmade, Disk.lists_of_makeDirs h.wellFormed (.inl hfind) hmade,
      hempty ▸ files_nil⟩
  · exact ⟨disk, cs, (h.lists hfind).makeDirs, h.lists hfind, hfiles⟩

variable {key : String}

/-- Nothing is wrong with the path of the file for a key. -/
theorem Mirrors.pathFault?_file (h : f.Mirrors disk m) (hkey : PlainKey key) :
    Disk.pathFault? (f.filePlace key) = none := by
  rw [filePlace, hkey.fileName]
  exact Disk.pathFault?_concat h.speakable h.short (hkey.nul_notMem (by decide))
    (hkey.fits (by decide))

/-- What is found under the name of a key is its text. -/
theorem Mirrors.find_file (h : f.Mirrors disk m) (hkey : PlainKey key) :
    Disk.find (f.filePlace key) disk = match m.entries.get? key with
      | some text => .node (.file text)
      | none => .nothing := by
  rw [filePlace, hkey.fileName]
  rcases h.shows with ⟨hfind, hempty⟩ | ⟨cs, hfind, hfiles⟩
  · rw [Disk.find_append, hfind, hempty]
    rfl
  · rw [(h.lists hfind).find_child (hkey.fits (by decide)), hfiles.get?]
    cases m.entries.get? key <;> rfl

theorem Mirrors.get (h : f.Mirrors disk m) (hkey : PlainKey key) :
    f.get key disk = m.get key := by
  rw [Folder.get, h.pathFault?_file hkey, h.find_file hkey, Memory.get, h.reads]
  cases m.entries.get? key <;> rfl

theorem Mirrors.remove (h : f.Mirrors disk m) (hkey : PlainKey key) :
    (f.remove key disk).1 = (m.remove key).1 ∧
      f.Mirrors (f.remove key disk).2 (m.remove key).2 := by
  have hreply : m.remove key = (.ok (), { m with entries := m.entries.erase key }) := by
    rw [Memory.remove, h.removes]
    rfl
  rw [hreply, Folder.remove, h.pathFault?_file hkey, hkey.fileName, h.find_file hkey]
  cases htext : m.entries.get? key with
  | none =>
    refine ⟨rfl, ?_⟩
    rw [Keyed.erase_eq_self htext]
    exact h
  | some text =>
    rcases h.shows with ⟨-, hempty⟩ | ⟨cs, hfind, hfiles⟩
    · rw [hempty] at htext
      cases htext
    · exact ⟨rfl, h.of_lists rfl ((h.lists hfind).dropFile _) (hfiles.erase key)⟩

/-- A text goes into its file by way of the temporary file. -/
theorem Mirrors.set (h : f.Mirrors disk m) (hkey : PlainKey key) (hdot : key ≠ ".")
    (text : String) :
    (f.set key text disk).1 = (m.set key text).1 ∧
      f.Mirrors (f.set key text disk).2 (m.set key text).2 := by
  have hreply : m.set key text = (.ok (), { m with entries := m.entries.insert key text }) := by
    rw [Memory.set, h.writes]
    rfl
  obtain ⟨made, cs, hmade, hlists, hfiles⟩ := h.exists_made
  obtain ⟨written, hput, hwritten⟩ := hlists.putFile
    (hkey.fits (show ".json.tmp".utf8ByteSize ≤ 9 by decide)) (fun c hc => hfiles.isDir_eq_false hc) text
  have hfree : ∀ c, Entries.get? (key ++ ".json") (Entries.erase (key ++ ".json.tmp")
      (Entries.insert (key ++ ".json.tmp") (.file text) cs)) = some c → c.isDir = false := by
    intro c hc
    rw [Entries.get?_erase_of_ne (append_tmp_ne key key).symm,
      Entries.get?_insert_of_ne (append_tmp_ne key key).symm] at hc
    exact hfiles.isDir_eq_false hc
  obtain ⟨moved, hmove, hmoved⟩ := (hwritten.dropFile (key ++ ".json.tmp")).putFile
    (hkey.fits (show ".json".utf8ByteSize ≤ 9 by decide)) hfree text
  have htemp : Disk.pathFault? (f.place ++ [key ++ ".json.tmp"]) = none :=
    Disk.pathFault?_concat h.speakable h.short (hkey.nul_notMem (by decide))
      (hkey.fits (by decide))
  have hset : f.set key text disk = (.ok (), moved) := by
    rw [Folder.set, h.speakable, hmade, hkey.tempName? hdot]
    simp only [Folder.replace, htemp, hput, hkey.fileName, hmove]
  rw [hset, hreply]
  exact ⟨rfl, h.of_lists rfl hmoved (hfiles.replace key text)⟩

/-- A single dot cannot be kept, but in memory it can. -/
theorem Mirrors.set_dot (h : f.Mirrors disk m) (text : String) :
    (f.set "." text disk).1 = .error .isDirectory ∧ (m.set "." text).1 = .ok () := by
  obtain ⟨made, hmade⟩ := h.makeable
  have htemp : Folder.tempName? "." = none := by decide
  have habove : Disk.pathFault? (f.place ++ [".."]) = none :=
    Disk.pathFault?_concat h.speakable h.short (by decide) (by decide)
  rw [Folder.set, h.speakable, hmade, Memory.set, h.writes, htemp]
  dsimp only
  rw [habove]
  exact ⟨rfl, rfl⟩

/-! ## Any number of requests -/

/-- A store in a directory replies what the store in memory replies, and mirrors it again. -/
theorem Mirrors.answer (h : f.Mirrors disk m) {r : Request} (hkey : PlainKey r.key)
    (hdot : ∀ text, r ≠ .set "." text) :
    (f.answer disk r).1 = (m.answer r).1 ∧ f.Mirrors (f.answer disk r).2 (m.answer r).2 := by
  cases r with
  | get key => exact ⟨congrArg Store.Reply.text (h.get hkey), h⟩
  | remove key =>
    obtain ⟨hreply, hafter⟩ := h.remove hkey
    exact ⟨congrArg Store.Reply.done hreply, hafter⟩
  | set key text =>
    obtain ⟨hreply, hafter⟩ := h.set hkey (fun heq => hdot text (heq ▸ rfl)) text
    exact ⟨congrArg Store.Reply.done hreply, hafter⟩

/-- Asked for plain keys, one after the other, a store in a directory replies what the store in
memory replies and has one file for each text after each of the replies, exactly if it is never to
keep a text under a single dot. -/
theorem refines_memory_iff {rs : List Request} (h : f.Mirrors disk m)
    (hkeys : ∀ r ∈ rs, PlainKey r.key) :
    (∀ done, done <+: rs → (ask f.answer disk done).1 = (ask Memory.answer m done).1 ∧
        f.Shows (ask f.answer disk done).2 (ask Memory.answer m done).2.entries) ↔
      ∀ text, Request.set "." text ∉ rs := by
  induction rs generalizing disk m with
  | nil =>
    refine iff_of_true (fun done hdone => ?_) fun _ => List.not_mem_nil
    rw [List.prefix_nil.1 hdone]
    exact ⟨rfl, h.shows⟩
  | cons r rs ih =>
    obtain ⟨hkey, hrest⟩ := List.forall_mem_cons.1 hkeys
    by_cases hdot : ∃ text, r = .set "." text
    · obtain ⟨text, rfl⟩ := hdot
      refine iff_of_false (fun hall => ?_) fun hnone => hnone text List.mem_cons_self
      obtain ⟨hfault, hkept⟩ := h.set_dot text
      have hreply := (hall [.set "." text] ⟨rs, rfl⟩).1
      change [Store.Reply.done (f.set "." text disk).1] = [.done (m.set "." text).1] at hreply
      rw [hfault, hkept] at hreply
      cases hreply
    · obtain ⟨hreply, hafter⟩ := h.answer hkey fun text heq => hdot ⟨text, heq⟩
      have hlater := ih hafter hrest
      constructor
      · intro hall text hmem
        rcases List.mem_cons.1 hmem with heq | hmem
        · exact hdot ⟨text, heq.symm⟩
        · refine hlater.1 (fun done hdone => ?_) text hmem
          obtain ⟨hreplies, hshows⟩ := hall (r :: done) (List.cons_prefix_cons.2 ⟨rfl, hdone⟩)
          exact ⟨(List.cons.inj hreplies).2, hshows⟩
      · intro hnone done hdone
        cases done with
        | nil => exact ⟨rfl, h.shows⟩
        | cons r' done =>
          obtain ⟨rfl, htail⟩ := List.cons_prefix_cons.1 hdone
          obtain ⟨hreplies, hshows⟩ :=
            hlater.2 (fun text hmem => hnone text (List.mem_cons_of_mem _ hmem)) done htail
          exact ⟨List.cons_eq_cons.2 ⟨hreply, hreplies⟩, hshows⟩

/-- In a new directory of an empty disk a text is not kept under a single dot. -/
theorem not_refines_memory_of_dot :
    Mirrors ⟨["saves"]⟩ (.dir []) .empty ∧ (∀ r ∈ [Request.set "." "v"], PlainKey r.key) ∧
      ¬ ∀ done, done <+: [Request.set "." "v"] →
        (ask (answer ⟨["saves"]⟩) (.dir []) done).1 = (ask Memory.answer .empty done).1 ∧
          Shows ⟨["saves"]⟩ (ask (answer ⟨["saves"]⟩) (.dir []) done).2
            (ask Memory.answer .empty done).2.entries := by
  have hnew : Mirrors ⟨["saves"]⟩ (.dir []) .empty :=
    ⟨⟨rfl, rfl, rfl⟩, by decide, by decide, Node.wellFormed_dir_iff.2 ⟨.nil, nofun⟩, ⟨_, rfl⟩, .inl ⟨rfl, rfl⟩⟩
  have hdot : PlainKey "." := ⟨by decide, by decide, by simp [isPlain]⟩
  have hkeys : ∀ r ∈ [Request.set "." "v"], PlainKey r.key := by
    intro r hr
    rw [List.mem_singleton.1 hr]
    exact hdot
  exact ⟨hnew, hkeys, fun hall =>
    (refines_memory_iff hnew hkeys).1 hall "v" List.mem_cons_self⟩

end Folder

end Questline
