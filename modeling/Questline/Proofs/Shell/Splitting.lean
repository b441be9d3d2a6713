import Questline.Proofs.Shell.Quoting
import Mathlib.Data.List.Pairwise
set_option autoImplicit false

/-!
# Reading tokens in one pass

The longest words of a line are the words that one pass over its characters finds,
which remembers only the word it is in and whether a quote is open.  In between
stands the relation `Tiles` of a text and the tokens in it: the scanner's tokens
tile the text, and a text is tiled in one way.
-/

namespace Questline.Token

open Text (bytes bytes_append bytes_pos)

/-! ## One pass -/

/-- The token of a word that began at byte `start`, if there is a word. -/
def endWord (start : Nat) (word : List Char) : List Token :=
  if word = [] then [] else [⟨.word (unquoted word), start, start + bytes word⟩]

/-- The tokens of a text, character by character: `word` has been read since byte
`start`, and `quoted` tells whether a quote is open. -/
def split (start : Nat) (quoted : Bool) (word : List Char) : List Char → List Token
  | [] => endWord start word
  | c :: r =>
    if quoted then split start (c != '"') (word ++ [c]) r
    else if c = '"' then split start true (word ++ [c]) r
    else if c = '|' then
      let pos := start + bytes word
      endWord start word ++ ⟨.pipe, pos, pos + 1⟩ :: split (pos + 1) false [] r
    else if isSeparator c then
      endWord start word ++ split (start + bytes word + c.utf8Size) false [] r
    else split start false (word ++ [c]) r

theorem split_quoted (start : Nat) {u : List Char} (hu : '"' ∉ u) (word r : List Char) :
    split start true word (u ++ '"' :: r) = split start false (word ++ (u ++ ['"'])) r := by
  induction u generalizing word with
  | nil => simp [split]
  | cons c v ih =>
    obtain ⟨hc, hv⟩ := not_or.1 (mt List.mem_cons.2 hu)
    have hquoted : (c != '"') = true := by simpa using Ne.symm hc
    simp [split, hquoted, ih hv]

/-- A word is taken up piece by piece. -/
theorem split_pieces (start : Nat) {w : List Char} (h : IsPieces w) (word r : List Char) :
    split start false word (w ++ r) = split start false (word ++ w) r := by
  induction h generalizing word with
  | nil => simp
  | bare hsep hpipe hquote _ ih => simp [split, hsep, hpipe, hquote, ih]
  | quoted hu _ ih => simp [split, split_quoted start hu, ih]

/-- Where no word can go on, the word ends and the next one has not begun. -/
theorem split_stops (start : Nat) (word : List Char) {r : List Char} (h : Stops r) :
    split start false word r
      = endWord start word ++ split (start + bytes word) false [] r := by
  match r with
  | [] => simp [split, endWord]
  | c :: r =>
    have hquote : c ≠ '"' := h.ne_quote
    by_cases hpipe : c = '|'
    · simp [split, hpipe, endWord, bytes]
    · have hsep : isSeparator c = true := (h c rfl).resolve_right hpipe
      simp [split, hquote, hpipe, hsep, endWord, bytes]

/-! ## Tilings -/

/-- The tokens stand in the text, which begins at byte `start`, and between them
stand separators; a word ends where no word can go on. -/
inductive Tiles : Nat → List Char → List Token → Prop
  | nil (start : Nat) : Tiles start [] []
  | separator {start : Nat} {c : Char} {r : List Char} {ts : List Token}
      (hc : isSeparator c = true) (h : Tiles (start + c.utf8Size) r ts) :
      Tiles start (c :: r) ts
  | pipe {start : Nat} {r : List Char} {ts : List Token} (h : Tiles (start + 1) r ts) :
      Tiles start ('|' :: r) (⟨.pipe, start, start + 1⟩ :: ts)
  | word {start : Nat} {w r : List Char} {ts : List Token} (hne : w ≠ []) (hw : IsPieces w)
      (hstop : Stops r) (h : Tiles (start + bytes w) r ts) :
      Tiles start (w ++ r) (⟨.word (unquoted w), start, start + bytes w⟩ :: ts)

/-- A text is tiled by the tokens of the one pass only. -/
theorem Tiles.eq_split {start : Nat} {cs : List Char} {ts : List Token}
    (h : Tiles start cs ts) : ts = split start false [] cs := by
  induction h with
  | nil start => simp [split, endWord]
  | separator hc _ ih =>
    simp [split, ne_quote_of_isSeparator hc, ne_pipe_of_isSeparator hc, hc, endWord, bytes, ih]
  | pipe _ ih => simp [split, endWord, bytes, ih]
  | word hne hw hstop _ ih =>
    rw [split_pieces _ hw, List.nil_append, split_stops _ _ hstop, ih]
    simp [endWord, hne]

theorem scan_separator (start : Nat) {c : Char} (h : isSeparator c = true) (r : List Char) :
    scan start (c :: r) = scan (start + c.utf8Size) r := by
  rw [scan]
  simp [h]

theorem scan_pipe (start : Nat) (r : List Char) :
    scan start ('|' :: r) = ⟨.pipe, start, start + 1⟩ :: scan (start + 1) r := by
  rw [scan]
  simp [isSeparator]

theorem scan_word (start : Nat) {c : Char} {r : List Char} (hsep : isSeparator c = false)
    (hpipe : c ≠ '|') :
    scan start (c :: r) =
      let (w, rest) := longestWord false (c :: r)
      if w = [] then []
      else ⟨.word (unquoted w), start, start + bytes w⟩ :: scan (start + bytes w) rest := by
  rw [scan]
  simp only [hsep, hpipe, if_false, Bool.false_eq_true]
  split
  · next h => simp [h]
  · next h => simp [h]

theorem stops_evened {cs : List Char} (h : Stops cs ∨ ∃ r, cs = '"' :: r ∧ '"' ∉ r) :
    Stops (evened cs) := by
  match cs, h with
  | [], _ => simp [evened, Stops]
  | c :: r, .inl h =>
    rw [evened_cons h.ne_quote]
    simpa [Stops] using h c rfl
  | _, .inr ⟨r, rfl, hr⟩ => simp [evened_lone hr, Stops]

/-- The scanner's tokens tile the text up to a quote without a partner. -/
theorem tiles_scan (start : Nat) (cs : List Char) : Tiles start (evened cs) (scan start cs) := by
  match cs with
  | [] =>
    rw [scan]
    exact .nil start
  | c :: r =>
    by_cases hsep : isSeparator c = true
    · rw [scan_separator start hsep, evened_cons (ne_quote_of_isSeparator hsep)]
      exact .separator hsep (tiles_scan _ r)
    by_cases hpipe : c = '|'
    · subst hpipe
      rw [scan_pipe, evened_cons (by decide)]
      exact .pipe (tiles_scan _ r)
    have hcut : (longestWord false (c :: r)).1 ++ (longestWord false (c :: r)).2 = c :: r :=
      longestWord_append false (c :: r)
    obtain ⟨hw, hrest⟩ := isPieces_longestWord (c :: r)
    rw [scan_word start (by simpa using hsep) hpipe]
    generalize longestWord false (c :: r) = read at hcut hw hrest
    obtain ⟨w, rest⟩ := read
    dsimp only at hcut hw hrest ⊢
    by_cases hne : w = []
    · -- no word begins here, so this is a quote without a partner
      obtain rfl : rest = c :: r := by simpa [hne] using hcut
      obtain h | ⟨v, hv, hlone⟩ := hrest
      · exact absurd (h c rfl) (by simp [hsep, hpipe])
      · rw [hv, evened_lone hlone]
        simpa [hne] using Tiles.nil start
    · have hlt : rest.length < (c :: r).length := by
        rw [← hcut, List.length_append]
        have := List.length_pos_iff.2 hne
        omega
      rw [← hcut, evened_append hw.count_even]
      simpa [hne] using Tiles.word hne hw (stops_evened hrest) (tiles_scan _ rest)
termination_by cs.length
decreasing_by all_goals simp only [List.length_cons] at *; omega

/-- The scanner finds the tokens of the one pass over the evened text. -/
theorem scan_eq_split (start : Nat) (cs : List Char) :
    scan start cs = split start false [] (evened cs) :=
  (tiles_scan start cs).eq_split

/-! ## Texts one after the other -/

theorem Tiles.append {start : Nat} {a b : List Char} {ts us : List Token} (ha : Tiles start a ts)
    (hstop : Stops b) (hb : Tiles (start + bytes a) b us) : Tiles start (a ++ b) (ts ++ us) := by
  induction ha with
  | nil start => simpa [bytes] using hb
  | separator hc _ ih => exact .separator hc (ih (by simpa [bytes, Nat.add_assoc] using hb))
  | pipe _ ih =>
    have hsize : Char.utf8Size '|' = 1 := rfl
    exact .pipe (ih (by simpa [bytes, hsize, Nat.add_assoc] using hb))
  | @word start w r ts hne hw hrest _ ih =>
    have hstops : Stops (r ++ b) := by
      cases r with
      | nil => exact hstop
      | cons c r => simpa [Stops] using hrest
    rw [List.append_assoc]
    refine .word hne hw hstops (ih ?_)
    simpa [bytes_append, Nat.add_assoc] using hb

/-- A text whose quotes are closed is read on its own, if no word runs over its end. -/
theorem scan_append (start : Nat) {a b : List Char} (ha : a.count '"' % 2 = 0) (hb : Stops b) :
    scan start (a ++ b) = scan start a ++ scan (start + bytes a) b := by
  have hleft : Tiles start a (scan start a) := by
    simpa [evened_of_even ha] using tiles_scan start a
  have hboth := hleft.append (stops_evened (.inl hb)) (tiles_scan (start + bytes a) b)
  rw [scan_eq_split, evened_append ha, ← hboth.eq_split]

/-- A text that begins elsewhere is tiled in the same way. -/
theorem Tiles.moved {start : Nat} {cs : List Char} {ts : List Token} (h : Tiles start cs ts)
    (start' : Nat) : ∃ us, Tiles start' cs us ∧ us.map kind = ts.map kind := by
  induction h generalizing start' with
  | nil => exact ⟨[], .nil start', rfl⟩
  | @separator _ c _ _ hc _ ih =>
    obtain ⟨us, hus, hkind⟩ := ih (start' + c.utf8Size)
    exact ⟨us, .separator hc hus, hkind⟩
  | pipe _ ih =>
    obtain ⟨us, hus, hkind⟩ := ih (start' + 1)
    exact ⟨_ :: us, .pipe hus, by simp [hkind]⟩
  | @word _ w _ _ hne hw hstop _ ih =>
    obtain ⟨us, hus, hkind⟩ := ih (start' + bytes w)
    exact ⟨_ :: us, .word hne hw hstop hus, by simp [hkind]⟩

/-- Where a text begins does not matter to what its tokens are. -/
theorem map_kind_scan (start start' : Nat) (cs : List Char) :
    (scan start cs).map kind = (scan start' cs).map kind := by
  obtain ⟨us, hus, hkind⟩ := (tiles_scan start cs).moved start'
  rw [← hkind, hus.eq_split, ← scan_eq_split]

/-! ## Where tokens stand -/

/-- The token is what stands between byte `start` of the text, outside quotes, and
byte `stop`. -/
def StandsIn (start : Nat) (cs : List Char) (t : Token) : Prop :=
  ∃ a w b, cs = a ++ w ++ b ∧ a.count '"' % 2 = 0 ∧
    t.start = start + bytes a ∧ t.stop = start + bytes (a ++ w) ∧
    (t.kind = .pipe ∧ w = ['|'] ∨ t.kind = .word (unquoted w) ∧ w ≠ [])

theorem StandsIn.append_left {start : Nat} {a cs : List Char} {t : Token}
    (ha : a.count '"' % 2 = 0) (h : StandsIn (start + bytes a) cs t) :
    StandsIn start (a ++ cs) t := by
  obtain ⟨b, w, c, rfl, hb, hstart, hstop, hkind⟩ := h
  refine ⟨a ++ b, w, c, by simp, by rw [List.count_append]; omega, ?_, ?_, hkind⟩
  · rw [hstart, bytes_append]; omega
  · rw [hstop, List.append_assoc, bytes_append a]; omega

theorem Tiles.standsIn {start : Nat} {cs : List Char} {ts : List Token} (h : Tiles start cs ts) :
    ∀ t ∈ ts, StandsIn start cs t := by
  induction h with
  | nil => simp
  | @separator start c r ts hc _ ih =>
    intro t ht
    have hcount : [c].count '"' % 2 = 0 := by simp [ne_quote_of_isSeparator hc]
    exact StandsIn.append_left hcount (by simpa [bytes] using ih t ht)
  | @pipe start r ts _ ih =>
    intro t ht
    obtain rfl | ht := List.mem_cons.1 ht
    · exact ⟨[], ['|'], r, rfl, rfl, rfl, rfl, .inl ⟨rfl, rfl⟩⟩
    · exact StandsIn.append_left (a := ['|']) rfl (ih t ht)
  | @word start w r ts hne hw _ _ ih =>
    intro t ht
    obtain rfl | ht := List.mem_cons.1 ht
    · exact ⟨[], w, r, rfl, rfl, rfl, rfl, .inr ⟨rfl, hne⟩⟩
    · exact StandsIn.append_left hw.count_even (ih t ht)

theorem StandsIn.start_lt_stop {start : Nat} {cs : List Char} {t : Token}
    (h : StandsIn start cs t) : t.start < t.stop := by
  obtain ⟨a, w, b, -, -, hstart, hstop, hkind⟩ := h
  have hw : w ≠ [] := by
    rcases hkind with ⟨-, rfl⟩ | ⟨-, hw⟩
    · simp
    · exact hw
  have := bytes_pos hw
  rw [hstart, hstop, bytes_append]
  omega

theorem StandsIn.bounds {start : Nat} {cs : List Char} {t : Token} (h : StandsIn start cs t) :
    start ≤ t.start ∧ t.stop ≤ start + bytes cs := by
  obtain ⟨a, w, b, rfl, -, hstart, hstop, -⟩ := h
  rw [bytes_append (a ++ w) b]
  omega

theorem Tiles.pairwise {start : Nat} {cs : List Char} {ts : List Token} (h : Tiles start cs ts) :
    ts.Pairwise fun t u => t.stop ≤ u.start := by
  induction h with
  | nil => exact .nil
  | separator _ _ ih => exact ih
  | pipe h ih => exact .cons (fun t ht => (h.standsIn t ht).bounds.1) ih
  | word _ _ _ h ih => exact .cons (fun t ht => (h.standsIn t ht).bounds.1) ih

/-! ## What every byte is -/

/-- Byte `i` belongs to the token. -/
def Covers (t : Token) (i : Nat) : Prop := t.start ≤ i ∧ i < t.stop

/-- Byte `i` of the text is a separator outside quotes. -/
def IsLoose (cs : List Char) (i : Nat) : Prop :=
  ∃ a c b, cs = a ++ c :: b ∧ bytes a = i ∧ isSeparator c = true ∧ a.count '"' % 2 = 0

theorem isLoose_cons {c : Char} (hc : c ≠ '"') (r : List Char) (i : Nat) :
    IsLoose (c :: r) i ↔
      (i = 0 ∧ isSeparator c = true) ∨ ∃ j, i = c.utf8Size + j ∧ IsLoose r j := by
  constructor
  · rintro ⟨a, d, b, hcut, hi, hsep, heven⟩
    match a with
    | [] =>
      obtain ⟨rfl, rfl⟩ := List.cons.inj hcut
      exact .inl ⟨hi.symm, hsep⟩
    | e :: a =>
      obtain ⟨rfl, rfl⟩ := List.cons.inj hcut
      exact .inr ⟨bytes a, hi.symm, a, d, b, rfl, rfl, hsep, by simpa [hc] using heven⟩
  · rintro (⟨rfl, hsep⟩ | ⟨j, rfl, a, d, b, rfl, rfl, hsep, heven⟩)
    · exact ⟨[], c, r, rfl, rfl, hsep, rfl⟩
    · exact ⟨c :: a, d, b, rfl, rfl, hsep, by simpa [hc] using heven⟩

/-- Nothing inside a quoted stretch is loose. -/
theorem isLoose_stretch {u : List Char} (hu : '"' ∉ u) (r : List Char) (i : Nat) :
    IsLoose ('"' :: (u ++ '"' :: r)) i ↔
      ∃ j, i = bytes ('"' :: (u ++ ['"'])) + j ∧ IsLoose r j := by
  have hcount : u.count '"' = 0 := List.count_eq_zero.2 hu
  constructor
  · rintro ⟨a, d, b, hcut, rfl, hsep, heven⟩
    have hd : d ≠ '"' := ne_quote_of_isSeparator hsep
    match a with
    | [] => exact absurd (List.cons.inj hcut).1.symm hd
    | e :: a =>
      obtain ⟨rfl, hrest⟩ := List.cons.inj hcut
      obtain ⟨x, rfl, hx⟩ | ⟨x, rfl, hx⟩ := List.append_eq_append_iff.1 hrest
      · -- the separator stands behind the stretch
        match x with
        | [] => exact absurd (List.cons.inj hx).1.symm hd
        | f :: x =>
          obtain ⟨rfl, rfl⟩ := List.cons.inj hx
          refine ⟨bytes x, by simp [bytes, bytes_append]; omega, x, d, b, rfl, rfl, hsep, ?_⟩
          simp [hcount] at heven
          omega
      · -- the separator would stand inside, where one quote is open
        have hopen : a.count '"' = 0 := by
          rw [List.count_append] at hcount
          omega
        simp [hopen] at heven
  · rintro ⟨j, rfl, a, d, b, rfl, rfl, hsep, heven⟩
    refine ⟨'"' :: (u ++ '"' :: a), d, b, by simp, ?_, hsep, ?_⟩
    · simp [bytes, bytes_append]
      omega
    · simp [hcount]
      omega

theorem isLoose_pieces {w : List Char} (h : IsPieces w) (r : List Char) (i : Nat) :
    IsLoose (w ++ r) i ↔ ∃ j, i = bytes w + j ∧ IsLoose r j := by
  induction h generalizing i with
  | nil => simp [bytes]
  | @bare c w hsep hpipe hquote _ ih =>
    rw [List.cons_append, isLoose_cons hquote]
    simp only [hsep, ih, Bool.false_eq_true, and_false, false_or]
    constructor
    · rintro ⟨_, rfl, j, rfl, hj⟩
      exact ⟨j, by simp [bytes]; omega, hj⟩
    · rintro ⟨j, rfl, hj⟩
      exact ⟨bytes w + j, by simp [bytes]; omega, j, rfl, hj⟩
  | @quoted u w hu _ ih =>
    have hcut : '"' :: (u ++ '"' :: w) ++ r = '"' :: (u ++ '"' :: (w ++ r)) := by simp
    rw [hcut, isLoose_stretch hu]
    simp only [ih]
    constructor
    · rintro ⟨_, rfl, j, rfl, hj⟩
      exact ⟨j, by simp [bytes, bytes_append]; omega, hj⟩
    · rintro ⟨j, rfl, hj⟩
      exact ⟨bytes w + j, by simp [bytes, bytes_append]; omega, j, rfl, hj⟩

/-- A token stands in front, and the rest of the text is as it is without it. -/
theorem isLoose_iff_of_front {start n i : Nat} {cs r : List Char} {t : Token} {ts : List Token}
    (hstart : t.start = start) (hstop : t.stop = start + n)
    (hfront : IsLoose cs i ↔ ∃ j, i = n + j ∧ IsLoose r j)
    (hrest : ∀ j, i = n + j → (IsLoose r j ↔ ∀ u ∈ ts, ¬ u.Covers (start + n + j))) :
    IsLoose cs i ↔ ∀ u ∈ t :: ts, ¬ u.Covers (start + i) := by
  rw [hfront, List.forall_mem_cons]
  by_cases hin : i < n
  · refine iff_of_false ?_ fun hno => hno.1 ⟨by omega, by omega⟩
    rintro ⟨j, rfl, -⟩
    omega
  · obtain ⟨j, rfl⟩ := Nat.exists_eq_add_of_le (Nat.le_of_not_lt hin)
    have ht : ¬ t.Covers (start + (n + j)) := fun hcovers => absurd hcovers.2 (by omega)
    simp [ht, hrest j rfl, Nat.add_assoc]

/-- A byte of a tiled text is loose if it belongs to no token, and only then. -/
theorem Tiles.isLoose_iff {start : Nat} {cs : List Char} {ts : List Token}
    (h : Tiles start cs ts) {i : Nat} (hi : i < bytes cs) :
    IsLoose cs i ↔ ∀ t ∈ ts, ¬ t.Covers (start + i) := by
  induction h generalizing i with
  | nil => simp [bytes] at hi
  | @separator start c r ts hc h ih =>
    have hsize : c.utf8Size = 1 := utf8Size_of_isSeparator hc
    rw [isLoose_cons (ne_quote_of_isSeparator hc)]
    cases i with
    | zero =>
      refine iff_of_true (.inl ⟨rfl, hc⟩) fun t ht hcovers => ?_
      have hbelow := (h.standsIn t ht).bounds.1
      have habove := hcovers.1
      omega
    | succ j =>
      have hrest := ih (i := j) (by rw [bytes] at hi; omega)
      simpa [hsize, hc, Nat.add_assoc, Nat.add_comm 1] using hrest
  | @pipe start r ts h ih =>
    have hsize : Char.utf8Size '|' = 1 := rfl
    refine isLoose_iff_of_front (n := 1) rfl rfl ?_ fun j hj => ih ?_
    · rw [isLoose_cons (by decide), hsize]
      simp [isSeparator]
    · rw [bytes, hsize] at hi
      omega
  | @word start w r ts hne hw hstop h ih =>
    refine isLoose_iff_of_front rfl rfl (isLoose_pieces hw r i) fun j hj => ih ?_
    rw [bytes_append] at hi
    omega

/-! ## The tokens of a line -/

theorem existsUnique_covers {ts : List Token} (hapart : ts.Pairwise fun t u => t.stop ≤ u.start)
    {i : Nat} (h : ∃ t ∈ ts, t.Covers i) : ∃! t, t ∈ ts ∧ t.Covers i := by
  obtain ⟨t, ht, hcovers⟩ := h
  refine ⟨t, ⟨ht, hcovers⟩, ?_⟩
  rintro u ⟨hu, hucovers⟩
  by_contra hne
  have hsides : ts.Pairwise fun t u => t.stop ≤ u.start ∨ u.stop ≤ t.start := hapart.imp .inl
  have : Std.Symm fun t u : Token => t.stop ≤ u.start ∨ u.stop ≤ t.start :=
    ⟨fun _ _ => Or.symm⟩
  have hside := hsides.forall hu ht hne
  obtain ⟨_, _⟩ := hcovers
  obtain ⟨_, _⟩ := hucovers
  omega

/-- The tokens of a line are those that one pass finds which toggles at every quote,
in the line without its last quote if the number of quotes is odd.  Each is a slice
of the line, they stand apart and in order, and every byte of what is read is in one
token or is a separator outside quotes. -/
theorem tokenize_toggles_quotes (s : String) :
    let read := evened s.toList
    let ts := tokenize s
    ts = split 0 false [] read ∧
    (∀ t ∈ ts, t.start < t.stop ∧ t.stop ≤ bytes s.toList ∧
      ∃ a w b, s.toList = a ++ w ++ b ∧ t.start = bytes a ∧ t.stop = bytes (a ++ w) ∧
        (t.kind = .pipe ∧ w = ['|'] ∨ t.kind = .word (unquoted w))) ∧
    (ts.Pairwise fun t u => t.stop ≤ u.start) ∧
    ∀ i < bytes read,
      (IsLoose read i ∧ ∀ t ∈ ts, ¬ t.Covers i) ∨
        (¬ IsLoose read i ∧ ∃! t, t ∈ ts ∧ t.Covers i) := by
  intro read ts
  have htiles : Tiles 0 read ts := tiles_scan 0 s.toList
  refine ⟨htiles.eq_split, fun t ht => ?_, htiles.pairwise, fun i hi => ?_⟩
  · have hstands := htiles.standsIn t ht
    obtain ⟨rest, hrest⟩ := evened_isPrefix s.toList
    refine ⟨hstands.start_lt_stop, ?_, ?_⟩
    · have hstop : t.stop ≤ bytes (evened s.toList) := by simpa using hstands.bounds.2
      rw [← hrest, bytes_append]
      omega
    · obtain ⟨a, w, b, hcut, -, hstart, hstop, hkind⟩ := hstands
      refine ⟨a, w, b ++ rest, ?_, by simpa using hstart, by simpa using hstop,
        hkind.imp_right And.left⟩
      rw [← hrest, show evened s.toList = a ++ w ++ b from hcut, List.append_assoc]
  · have hloose := htiles.isLoose_iff hi
    rw [Nat.zero_add] at hloose
    by_cases h : IsLoose read i
    · exact .inl ⟨h, hloose.1 h⟩
    · refine .inr ⟨h, existsUnique_covers htiles.pairwise ?_⟩
      by_contra hnone
      exact h (hloose.2 fun t ht hcovers => hnone ⟨t, ht, hcovers⟩)

example : tokenize "say \"a | b\"c|d \"" =
    [⟨.word "say", 0, 3⟩, ⟨.word "a | bc", 4, 12⟩, ⟨.pipe, 12, 13⟩, ⟨.word "d", 13, 14⟩] := by
  cbv

end Questline.Token
