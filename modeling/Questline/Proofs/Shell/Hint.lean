import Questline.Proofs.Session.Turn
import Questline.Store.Memory
set_option autoImplicit false

/-!
# Hints, one at a time

A hint is granted if the pause between hints is over since the last one, with the upgrades that the
player has by then.  The shell remembers when the last one was granted, and nothing but another
grant changes that.  Whoever asks too early is told how many seconds to wait: with one second less
the answer would be the same.
-/

namespace Questline

open Time (Instant Span)

/-! ## Whole milliseconds -/

namespace Time

theorem Span.millis_ofMillis (n : Int) : (Span.ofMillis n).millis = n := by
  rw [Span.millis, Span.ofMillis]
  exact Int.mul_tdiv_cancel _ (by decide)

/-- Rounded up, a span is the least number of seconds that covers it. -/
theorem le_seconds_iff {ms : Int} (h : 0 < ms) (seconds : Int) :
    ms ≤ 1000 * seconds ↔ Int.tdiv (ms + 999) 1000 ≤ seconds := by
  rw [Int.tdiv_eq_ediv_of_nonneg (by omega)]
  omega

namespace Instant

theorem seconds_ofMillis (n : Int) : (ofMillis n).seconds = n / 1000 := rfl

theorem nanos_ofMillis (n : Int) : (ofMillis n).nanos = (n % 1000).toNat * 1000000 := rfl

theorem before_ofMillis (a b : Int) : (ofMillis a).before (ofMillis b) = decide (a < b) := by
  rw [Bool.eq_iff_iff]
  simp only [before, Bool.or_eq_true, Bool.and_eq_true, decide_eq_true_eq, beq_iff_eq]
  rw [seconds_ofMillis, seconds_ofMillis, nanos_ofMillis, nanos_ofMillis]
  omega

theorem plus_ofMillis (n d : Int) : (ofMillis n).plus (.ofMillis d) = ofMillis (n + d) := by
  have hsum : (ofMillis n).seconds * 1000000000 + Int.ofNat (ofMillis n).nanos + Span.ofMillis d =
      (n + d) * 1000000 := by
    rw [seconds_ofMillis, nanos_ofMillis, Span.ofMillis, Int.ofNat_eq_natCast]
    omega
  rw [plus, hsum, ofMillis, Instant.mk.injEq]
  omega

/-- Between whole milliseconds there is no leap second. -/
theorem since_ofMillis (a b : Int) : (ofMillis a).since (ofMillis b) = .ofMillis (a - b) := by
  have hshort : ∀ n : Int, ¬ (ofMillis n).nanos ≥ 1000000000 := by
    intro n
    rw [nanos_ofMillis]
    omega
  simp only [since, if_neg (hshort a), if_neg (hshort b), ite_self, Span.ofMillis, Span.ofSeconds]
  rw [seconds_ofMillis, seconds_ofMillis, nanos_ofMillis, nanos_ofMillis, Int.ofNat_eq_natCast,
    Int.ofNat_eq_natCast]
  show (_ : Int) = _
  omega

end Instant

end Time

/-! ## Asking for a hint -/

namespace Shell

variable {sh : Shell} {threshold : UInt32} {p : Progress} {now : Instant}

theorem hint_of_wait {wait : Span} (h : sh.wait? p now = some wait) :
    sh.hint threshold p now =
      (.line s!"Hints cooling down. Wait {Int.tdiv (wait.millis + 999) 1000}s.", sh) := by
  rw [hint, h]

theorem hint_of_no_wait {zone : Zone} {quest : Quest} (h : sh.wait? p now = none)
    (hnext : p.nextQuest? threshold = some (zone, quest)) :
    sh.hint threshold p now =
      (.line s!"Hint: {quest.firstHint}", { sh with lastHint := some now }) := by
  rw [hint, h, hnext]

theorem hint_of_no_quest (h : sh.wait? p now = none) (hnext : p.nextQuest? threshold = none) :
    sh.hint threshold p now = (.line "No hints needed. All quests clear!", sh) := by
  rw [hint, h, hnext]

/-- A refusal does not read like a hint. -/
theorem refusal_ne_hint (seconds hint : String) :
    Outcome.line s!"Hints cooling down. Wait {seconds}s." ≠ .line s!"Hint: {hint}" := by
  intro h
  have htext : s!"Hints cooling down. Wait {seconds}s." = s!"Hint: {hint}" := by
    simpa [Outcome.line, Outcome.success] using h
  have hchar := congrArg (fun text : String => text.toList[4]?) htext
  simp [toString] at hchar

/-- The answer is the hint of the next quest. -/
def isHint (threshold : UInt32) (p : Progress) (o : Outcome) : Bool :=
  (p.nextQuest? threshold).any fun next => o == .line s!"Hint: {next.2.firstHint}"

theorem isHint_iff {zone : Zone} {quest : Quest} {o : Outcome}
    (hnext : p.nextQuest? threshold = some (zone, quest)) :
    isHint threshold p o = true ↔ o = .line s!"Hint: {quest.firstHint}" := by
  rw [isHint, hnext, Option.any_some, beq_iff_eq]

/-- The milliseconds between two hints in a game. -/
def pause (base : Int) (p : Progress) : Int :=
  max 0 (base - 1000 * p.upgrades.hintCooldownReduction.toNat)

/-- A shell whose pause is a whole number of milliseconds, with the time of the last hint. -/
structure Paced (sh : Shell) (base : Int) (last : Option Int) : Prop where
  cooldown : sh.hintCooldown = .ofMillis base
  lastHint : sh.lastHint = last.map .ofMillis

namespace Paced

variable {base : Int} {last : Option Int}

theorem cooldown_eq (h : sh.Paced base last) : sh.cooldown p = .ofMillis (pause base p) := by
  simp only [Shell.cooldown, h.cooldown, pause, Span.ofMillis, Span.ofSeconds, Int.ofNat_eq_natCast]
  show (_ : Int) = _
  omega

/-- One waits for the end of the pause after the last hint. -/
theorem wait?_eq (h : sh.Paced base last) (t : Int) :
    sh.wait? p (.ofMillis t) = last.bind fun g =>
      if t < g + pause base p then some (.ofMillis (g + pause base p - t)) else none := by
  cases last with
  | none => rw [wait?, h.lastHint]; rfl
  | some g =>
    rw [wait?, h.lastHint]
    simp only [Option.map_some, Option.bind_some, h.cooldown_eq, Instant.plus_ofMillis,
      Instant.before_ofMillis, Instant.since_ofMillis, decide_eq_true_eq]

/-- A hint is granted, or it is refused with the least number of seconds that covers what is left
of the pause, and nothing changes. -/
theorem hint_cases (h : sh.Paced base last) (t : Int) {zone : Zone} {quest : Quest}
    (hnext : p.nextQuest? threshold = some (zone, quest)) :
    ((∀ g ∈ last, g + pause base p ≤ t) ∧ sh.hint threshold p (.ofMillis t) =
      (.line s!"Hint: {quest.firstHint}", { sh with lastHint := some (.ofMillis t) })) ∨
    ∃ g wait : Int, last = some g ∧ 1 ≤ wait ∧
      (∀ seconds, g + pause base p ≤ t + 1000 * seconds ↔ wait ≤ seconds) ∧
      sh.hint threshold p (.ofMillis t) =
        (.line s!"Hints cooling down. Wait {wait}s.", sh) := by
  cases last with
  | none =>
    have hwait : sh.wait? p (.ofMillis t) = none := by rw [h.wait?_eq, Option.bind_none]
    exact .inl ⟨by simp, hint_of_no_wait hwait hnext⟩
  | some g =>
    have hwait := h.wait?_eq (p := p) t
    rw [Option.bind_some] at hwait
    by_cases hearly : t < g + pause base p
    · rw [if_pos hearly] at hwait
      have hleft : 0 < g + pause base p - t := by omega
      have hleast := Time.le_seconds_iff hleft
      rw [hint_of_wait hwait, Span.millis_ofMillis]
      refine .inr ⟨g, _, rfl, ?_, fun seconds => ?_, rfl⟩
      · have := hleast 0
        omega
      · rw [← hleast]
        omega
    · rw [if_neg hearly] at hwait
      exact .inl ⟨by simpa using hearly, hint_of_no_wait hwait hnext⟩

/-- The answer tells which of the two it was. -/
theorem hint_eq_line_iff (h : sh.Paced base last) (t : Int) {zone : Zone} {quest : Quest}
    (hnext : p.nextQuest? threshold = some (zone, quest)) :
    (sh.hint threshold p (.ofMillis t)).1 = .line s!"Hint: {quest.firstHint}" ↔
      ∀ g ∈ last, g + pause base p ≤ t := by
  obtain ⟨hready, heq⟩ | ⟨g, wait, rfl, hpos, hleast, heq⟩ := h.hint_cases t hnext
  · exact iff_of_true (by rw [heq]) hready
  · refine iff_of_false (fun hline => ?_) (fun hready => ?_)
    · rw [heq] at hline
      exact refusal_ne_hint _ _ hline
    · have := (hleast 0).1 (by simpa using hready g rfl)
      omega

/-- What the shell remembers after a hint was asked for. -/
theorem hint (h : sh.Paced base last) (threshold : UInt32) (p : Progress) (t : Int) :
    (sh.hint threshold p (.ofMillis t)).2.Paced base
      ((if isHint threshold p (sh.hint threshold p (.ofMillis t)).1 then some t else none).or
        last) := by
  cases hnext : p.nextQuest? threshold with
  | none =>
    have hsame : (sh.hint threshold p (.ofMillis t)).2 = sh := by
      cases hwait : sh.wait? p (.ofMillis t) with
      | none => rw [hint_of_no_quest hwait hnext]
      | some wait => rw [hint_of_wait hwait]
    simpa [isHint, hnext, hsame] using h
  | some next =>
    obtain ⟨-, heq⟩ | ⟨g, wait, rfl, -, -, heq⟩ := h.hint_cases t hnext
    · rw [heq, if_pos ((isHint_iff hnext).2 rfl)]
      exact ⟨h.cooldown, rfl⟩
    · have hrefused : ¬ isHint threshold p (sh.hint threshold p (.ofMillis t)).1 = true := by
        rw [isHint_iff hnext, heq]
        exact refusal_ne_hint _ _
      rw [if_neg hrefused, heq]
      exact h

end Paced

end Shell

namespace Scene

variable {w : Type} [Depot w]

/-! ## What the other commands leave alone -/

omit [Depot w] in
theorem shell_withProgress (s : Scene w) (p : Progress) :
    (s.withProgress p).shell = s.shell := rfl

omit [Depot w] in
theorem shell_change (s : Scene w) (command : String) (shown : FileSystem → Outcome)
    (result : Except FileError FileSystem) :
    (s.change command shown result).2.shell = s.shell := by
  unfold change
  cases result <;> rfl

omit [Depot w] in
theorem shell_echo (s : Scene w) (text : String) : (s.echo text).2.shell = s.shell := by
  unfold echo
  split
  · rfl
  · split
    · rfl
    · exact shell_change ..

omit [Depot w] in
theorem shell_buy (s : Scene w) (id : String) : (s.buy id).2.shell = s.shell := by
  unfold buy
  split <;> rfl

omit [Depot w] in
theorem shell_onDesk (s : Scene w) (act : Action AccountError (Desk w) (List String)) :
    (s.onDesk act).2.shell = s.shell := rfl

/-- Only a hint reaches more of the shell than its machine and its tips. -/
theorem exists_shell_dispatch (s : Scene w) (threshold : UInt32) (line : String) (now : Instant)
    {c : Command.Simple} (hc : c ≠ .hint) :
    ∃ machine tip, (s.dispatch threshold line now c).2.shell =
      { s.shell with machine := machine, tip := tip } := by
  cases c with
  | hint => exact absurd rfl hc
  | tips => exact ⟨_, _, rfl⟩
  | «export» text => exact ⟨_, _, rfl⟩
  | kill pid => exact ⟨_, _, rfl⟩
  | package manager args => exact ⟨_, _, rfl⟩
  | cd path => exact ⟨_, _, shell_change ..⟩
  | echo text => exact ⟨_, _, shell_echo ..⟩
  | touch path =>
    cases path with
    | none => exact ⟨_, _, rfl⟩
    | some path => exact ⟨_, _, shell_change ..⟩
  | mkdir path =>
    cases path with
    | none => exact ⟨_, _, rfl⟩
    | some path => exact ⟨_, _, shell_change ..⟩
  | rm path =>
    cases path with
    | none => exact ⟨_, _, rfl⟩
    | some path => exact ⟨_, _, shell_change ..⟩
  | buy id =>
    cases id with
    | none => exact ⟨_, _, rfl⟩
    | some id => exact ⟨_, _, shell_buy ..⟩
  | cat path => cases path <;> exact ⟨_, _, rfl⟩
  | grep pattern path => cases pattern <;> cases path <;> exact ⟨_, _, rfl⟩
  | signup raw =>
    cases raw with
    | none => exact ⟨_, _, rfl⟩
    | some raw => exact ⟨_, _, by rw [dispatch_signup, shell_onDesk]⟩
  | login raw =>
    cases raw with
    | none => exact ⟨_, _, rfl⟩
    | some raw => exact ⟨_, _, by rw [dispatch_login, shell_onDesk]⟩
  | logout => exact ⟨_, _, by rw [dispatch_logout, shell_onDesk]⟩
  | sync => exact ⟨_, _, by rw [dispatch_sync, shell_onDesk]⟩
  | _ => exact ⟨_, _, rfl⟩

theorem shell_execute (s : Scene w) (threshold : UInt32) {text : String} (now : Instant)
    (h : (Text.trimmed text).isEmpty = false) :
    (s.execute threshold text now).2.shell = (s.dispatch threshold (Text.trimmed text) now
      (Command.parse (Text.trimmed text)).first).2.shell := by
  obtain ⟨o, after, hexec, -, hafter⟩ := s.exists_execute threshold now h
  rw [hexec, ← hafter, shell_withProgress]

theorem dispatch_hint (s : Scene w) (threshold : UInt32) (line : String) (now : Instant) :
    s.dispatch threshold line now .hint =
      s.onShell fun sh => sh.hint threshold s.progress now := rfl

theorem execute_hint (s : Scene w) (threshold : UInt32) {text : String} (now : Instant)
    (h : Command.parse (Text.trimmed text) = .simple .hint) :
    (s.execute threshold text now).1 = (s.shell.hint threshold s.progress now).1 ∧
      (s.execute threshold text now).2.shell = (s.shell.hint threshold s.progress now).2 := by
  cases hblank : (Text.trimmed text).isEmpty with
  | true => cases h.symm.trans (Command.parse_of_isEmpty hblank)
  | false =>
    unfold execute
    extract_lets trimmed
    rw [if_neg (by simp [trimmed, hblank]), h]
    exact ⟨rfl, rfl⟩

/-! ## Hints over a course of lines -/

/-- What happens to a scene: a line is executed at some millisecond, or everything but the shell
becomes another. -/
inductive Event (w : Type) where
  | line (text : String) (millis : Int)
  | meanwhile (fs : FileSystem) (desk : Desk w)

/-- The scene after it has happened. -/
def happen (s : Scene w) (threshold : UInt32) : Event w → Scene w
  | .line text millis => (s.execute threshold text (.ofMillis millis)).2
  | .meanwhile fs desk => { s with fs := fs, desk := desk }

/-- The scene after all this has happened, one thing after the other. -/
def course (s : Scene w) (threshold : UInt32) (es : List (Event w)) : Scene w :=
  es.foldl (fun s e => s.happen threshold e) s

/-- The line asks for a hint and is answered with one, before any filter. -/
def grants (s : Scene w) (threshold : UInt32) (text : String) (now : Instant) : Bool :=
  (Command.parse (Text.trimmed text)).first == .hint &&
    Shell.isHint threshold s.progress (s.dispatch threshold (Text.trimmed text) now .hint).1

/-- The time of the hint that is granted when this happens. -/
def grant? (s : Scene w) (threshold : UInt32) : Event w → Option Int
  | .line text millis => if s.grants threshold text (.ofMillis millis) then some millis else none
  | .meanwhile _ _ => none

/-- The time of the last hint that is granted while all this happens. -/
def lastGrant? (s : Scene w) (threshold : UInt32) : List (Event w) → Option Int
  | [] => none
  | e :: es => ((s.happen threshold e).lastGrant? threshold es).or (s.grant? threshold e)

variable {threshold : UInt32} {base : Int} {last : Option Int}

/-- Whatever happens, the shell remembers the last hint that was granted. -/
theorem paced_happen {s : Scene w} (h : s.shell.Paced base last) (e : Event w) :
    (s.happen threshold e).shell.Paced base ((s.grant? threshold e).or last) := by
  cases e with
  | meanwhile fs desk => exact h
  | line text millis =>
    rw [happen, grant?]
    cases hblank : (Text.trimmed text).isEmpty with
    | true =>
      rw [execute_of_isEmpty s threshold _ hblank, grants, Command.parse_of_isEmpty hblank]
      exact h
    | false =>
      rw [s.shell_execute threshold _ hblank, grants]
      by_cases hfirst : (Command.parse (Text.trimmed text)).first = .hint
      · rw [hfirst, dispatch_hint, beq_self_eq_true, Bool.true_and]
        exact h.hint threshold s.progress millis
      · obtain ⟨machine, tip, hshell⟩ := s.exists_shell_dispatch threshold (Text.trimmed text)
          (.ofMillis millis) hfirst
        rw [hshell, beq_false_of_ne hfirst]
        exact ⟨h.cooldown, h.lastHint⟩

theorem paced_course {s : Scene w} (h : s.shell.Paced base last) (es : List (Event w)) :
    (s.course threshold es).shell.Paced base ((s.lastGrant? threshold es).or last) := by
  induction es generalizing s last with
  | nil => exact h
  | cons e es ih =>
    rw [lastGrant?, Option.or_assoc]
    exact ih (paced_happen h e)

/-- A hint is granted if and only if none was granted before or the pause is over since the last
one: the time between hints less what the player has bought off it by then.  Otherwise nothing
is remembered of it, and the answer names the least number of seconds after which one is granted,
as long as the upgrades stay the same. -/
theorem hint_rate_limited {s : Scene w} (hbase : s.shell.hintCooldown = .ofMillis base)
    (hnew : s.shell.lastHint = none) (es : List (Event w)) {text : String}
    (htext : Command.parse (Text.trimmed text) = .simple .hint) (t : Int) {zone : Zone}
    {quest : Quest}
    (hnext : (s.course threshold es).progress.nextQuest? threshold = some (zone, quest)) :
    let before := s.course threshold es
    let (answer, after) := before.execute threshold text (.ofMillis t)
    let pause := max 0 (base - 1000 * before.progress.upgrades.hintCooldownReduction.toNat)
    (answer = .line s!"Hint: {quest.firstHint}" ↔
      ∀ last ∈ s.lastGrant? threshold es, last + pause ≤ t) ∧
    (answer ≠ .line s!"Hint: {quest.firstHint}" →
      after.shell = before.shell ∧
      ∃ wait : Int, 1 ≤ wait ∧ answer = .line s!"Hints cooling down. Wait {wait}s." ∧
        ∀ (p : Progress) (zone : Zone) (quest : Quest) (seconds : Int),
          p.upgrades = before.progress.upgrades → p.nextQuest? threshold = some (zone, quest) →
          (((after.withProgress p).execute threshold text (.ofMillis (t + 1000 * seconds))).1 =
            .line s!"Hint: {quest.firstHint}" ↔ wait ≤ seconds)) := by
  have hpaced : (s.course threshold es).shell.Paced base (s.lastGrant? threshold es) := by
    have hnone : s.shell.Paced base none := ⟨hbase, hnew⟩
    have h : (s.course threshold es).shell.Paced base _ := paced_course hnone es
    rwa [Option.or_none] at h
  extract_lets before pause
  rcases hexec : before.execute threshold text (.ofMillis t) with ⟨answer, after⟩
  dsimp only
  have hhint := before.execute_hint threshold (.ofMillis t) htext
  rw [hexec] at hhint
  obtain ⟨rfl, hafter⟩ : answer = _ ∧ after.shell = _ := hhint
  refine ⟨hpaced.hint_eq_line_iff t hnext, fun hrefused => ?_⟩
  obtain ⟨-, heq⟩ | ⟨g, wait, hg, hpos, hleast, heq⟩ := hpaced.hint_cases t hnext
  · exact absurd (by rw [heq]) hrefused
  have hsame : after.shell = before.shell := by rw [hafter, heq]
  refine ⟨hsame, wait, hpos, by rw [heq], fun p zone quest seconds hupgrades hnext => ?_⟩
  have hpause : Shell.pause base p = Shell.pause base (s.course threshold es).progress := by
    rw [Shell.pause, Shell.pause, hupgrades]
  have hlater : (after.withProgress p).shell.Paced base (some g) := by
    rw [shell_withProgress, hsame, ← hg]
    exact hpaced
  rw [((after.withProgress p).execute_hint threshold _ htext).1, progress_withProgress,
    hlater.hint_eq_line_iff _ hnext, hpause, ← hleast]
  simp only [Option.mem_some_iff, forall_eq']

/-- After a hint at one second the player buys five seconds off the twenty, and asks again at nine:
until sixteen the answer is a refusal. -/
theorem hint_rate_limited_boosted :
    let depot : Pair := ⟨.empty, .empty, ⟨0, 0⟩, .silent⟩
    let player : Player := { Player.initial with coins := 25 }
    let rich : Progress := { Progress.fresh ⟨0, 0⟩ with player := player }
    let s := (Session.start .initial ⟨false, false⟩ depot rich).scene
    let es := [Event.line "hint" 1000, .line "buy hint-boost" 2000]
    let (answer, after) := (s.course 6 es).execute 6 "hint" (.ofMillis 9001)
    s.shell.hintCooldown = .ofMillis 20000 ∧ s.shell.lastHint = none ∧
    Command.parse (Text.trimmed "hint") = .simple .hint ∧
    (s.course 6 es).progress.upgrades.hintCooldownReduction = 5 ∧
    s.lastGrant? 6 es = some 1000 ∧ answer = .line "Hints cooling down. Wait 7s." ∧
    ∃ zone quest, (s.course 6 es).progress.nextQuest? 6 = some (zone, quest) ∧
      answer ≠ .line s!"Hint: {quest.firstHint}" ∧ after.shell = (s.course 6 es).shell ∧
      ∃ wait : Int, 1 ≤ wait ∧ answer = .line s!"Hints cooling down. Wait {wait}s." ∧
        ∀ seconds : Int, (((after.withProgress (s.course 6 es).progress).execute 6 "hint"
          (.ofMillis (9001 + 1000 * seconds))).1 = .line s!"Hint: {quest.firstHint}" ↔
            wait ≤ seconds) := by
  intro depot player rich s es
  have hbase : s.shell.hintCooldown = .ofMillis 20000 := by decide
  have hparse : Command.parse (Text.trimmed "hint") = .simple .hint := by decide +kernel
  have hreduction : (s.course 6 es).progress.upgrades.hintCooldownReduction = 5 := by
    decide +kernel
  have hlast : s.lastGrant? 6 es = some 1000 := by decide +kernel
  have hanswer : ((s.course 6 es).execute 6 "hint" (.ofMillis 9001)).1 =
      .line "Hints cooling down. Wait 7s." := by decide +kernel
  obtain ⟨⟨zone, quest⟩, hnext⟩ : ∃ next, (s.course 6 es).progress.nextQuest? 6 = some next :=
    Option.isSome_iff_exists.1 (by decide +kernel)
  have h := hint_rate_limited hbase rfl es hparse 9001 hnext
  rcases hexec : (s.course 6 es).execute 6 "hint" (.ofMillis 9001) with ⟨answer, after⟩
  rw [hexec] at hanswer
  simp only [hexec, hlast, hreduction] at h
  obtain ⟨hgranted, hrefused⟩ := h
  have hearly : answer ≠ .line s!"Hint: {quest.firstHint}" :=
    fun h => absurd (hgranted.1 h 1000 rfl) (by decide)
  obtain ⟨hshell, wait, hpos, hwait, hleast⟩ := hrefused hearly
  exact ⟨hbase, rfl, hparse, hreduction, hlast, hanswer, zone, quest, hnext, hearly, hshell, wait,
    hpos, hwait, fun seconds => hleast _ zone quest seconds rfl hnext⟩

end Scene

end Questline
