import Questline.Proofs.Sync.Debounce
set_option autoImplicit false

/-!
# The timetable of a courier

Which records a courier sends, and when, can be read off the times at which records are handed
over: a record is sent when the window has passed, if no other record has come by then, and the
last one at the latest when the courier is dismissed.  `depot_upTo` compares this timetable with
what a courier does, at every moment of its duty and whatever the cloud answers.
-/

namespace Questline

namespace Link

variable {w : Type} [Depot w]

/-- A push does to the surroundings what the request to the cloud does. -/
theorem depot_push {l : Link w} (hl : l.configured = true) (id : String) (r : SaveRecord) :
    (push id r l).2.depot = ((Remote.upsert id r : Action SyncError w Unit) l.depot).2 := by
  rw [push_apply, if_pos hl]
  rcases (Remote.upsert id r : Action SyncError w Unit) l.depot with ⟨_ | _, d⟩ <;> rfl

end Link

namespace Post

/-! ## The timetable -/

/-- A request to the cloud to take a record, and the time at which it is made. -/
structure Dispatch where
  time : Nat
  profileId : String
  record : SaveRecord

/-- What is sent of `c`, which is handed over at the time `now`, and of the calls after it, if
the courier is dismissed `stay` milliseconds after the last one. -/
def dispatches (window now : Nat) (c : Call) (after : List Call) (stay : Nat) : List Dispatch :=
  match after with
  | [] => [⟨now + min window stay, c.profileId, c.record⟩]
  | d :: ds =>
    let later := dispatches window (now + d.wait) d ds stay
    if window < d.wait then ⟨now + window, c.profileId, c.record⟩ :: later else later

/-- What is sent of a course of calls that begins at the time `now`. -/
def timetable (window now : Nat) (cs : List Call) (stay : Nat) : List Dispatch :=
  match cs with
  | [] => []
  | c :: cs => dispatches window (now + c.wait) c cs stay

theorem le_time_of_mem_dispatches {window now stay : Nat} {c : Call} {after : List Call}
    {x : Dispatch} (h : x ∈ dispatches window now c after stay) : now ≤ x.time := by
  induction after generalizing now c with
  | nil =>
    rw [List.mem_singleton.1 h]
    exact Nat.le_add_right ..
  | cons d ds ih =>
    rw [dispatches] at h
    have hlater : x ∈ dispatches window (now + d.wait) d ds stay → now ≤ x.time := fun hx =>
      Nat.le_trans (Nat.le_add_right ..) (ih hx)
    split at h
    · rcases List.mem_cons.1 h with rfl | hx
      · exact Nat.le_add_right ..
      · exact hlater hx
    · exact hlater h

/-- The time from the beginning of a course of calls to its last one. -/
def span : List Call → Nat
  | [] => 0
  | c :: cs => c.wait + span cs

theorem time_le_of_mem_dispatches {window now stay : Nat} {c : Call} {after : List Call}
    {x : Dispatch} (h : x ∈ dispatches window now c after stay) :
    x.time ≤ now + span after + stay := by
  induction after generalizing now c with
  | nil =>
    rw [List.mem_singleton.1 h]
    show now + min window stay ≤ now + 0 + stay
    omega
  | cons d ds ih =>
    have hspan : span (d :: ds) = d.wait + span ds := rfl
    rw [dispatches] at h
    have hlater : x ∈ dispatches window (now + d.wait) d ds stay →
        x.time ≤ now + span (d :: ds) + stay := fun hx => by
      have := ih hx
      omega
    split at h
    · rcases List.mem_cons.1 h with rfl | hx
      · show now + window ≤ _
        omega
      · exact hlater hx
    · exact hlater h

/-- The dispatches are made in the order of the calls. -/
theorem pairwise_dispatches (window now stay : Nat) (c : Call) (after : List Call) :
    (dispatches window now c after stay).Pairwise fun x y => x.time ≤ y.time := by
  induction after generalizing now c with
  | nil => exact List.pairwise_singleton ..
  | cons d ds ih =>
    rw [dispatches]
    split
    · next hlate =>
      refine .cons (fun y hy => ?_) (ih ..)
      have := le_time_of_mem_dispatches hy
      show now + window ≤ y.time
      omega
    · exact ih ..

/-- Nothing of the calls from a later time on is sent before. -/
theorem filter_dispatches_eq_nil {window now stay t : Nat} {c : Call} {after : List Call}
    (h : t < now) : (dispatches window now c after stay).filter (·.time ≤ t) = [] := by
  refine List.filter_eq_nil_iff.2 fun x hx => ?_
  have := le_time_of_mem_dispatches hx
  simp only [decide_eq_true_eq]
  omega

/-! ## The courier on duty -/

variable {w : Type} [Depot w]

/-- The request is made; whether it is granted is left to the surroundings. -/
def Dispatch.ask (depot : w) (d : Dispatch) : w :=
  ((Remote.upsert d.profileId d.record : Action SyncError w Unit) depot).2

/-- The post as it stands `t` milliseconds from now, in a course of calls at whose end, `stay`
milliseconds after the last one, the courier is dismissed. -/
def upTo (p : Post w) (cs : List Call) (stay t : Nat) : Post w :=
  match cs with
  | [] => if stay ≤ t then (p.sleep stay).dismiss.sleep (t - stay) else p.sleep t
  | c :: cs =>
    if c.wait ≤ t then ((p.sleep c.wait).schedule c.profileId c.record).upTo cs stay (t - c.wait)
    else p.sleep t

/-- A post with a courier on duty. -/
def manned (window : Nat) (l : Link w) (waiting : Option Parcel) (now : Moment) : Post w :=
  ⟨l, some ⟨window, waiting⟩, window, now⟩

section

variable {window : Nat} {l : Link w} {parcel : Parcel} {now : Moment} {t : Nat}

theorem sleep_manned_none : (manned window l none now).sleep t =
    manned window l none { now with millis := now.millis + t } := rfl

theorem sleep_manned_some : (manned window l (some parcel) now).sleep t =
    if parcel.due ≤ now.millis + t then
      manned window (parcel.send l) none { now with millis := now.millis + t }
    else manned window l (some parcel) { now with millis := now.millis + t } := by
  by_cases hdue : parcel.due ≤ now.millis + t <;>
    simp [manned, sleep, deliver, Courier.takeDue, hdue, Parcel.sendAny]

omit [Depot w] in
theorem schedule_manned (waiting : Option Parcel) (id : String) (r : SaveRecord) :
    (manned window l waiting now).schedule id r =
      manned window { l with pending := true } (some ⟨id, r, now.millis + window, now⟩) now := rfl

/-- After the courier has been dismissed nothing is sent any more. -/
theorem link_sleep_dismiss (p : Post w) (t : Nat) :
    (p.dismiss.sleep t).link = Parcel.sendAny (p.courier.bind Courier.waiting) p.link := rfl

end

/-! ## What a courier does -/

/-- From a call on, what is asked of the cloud up to any time is what the timetable says. -/
theorem depot_upTo_waiting {window : Nat} {l : Link w} (hl : l.configured = true) {now : Moment}
    (c : Call) {after : List Call} (hafter : ∀ d ∈ after, d.wait ≠ window) (stay t : Nat) :
    ((manned window l (some ⟨c.profileId, c.record, now.millis + window, now⟩) now).upTo
        after stay t).link.depot =
      ((dispatches window now.millis c after stay).filter (·.time ≤ now.millis + t)).foldl
        Dispatch.ask l.depot := by
  induction after generalizing l now c t with
  | nil =>
    rw [upTo, dispatches]
    by_cases hend : stay ≤ t
    · -- The record is sent when the window has passed or at the dismissal, so exactly once.
      have hkept : now.millis + min window stay ≤ now.millis + t := by omega
      rw [if_pos hend, link_sleep_dismiss, List.filter_cons_of_pos (by simpa using hkept),
        sleep_manned_some]
      split
      · exact Link.depot_push hl ..
      · exact Link.depot_push hl ..
    · rw [if_neg hend, sleep_manned_some]
      by_cases hdue : window ≤ t
      · rw [if_pos (Nat.add_le_add_left hdue _),
          List.filter_cons_of_pos (by simp; omega)]
        exact Link.depot_push hl ..
      · rw [if_neg (by show ¬ now.millis + window ≤ _; omega),
          List.filter_cons_of_neg (by simp; omega)]
        rfl
  | cons d ds ih =>
    obtain ⟨hd, hds⟩ := List.forall_mem_cons.1 hafter
    rw [upTo, dispatches]
    by_cases hcall : d.wait ≤ t
    · have htime : now.millis + d.wait + (t - d.wait) = now.millis + t := by omega
      rw [if_pos hcall, sleep_manned_some]
      by_cases hlate : window < d.wait
      · have hkept : now.millis + window ≤ now.millis + t := by omega
        have hnext : ({ Parcel.send ⟨c.profileId, c.record, now.millis + window, now⟩ l with
            pending := true } : Link w).configured = true := (Link.configured_push ..).trans hl
        rw [if_pos (Nat.add_le_add_left (Nat.le_of_lt hlate) _), if_pos hlate, schedule_manned,
          ih hnext d hds, List.filter_cons_of_pos (by simpa using hkept), List.foldl_cons, htime]
        exact congrArg (List.foldl _ · _) (Link.depot_push hl ..)
      · -- The record has not waited for long enough, and the next one takes its place.
        have hrests : ¬ now.millis + window ≤ now.millis + d.wait := by omega
        rw [if_neg hrests, if_neg hlate, schedule_manned, ih (by exact hl) d hds, htime]
    · have hnone : (dispatches window (now.millis + d.wait) d ds stay).filter
          (·.time ≤ now.millis + t) = [] := filter_dispatches_eq_nil (by omega)
      rw [if_neg hcall, sleep_manned_some]
      by_cases hdue : window ≤ t
      · rw [if_pos (Nat.add_le_add_left hdue _), if_pos (by omega),
          List.filter_cons_of_pos (by simp; omega), hnone]
        exact Link.depot_push hl ..
      · rw [if_neg (by show ¬ now.millis + window ≤ _; omega)]
        split
        · rw [List.filter_cons_of_neg (by simp; omega), hnone]
          rfl
        · rw [hnone]
          rfl

/-- Of any course of calls, none of which comes exactly when the record before it has waited for
the window, a courier that is dismissed in the end sends exactly what the timetable says: at every
moment what it has asked of the cloud are the dispatches that were due by then, in their order. -/
theorem depot_upTo (window : Nat) (depot : w) (pending : Bool) (now : Moment) (cs : List Call)
    (hcs : ∀ c ∈ cs.tail, c.wait ≠ window) (stay t : Nat) :
    ((manned window ⟨depot, true, pending⟩ none now).upTo cs stay t).link.depot =
        ((timetable window now.millis cs stay).filter (·.time ≤ now.millis + t)).foldl
          Dispatch.ask depot ∧
      (∀ x ∈ timetable window now.millis cs stay, x.time ≤ now.millis + span cs + stay) ∧
      (timetable window now.millis cs stay).Pairwise fun x y => x.time ≤ y.time := by
  cases cs with
  | nil =>
    refine ⟨?_, nofun, .nil⟩
    rw [upTo]
    split <;> rfl
  | cons c cs =>
    refine ⟨?_, fun x hx => ?_, pairwise_dispatches ..⟩
    rotate_left
    · have hspan : span (c :: cs) = c.wait + span cs := rfl
      have := time_le_of_mem_dispatches hx
      omega
    rw [upTo, timetable]
    by_cases hcall : c.wait ≤ t
    · have htime : now.millis + c.wait + (t - c.wait) = now.millis + t := by omega
      rw [if_pos hcall, sleep_manned_none, schedule_manned]
      refine (depot_upTo_waiting (by rfl) c hcs stay _).trans ?_
      rw [htime]
      rfl
    · rw [if_neg hcall, filter_dispatches_eq_nil (by omega)]
      rfl

/-- Three records, of which the first is replaced, the second waits for the window and the last
one is sent at the dismissal. -/
theorem depot_upTo_of_three :
    let depot : Pair := ⟨.empty, .empty, ⟨0, 0⟩, .silent⟩
    let save (n : Nat) : SaveRecord := .ofProgress (.fresh ⟨n, 0⟩)
    let calls : List Call := [⟨0, "a", save 1⟩, ⟨1000, "a", save 2⟩, ⟨3000, "b", save 3⟩]
    (∀ c ∈ calls.tail, c.wait ≠ 2500) ∧
      timetable 2500 0 calls 500 = [⟨3500, "a", save 2⟩, ⟨4500, "b", save 3⟩] ∧
      ((manned 2500 ⟨depot, true, false⟩ none ⟨0, 0⟩).upTo calls 500 4500).link.depot =
        Dispatch.ask (Dispatch.ask depot ⟨3500, "a", save 2⟩) ⟨4500, "b", save 3⟩ := by
  intro depot save calls
  have hcalls : ∀ c ∈ calls.tail, c.wait ≠ 2500 := by simp [calls]
  have htable : timetable 2500 0 calls 500 = [⟨3500, "a", save 2⟩, ⟨4500, "b", save 3⟩] := by
    simp [calls, timetable, dispatches]
  obtain ⟨hasked, -, -⟩ := depot_upTo 2500 depot false ⟨0, 0⟩ calls hcalls 500 4500
  refine ⟨hcalls, htable, hasked.trans ?_⟩
  rw [htable]
  simp

end Post

end Questline
