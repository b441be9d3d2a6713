import Questline.Proofs.Sync.Sending
set_option autoImplicit false

/-!
# Records that are handed over and sent later

A courier has one record in hand at a time.  `Post.text?_finish` follows a record through a
course of calls, with any profiles, records and times between them: it reaches the cloud if
the next call leaves it the window, whosever record that call brings; if not, and no later
call is of its profile, it is never sent.  Nothing is said of calls that come exactly when the
record before them has waited for the window: which of the two is looked at first is open then.
-/

namespace Questline

namespace Post

variable {p : Post Pair} {parcel : Parcel} {id : String} {t : Nat}

/-- What waits to be sent. -/
def waiting (p : Post Pair) : Option Parcel := p.courier.bind Courier.waiting

/-- What is sent arrives, and a courier on duty lets a record wait for the usual time. -/
structure Ready (p : Post Pair) : Prop where
  lands : p.link.Lands
  window : ∀ c, p.courier = some c → c.window = p.window

/-- The text that the cloud has for a profile. -/
def text? (p : Post Pair) (id : String) : Option String := p.link.depot.cloud.text? id

/-! ## Waiting -/

/-- Nothing that waits is due after some time. -/
def Rests (p : Post Pair) (t : Nat) : Prop :=
  ∀ parcel, p.waiting = some parcel → p.moment.millis + t < parcel.due

theorem sleep_of_rests (h : p.Rests t) :
    p.sleep t = { p with moment := { p.moment with millis := p.moment.millis + t } } := by
  obtain ⟨link, courier, window, moment⟩ := p
  cases courier with
  | none => rfl
  | some c =>
    obtain ⟨window', waiting⟩ := c
    cases waiting with
    | none => rfl
    | some parcel =>
      have hdue : ¬ parcel.due ≤ moment.millis + t := Nat.not_le.2 (h parcel rfl)
      simp only [sleep, deliver, Courier.takeDue, if_neg hdue, Parcel.sendAny]

theorem sleep_of_due (h : p.waiting = some parcel) (hdue : parcel.due ≤ p.moment.millis + t) :
    p.sleep t = { p with
      moment := { p.moment with millis := p.moment.millis + t }
      link := parcel.send p.link
      courier := p.courier.map fun c => { c with waiting := none } } := by
  obtain ⟨link, courier, window, moment⟩ := p
  cases courier with
  | none => cases h
  | some c =>
    obtain ⟨window', waiting⟩ := c
    cases h
    simp only [sleep, deliver, Courier.takeDue, if_pos hdue, Parcel.sendAny, Option.map_some]

/-- What waits either rests or is due. -/
theorem rests_or_due (p : Post Pair) (t : Nat) :
    p.Rests t ∨ ∃ parcel, p.waiting = some parcel ∧ parcel.due ≤ p.moment.millis + t := by
  by_cases hdue : ∃ parcel, p.waiting = some parcel ∧ parcel.due ≤ p.moment.millis + t
  · exact .inr hdue
  · exact .inl fun parcel hw => Nat.not_le.1 fun hle => hdue ⟨parcel, hw, hle⟩

@[simp] theorem window_sleep (p : Post Pair) (t : Nat) : (p.sleep t).window = p.window := by
  rcases p.rests_or_due t with h | ⟨parcel, hw, hdue⟩
  · rw [sleep_of_rests h]
  · rw [sleep_of_due hw hdue]

theorem Ready.sleep (h : p.Ready) (t : Nat) : (p.sleep t).Ready := by
  rcases p.rests_or_due t with hrests | ⟨parcel, hw, hdue⟩
  · rw [sleep_of_rests hrests]
    exact ⟨h.lands, h.window⟩
  · rw [sleep_of_due hw hdue]
    refine ⟨h.lands.push _ _, fun c hc => ?_⟩
    obtain ⟨c', hc', rfl⟩ := Option.map_eq_some_iff.1 hc
    exact h.window c' hc'

/-- While time passes, only the save of the profile that waits can change. -/
theorem text?_sleep_of_ne (h : ∀ parcel, p.waiting = some parcel → id ≠ parcel.profileId) :
    (p.sleep t).text? id = p.text? id := by
  rcases p.rests_or_due t with hrests | ⟨parcel, hw, hdue⟩
  · rw [sleep_of_rests hrests]
    rfl
  · rw [sleep_of_due hw hdue]
    exact Link.text?_push_of_ne (h parcel hw) _

theorem link_dismiss (p : Post Pair) : p.dismiss.link = Parcel.sendAny p.waiting p.link := rfl

theorem text?_dismiss_of_ne (h : ∀ parcel, p.waiting = some parcel → id ≠ parcel.profileId) :
    p.dismiss.text? id = p.text? id := by
  rw [text?, link_dismiss]
  cases hw : p.waiting with
  | none => rfl
  | some parcel => exact Link.text?_push_of_ne (h parcel hw) _

theorem waiting_sleep_of_due (h : p.waiting = some parcel)
    (hdue : parcel.due ≤ p.moment.millis + t) : (p.sleep t).waiting = none := by
  rw [sleep_of_due h hdue, waiting]
  cases p.courier <;> rfl

theorem waiting_sleep {parcel : Parcel} (h : (p.sleep t).waiting = some parcel) :
    p.waiting = some parcel := by
  rcases p.rests_or_due t with hrests | ⟨parcel', hw, hdue⟩
  · rwa [sleep_of_rests hrests] at h
  · cases (waiting_sleep_of_due hw hdue).symm.trans h

/-! ## Calls -/

/-- A record that is handed over, some time after the one before. -/
structure Call where
  wait : Nat
  profileId : String
  record : SaveRecord

/-- Time passes, and a record is handed over. -/
def take (p : Post Pair) (c : Call) : Post Pair := (p.sleep c.wait).schedule c.profileId c.record

/-- A course of calls, one after the other. -/
def takeAll (p : Post Pair) (cs : List Call) : Post Pair := cs.foldl take p

/-- How a course of calls ends. -/
inductive Ending where
  /-- There is no other call for some time. -/
  | quiet (millis : Nat)
  /-- After some time the courier is dismissed. -/
  | dismissal (millis : Nat)

/-- What an ending makes of what the calls have left. -/
def finish (p : Post Pair) : Ending → Post Pair
  | .quiet t => p.sleep t
  | .dismissal t => (p.sleep t).dismiss

/-- By this ending a record that waits for the window has been sent. -/
def Ending.Suffices (window : Nat) : Ending → Prop
  | .quiet t => window ≤ t
  | .dismissal _ => True

/-- The next call, if there is one, comes after the window. -/
def LeavesTime (window : Nat) (cs : List Call) : Prop := ∀ c, cs.head? = some c → window < c.wait

instance (window : Nat) (cs : List Call) : Decidable (LeavesTime window cs) :=
  decidable_of_iff (∀ c ∈ cs.head?, window < c.wait) (by simp [LeavesTime])

variable {c d : Call} {cs before after : List Call} {e : Ending}

theorem takeAll_cons (p : Post Pair) (c : Call) (cs : List Call) :
    p.takeAll (c :: cs) = (p.take c).takeAll cs := rfl

theorem takeAll_append_cons (p : Post Pair) (before after : List Call) (c : Call) :
    p.takeAll (before ++ c :: after) = ((p.takeAll before).take c).takeAll after := by
  rw [takeAll, List.foldl_append]
  rfl

theorem window_take (p : Post Pair) (c : Call) : (p.take c).window = p.window :=
  window_sleep p c.wait

theorem Ready.take (h : p.Ready) (c : Call) : (p.take c).Ready := by
  have hsleep := h.sleep c.wait
  refine ⟨⟨hsleep.lands.configured, hsleep.lands.online, hsleep.lands.writes⟩, fun courier hc => ?_⟩
  cases hc
  cases hold : (p.sleep c.wait).courier with
  | none => rfl
  | some old => exact hsleep.window old hold

theorem Ready.takeAll (h : p.Ready) (cs : List Call) : (p.takeAll cs).Ready := by
  induction cs generalizing p with
  | nil => exact h
  | cons c cs ih => exact ih (h.take c)

theorem window_takeAll (p : Post Pair) (cs : List Call) : (p.takeAll cs).window = p.window := by
  induction cs generalizing p with
  | nil => rfl
  | cons c cs ih => exact (ih (p.take c)).trans (window_take p c)

/-- What is handed over takes the place of what waited. -/
theorem exists_waiting_take (h : p.Ready) (c : Call) :
    ∃ parcel, (p.take c).waiting = some parcel ∧ parcel.profileId = c.profileId ∧
      parcel.record = c.record ∧ parcel.due = (p.take c).moment.millis + p.window := by
  have hwindow := (h.sleep c.wait).window
  cases hold : (p.sleep c.wait).courier with
  | none =>
    refine ⟨_, rfl, rfl, rfl, ?_⟩
    rw [hold, Option.getD_none]
    exact congrArg _ (window_sleep p c.wait)
  | some old =>
    refine ⟨_, rfl, rfl, rfl, ?_⟩
    rw [hold, Option.getD_some]
    exact congrArg _ ((hwindow old hold).trans (window_sleep p c.wait))

theorem text?_take (p : Post Pair) (c : Call) (id : String) :
    (p.take c).text? id = (p.sleep c.wait).text? id := rfl

/-! ## What becomes of a record -/

/-- The save of a profile that neither waits nor is handed over stays as it is. -/
theorem text?_finish_of_ne (h : p.Ready)
    (hp : ∀ parcel, p.waiting = some parcel → id ≠ parcel.profileId)
    (hcs : ∀ d ∈ cs, id ≠ d.profileId) (e : Ending) :
    ((p.takeAll cs).finish e).text? id = p.text? id := by
  induction cs generalizing p with
  | nil =>
    cases e with
    | quiet t => exact text?_sleep_of_ne hp
    | dismissal t =>
      refine (text?_dismiss_of_ne fun parcel hw => ?_).trans (text?_sleep_of_ne hp)
      exact hp parcel (waiting_sleep hw)
  | cons d cs ih =>
    obtain ⟨parcel, hwaiting, hid, -, -⟩ := exists_waiting_take h d
    have htake : ∀ parcel, (p.take d).waiting = some parcel → id ≠ parcel.profileId := by
      intro parcel' hparcel'
      rw [← Option.some.inj (hwaiting.symm.trans hparcel'), hid]
      exact hcs d List.mem_cons_self
    have hrest := ih (h.take d) htake fun d' hd' => hcs d' (List.mem_cons_of_mem _ hd')
    rw [takeAll_cons, hrest, text?_take]
    exact text?_sleep_of_ne hp

/-- What waits is sent by an ending that suffices. -/
theorem link_finish (hw : p.waiting = some parcel)
    (hdue : parcel.due ≤ p.moment.millis + p.window) (he : e.Suffices p.window) :
    (p.finish e).link = parcel.send p.link := by
  cases e with
  | quiet t => rw [finish, sleep_of_due hw (Nat.le_trans hdue (Nat.add_le_add_left he _))]
  | dismissal t =>
    rw [finish, link_dismiss]
    rcases p.rests_or_due t with hrests | ⟨parcel', hw', hdue'⟩
    · rw [sleep_of_rests hrests]
      exact congrArg (Parcel.sendAny · p.link) hw
    · cases hw.symm.trans hw'
      rw [waiting_sleep_of_due hw hdue', sleep_of_due hw hdue']
      rfl

/-- However many records were lost, after the last one nothing seems to be lacking. -/
theorem pending_finish (h : p.Ready) (he : e.Suffices p.window) (cs : List Call) (c : Call) :
    ((p.takeAll (cs ++ [c])).finish e).link.pending = false := by
  have hready := h.takeAll cs
  obtain ⟨parcel, hw, -, -, hdue⟩ := exists_waiting_take hready c
  have hwindow : ((p.takeAll cs).take c).window = p.window :=
    (window_take _ c).trans (window_takeAll p cs)
  rw [window_takeAll] at hdue
  rw [takeAll_append_cons]
  refine (congrArg Link.pending (link_finish hw ?_ (hwindow ▸ he))).trans ?_
  · exact Nat.le_of_eq (by rw [hdue, hwindow])
  · exact Link.pending_push_of_lands (hready.take c).lands _ _

/-- The last record that is handed over for a profile reaches the cloud if the next call
leaves it the window; otherwise the cloud stays with the save it had at the time. -/
theorem text?_finish (h : p.Ready) (hafter : ∀ d ∈ after, d.profileId ≠ c.profileId)
    (htie : ∀ d ∈ after, d.wait ≠ p.window) (he : e.Suffices p.window) :
    ((p.takeAll (before ++ c :: after)).finish e).text? c.profileId =
      if LeavesTime p.window after then some c.record.toText
      else ((p.takeAll before).sleep c.wait).text? c.profileId := by
  have hready := h.takeAll before
  obtain ⟨parcel, hw, hid, hrecord, hdue⟩ := exists_waiting_take hready c
  have htake := hready.take c
  have hwindow : ((p.takeAll before).take c).window = p.window :=
    (window_take _ c).trans (window_takeAll p before)
  rw [window_takeAll] at hdue
  rw [takeAll_append_cons]
  generalize hq : (p.takeAll before).take c = q at *
  cases after with
  | nil =>
    have hend : parcel.due ≤ q.moment.millis + q.window := Nat.le_of_eq (by rw [hdue, hwindow])
    have hlink : ((q.takeAll []).finish e).link = parcel.send q.link :=
      link_finish hw hend (hwindow ▸ he)
    rw [if_pos (by simp [LeavesTime]), ← hid, ← hrecord, text?, hlink]
    exact Link.text?_push_self htake.lands _ _
  | cons d ds =>
    -- From the next call on, nothing of the profile waits any more.
    obtain ⟨next, hnext, hnextId, -, -⟩ := exists_waiting_take htake d
    have hother : ∀ parcel, (q.take d).waiting = some parcel → c.profileId ≠ parcel.profileId := by
      intro parcel' hparcel'
      rw [← Option.some.inj (hnext.symm.trans hparcel'), hnextId]
      exact (hafter d List.mem_cons_self).symm
    have hrest : ∀ d' ∈ ds, c.profileId ≠ d'.profileId := fun d' hd' =>
      (hafter d' (List.mem_cons_of_mem _ hd')).symm
    rw [takeAll_cons, text?_finish_of_ne (htake.take d) hother hrest, text?_take]
    by_cases hwait : p.window < d.wait
    · rw [if_pos (by simpa [LeavesTime] using hwait), sleep_of_due hw (by omega), ← hid, ← hrecord]
      exact Link.text?_push_self htake.lands _ _
    · have hrests : q.Rests d.wait := by
        intro parcel' hparcel'
        have hne : d.wait ≠ p.window := htie d List.mem_cons_self
        rw [← Option.some.inj (hw.symm.trans hparcel')]
        omega
      rw [if_neg (by simpa [LeavesTime] using hwait), sleep_of_rests hrests]
      exact (congrArg (text? · c.profileId) hq).symm.trans (text?_take _ c _)

/-- Where no call comes exactly when the record before it has waited for the window, the last
record that is handed over for a profile is the one the cloud has in the end exactly if the next
call leaves it the window, or the cloud had that record already. -/
theorem text?_finish_eq_some_iff (h : p.Ready) (hafter : ∀ d ∈ after, d.profileId ≠ c.profileId)
    (hties : ∀ d ∈ (before ++ c :: after).tail, d.wait ≠ p.window) (he : e.Suffices p.window) :
    ((p.takeAll (before ++ c :: after)).finish e).text? c.profileId = some c.record.toText ↔
      LeavesTime p.window after ∨
        ((p.takeAll before).sleep c.wait).text? c.profileId = some c.record.toText := by
  have htie : ∀ d ∈ after, d.wait ≠ p.window := fun d hd => hties d <| by
    cases before with
    | nil => exact hd
    | cons b bs => exact List.mem_append_right bs (List.mem_cons_of_mem c hd)
  rw [text?_finish h hafter htie he]
  by_cases htime : LeavesTime p.window after
  · rw [if_pos htime]
    exact ⟨fun _ => .inl htime, fun _ => rfl⟩
  · rw [if_neg htime]
    exact ⟨.inr, fun hor => hor.resolve_left htime⟩

/-- Two profiles within one window: the save of the first never reaches the cloud, and what
is sent of the second takes the mark off that something is lacking. -/
theorem not_text?_finish_of_other_profile :
    ∃ (p : Post Pair) (c d : Call), p.Ready ∧ p.window = 2500 ∧ d.profileId ≠ c.profileId ∧
      ((p.takeAll [c, d]).finish (.quiet 2500)).text? c.profileId ≠ some c.record.toText ∧
      ((p.takeAll [c, d]).finish (.quiet 2500)).link.pending = false := by
  obtain ⟨record⟩ : Nonempty SaveRecord := ⟨.ofProgress (.fresh ⟨0, 0⟩)⟩
  obtain ⟨p, hready, hwindow, hnone⟩ : ∃ p : Post Pair, p.Ready ∧ p.window = 2500 ∧
      ((p.takeAll []).sleep 0).text? "a" = none :=
    ⟨⟨⟨⟨.empty, .empty, ⟨0, 0⟩, .silent⟩, true, false⟩, none, 2500, ⟨0, 0⟩⟩,
      ⟨⟨rfl, rfl, rfl⟩, fun c hc => by cases hc⟩, rfl, Keyed.get?_empty (Remote.saveKey "a")⟩
  have hne : "b" ≠ "a" := by decide
  have hother : ∀ d ∈ [(⟨0, "b", record⟩ : Call)], d.profileId ≠ "a" := by
    intro d hd
    rw [List.mem_singleton.1 hd]
    exact hne
  have hties : ∀ d ∈ [(⟨0, "b", record⟩ : Call)], d.wait ≠ p.window := by
    intro d hd
    rw [List.mem_singleton.1 hd, hwindow]
    show 0 ≠ 2500
    decide
  have hsuffices : (Ending.quiet 2500).Suffices p.window := Nat.le_of_eq hwindow
  refine ⟨p, ⟨0, "a", record⟩, ⟨0, "b", record⟩, hready, hwindow, hne, fun htext => ?_,
    pending_finish hready hsuffices [_] _⟩
  have hiff := @text?_finish_eq_some_iff p ⟨0, "a", record⟩ [] _ _ hready hother hties hsuffices
  rcases hiff.1 htext with htime | hbefore
  · exact absurd (htime _ rfl) (Nat.not_lt_zero _)
  · cases hnone.symm.trans hbefore

end Post

end Questline
