import Questline.Store.Basic
set_option autoImplicit false

/-!
# Actions, run

An action is opened in two ways.  Where its course is known, `bind_apply` and its
companions carry it out one step at a time.  Where only what it leaves alone is
of interest, `Meets` states what holds after it, with one rule for each way in
which actions are put together.
-/

namespace Questline.Action

variable {ε ε' σ α β : Type}

/-! ## Carrying out -/

/-- A sequence stops at its first failure and keeps what was changed until then. -/
theorem bind_apply (x : Action ε σ α) (f : α → Action ε σ β) (s : σ) :
    (x >>= f) s = match x s with
      | (.ok a, t) => f a t
      | (.error e, t) => (.error e, t) := by
  change ExceptT.bindCont f (x s).1 (x s).2 = _
  rcases x s with ⟨_ | _, t⟩ <;> rfl

@[simp] theorem pure_apply (a : α) (s : σ) : (pure a : Action ε σ α) s = (.ok a, s) := rfl

@[simp] theorem throw_apply (e : ε) (s : σ) : (throw e : Action ε σ α) s = (.error e, s) := rfl

@[simp] theorem get_apply (s : σ) : (get : Action ε σ σ) s = (.ok s, s) := rfl

@[simp] theorem modify_apply (g : σ → σ) (s : σ) :
    (modify g : Action ε σ PUnit) s = (.ok ⟨⟩, g s) := rfl

theorem adapt_apply (g : ε → ε') (x : Action ε σ α) (s : σ) :
    (ExceptT.adapt g x : Action ε' σ α) s = match x s with
      | (.ok a, t) => (.ok a, t)
      | (.error e, t) => (.error (g e), t) := by
  change (Except.mapError g (x s).1, (x s).2) = _
  rcases x s with ⟨_ | _, t⟩ <;> rfl

theorem tryCatch_apply (x : Action ε σ α) (h : ε → Action ε σ α) (s : σ) :
    (tryCatch x h) s = match x s with
      | (.ok a, t) => (.ok a, t)
      | (.error e, t) => h e t := by
  change (match (x s).1 with
    | .ok a => (pure (.ok a) : StateM σ (Except ε α))
    | .error e => h e) (x s).2 = _
  rcases x s with ⟨_ | _, t⟩ <;> rfl

theorem bind_eq_of_ok {x : Action ε σ α} {f : α → Action ε σ β} {s t : σ} {a : α}
    (h : x s = (.ok a, t)) : (x >>= f) s = f a t := by
  rw [bind_apply, h]

theorem bind_eq_of_error {x : Action ε σ α} {f : α → Action ε σ β} {s t : σ} {e : ε}
    (h : x s = (.error e, t)) : (x >>= f) s = (.error e, t) := by
  rw [bind_apply, h]

/-- A sequence that succeeds has succeeded in both of its parts. -/
theorem exists_of_bind_eq_ok {x : Action ε σ α} {f : α → Action ε σ β} {s u : σ} {b : β}
    (h : (x >>= f) s = (.ok b, u)) : ∃ a t, x s = (.ok a, t) ∧ f a t = (.ok b, u) := by
  cases hx : x s with
  | mk r t =>
    cases r with
    | ok a => exact ⟨a, t, rfl, (bind_eq_of_ok hx).symm.trans h⟩
    | error e => rw [bind_eq_of_error hx] at h; cases h

/-- A sequence that fails has failed in its first part or in its second. -/
theorem cases_of_bind_eq_error {x : Action ε σ α} {f : α → Action ε σ β} {s u : σ} {e : ε}
    (h : (x >>= f) s = (.error e, u)) :
    x s = (.error e, u) ∨ ∃ a t, x s = (.ok a, t) ∧ f a t = (.error e, u) := by
  cases hx : x s with
  | mk r t =>
    cases r with
    | ok a => exact .inr ⟨a, t, rfl, (bind_eq_of_ok hx).symm.trans h⟩
    | error e' =>
      rw [bind_eq_of_error hx] at h
      cases h
      exact .inl rfl

/-! ## What holds after an action -/

/-- Begun where `P` holds, the action ends where `Q` holds of its value, or fails
where `E` holds. -/
structure Meets (P : σ → Prop) (x : Action ε σ α) (Q : α → σ → Prop) (E : σ → Prop) : Prop where
  ok : ∀ {s t a}, P s → x s = (.ok a, t) → Q a t
  error : ∀ {s t e}, P s → x s = (.error e, t) → E t

variable {P P' : σ → Prop} {Q Q' : α → σ → Prop} {E E' : σ → Prop}

theorem meets_of_apply {x : Action ε σ α}
    (h : ∀ s, P s → match x s with
      | (.ok a, t) => Q a t
      | (.error _, t) => E t) : Meets P x Q E := by
  refine ⟨fun {s} _ _ hs hx => ?_, fun {s} _ _ hs hx => ?_⟩
  · have := h s hs
    rwa [hx] at this
  · have := h s hs
    rwa [hx] at this

/-- What holds in either case holds of the state an action leaves. -/
theorem Meets.snd {x : Action ε σ α} {R : σ → Prop} (h : Meets P x (fun _ => R) R) {s : σ}
    (hs : P s) : R (x s).2 := by
  rcases hx : x s with ⟨_ | _, t⟩
  · exact h.error hs hx
  · exact h.ok hs hx

/-- An action that cannot fail succeeds. -/
theorem Meets.exists_ok {x : Action ε σ α} (h : Meets P x Q fun _ => False) {s : σ} (hs : P s) :
    ∃ a t, x s = (.ok a, t) ∧ Q a t := by
  rcases hx : x s with ⟨e | a, t⟩
  · exact (h.error hs hx).elim
  · exact ⟨a, t, rfl, h.ok hs hx⟩

theorem Meets.mono {x : Action ε σ α} (h : Meets P x Q E) (hP : ∀ s, P' s → P s)
    (hQ : ∀ a s, Q a s → Q' a s) (hE : ∀ s, E s → E' s) : Meets P' x Q' E' :=
  ⟨fun hs hx => hQ _ _ (h.ok (hP _ hs) hx), fun hs hx => hE _ (h.error (hP _ hs) hx)⟩

theorem Meets.of_imp {x : Action ε σ α} (h : Meets P x Q E) (hP : ∀ s, P' s → P s) :
    Meets P' x Q E := h.mono hP (fun _ _ hq => hq) fun _ he => he

/-- An action that cannot fail fails only where one likes. -/
theorem Meets.unfailing {x : Action ε σ α} (h : Meets P x Q fun _ => False) : Meets P x Q E :=
  h.mono (fun _ hp => hp) (fun _ _ hq => hq) fun _ he => he.elim

/-- What is known of an action in two ways holds at once. -/
theorem Meets.and {x : Action ε σ α} (h : Meets P x Q E) (h' : Meets P x Q' E') :
    Meets P x (fun a s => Q a s ∧ Q' a s) fun s => E s ∧ E' s :=
  ⟨fun hs hx => ⟨h.ok hs hx, h'.ok hs hx⟩, fun hs hx => ⟨h.error hs hx, h'.error hs hx⟩⟩

/-- What holds from all states of a kind holds from this one. -/
theorem Meets.of_eq {x : Action ε σ α} {s : σ} (h : Meets P x Q E) (hs : P s) :
    Meets (· = s) x Q E := h.of_imp fun _ heq => heq ▸ hs

theorem meets_of_eq {x : Action ε σ α} (h : ∀ s, P s → Meets (· = s) x Q E) : Meets P x Q E :=
  ⟨fun hs hx => (h _ hs).ok rfl hx, fun hs hx => (h _ hs).error rfl hx⟩

theorem meets_pure {a : α} (h : ∀ s, P s → Q a s) : Meets P (pure a : Action ε σ α) Q E := by
  refine ⟨fun hs hx => ?_, fun _ hx => ?_⟩
  · cases hx
    exact h _ hs
  · cases hx

theorem meets_throw {e : ε} (h : ∀ s, P s → E s) : Meets P (throw e : Action ε σ α) Q E := by
  refine ⟨fun _ hx => ?_, fun hs hx => ?_⟩
  · cases hx
  · cases hx
    exact h _ hs

theorem meets_modify {R : PUnit → σ → Prop} {g : σ → σ} (h : ∀ s, P s → R ⟨⟩ (g s)) :
    Meets P (modify g : Action ε σ PUnit) R E := by
  refine ⟨fun hs hx => ?_, fun _ hx => ?_⟩
  · cases hx
    exact h _ hs
  · cases hx

theorem meets_bind {x : Action ε σ α} {f : α → Action ε σ β} {R : β → σ → Prop}
    (hx : Meets P x Q E) (hf : ∀ a, Meets (Q a) (f a) R E) : Meets P (x >>= f) R E := by
  refine ⟨fun hs h => ?_, fun hs h => ?_⟩
  · obtain ⟨a, t, ha, h⟩ := exists_of_bind_eq_ok h
    exact (hf a).ok (hx.ok hs ha) h
  · rcases cases_of_bind_eq_error h with h | ⟨a, t, ha, h⟩
    · exact hx.error hs h
    · exact (hf a).error (hx.ok hs ha) h

/-- What is known whatever the state can be used from the start. -/
theorem meets_of_and {R : Prop} {x : Action ε σ α} (h : R → Meets P x Q E) :
    Meets (fun s => R ∧ P s) x Q E :=
  ⟨fun hs hx => (h hs.1).ok hs.2 hx, fun hs hx => (h hs.1).error hs.2 hx⟩

/-- In whose words a failure is told does not matter. -/
theorem meets_adapt {g : ε → ε'} {x : Action ε σ α} (h : Meets P x Q E) :
    Meets P (ExceptT.adapt g x : Action ε' σ α) Q E := by
  apply meets_of_apply
  intro s hs
  rw [adapt_apply]
  rcases hx : x s with ⟨e | a, t⟩
  · exact h.error hs hx
  · exact h.ok hs hx

/-- Looking at the state is knowing it. -/
theorem meets_get_bind {f : σ → Action ε σ β} {R : β → σ → Prop}
    (h : ∀ s, P s → Meets (· = s) (f s) R E) : Meets P (get >>= f) R E := by
  refine ⟨fun {s} _ _ hs hx => ?_, fun {s} _ _ hs hx => ?_⟩
  · rw [bind_apply, get_apply] at hx
    exact (h s hs).ok rfl hx
  · rw [bind_apply, get_apply] at hx
    exact (h s hs).error rfl hx

end Questline.Action
