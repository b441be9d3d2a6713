import Questline.Proofs.Progress.Codec
import Questline.Sync.Record
set_option autoImplicit false

/-!
# Save records, written and read again

What travels between devices arrives as it was sent.
-/

namespace Questline

open Time (Instant)

namespace SaveRecord

theorem tidy_toJson {r : SaveRecord} (h : Json.Tidy .data r.payload) : Json.Tidy .data r.toJson :=
  ⟨fun _ => List.pairwise_pair.2 (show "payload" < "updatedAt" by decide), h, trivial, trivial⟩

/-- The record of a game is read back from its text. -/
theorem ofText?_toText {p : Progress} (h : p.Storable) :
    ofText? (ofProgress p).toText = some (ofProgress p) := by
  have htidy : Json.Tidy .data (p.toJson .data) := p.tidy_toJson h
  have hpayload : Json.kept? 1 (p.toJson .data) = some (p.toJson .data) :=
    Json.kept?_of_tidy htidy (Nat.le_trans (Nat.add_le_add_left p.depth_toJson_le 1) (by decide))
  unfold ofText? toText
  rw [Json.parse?_print (tidy_toJson htidy), Option.bind_some]
  unfold ofJson? toJson
  refine (Json.Fields.bind_ofJson?_obj (by simp) (by simp) _).trans ?_
  refine (Json.Fields.bind_need rfl hpayload _).trans ?_
  exact Json.Fields.bind_need rfl (Json.instant?_ofInstant h.updatedAt) _

/-- The record of a game gives that game, repaired. -/
theorem progress?_ofProgress {p : Progress} (h : p.Storable) (clock : Instant) :
    (ofProgress p).progress? clock = some p.repair :=
  Json.bind_of_eq_some (Progress.ofJson?_toJson .data h clock (by decide)) _

end SaveRecord

/-! ## The later record -/

theorem mergeSaves_of_before {l r : SaveRecord} (h : l.updatedAt.before r.updatedAt = true) :
    mergeSaves (some l) (some r) = some ⟨r, .cloud⟩ := if_pos h

theorem mergeSaves_of_not_before {l r : SaveRecord} (h : l.updatedAt.before r.updatedAt = false) :
    mergeSaves (some l) (some r) = some ⟨l, .device⟩ := by
  rw [mergeSaves, if_neg (by simp [h])]

/-- What wins is one of the two. -/
theorem mergeSaves_eq_some {own fetched : Option SaveRecord} {m : Merged}
    (h : mergeSaves own fetched = some m) :
    own = some m.record ∧ m.source = .device ∧
        (∀ r, fetched = some r → m.record.updatedAt.before r.updatedAt = false) ∨
      fetched = some m.record ∧ m.source = .cloud ∧
        ∀ r, own = some r → r.updatedAt.before m.record.updatedAt = true := by
  cases own with
  | none =>
    cases fetched with
    | none => cases h
    | some r =>
      cases h
      exact .inr ⟨rfl, rfl, nofun⟩
  | some l =>
    cases fetched with
    | none =>
      cases h
      exact .inl ⟨rfl, rfl, nofun⟩
    | some r =>
      rw [mergeSaves] at h
      split at h
      · rename_i hbefore
        cases h
        refine .inr ⟨rfl, rfl, ?_⟩
        rintro _ ⟨⟩
        exact hbefore
      · rename_i hbefore
        cases h
        refine .inl ⟨rfl, rfl, ?_⟩
        rintro _ ⟨⟩
        simpa using hbefore

end Questline
