import Questline.Json.Canonical
import Questline.Time.Stamp
set_option autoImplicit false

/-!
# Json: records

A record with named fields is an object, in which unknown names are skipped and
a known name stands at most once, or an array with the fields in their fixed
order, of which those at the end may be missing.  A map is an object in which
the last value of a name counts.
-/

namespace Questline.Json

/-- The fields of a record, by name. -/
structure Fields where
  present : List (String × Json)

namespace Fields

/-- The fields `names` of a value, given in their fixed order. -/
def ofJson? (names : List String) : Json → Option Fields
  | .obj fields =>
    let known := fields.filter fun f => names.contains f.1
    if (known.map (·.1)).Nodup then some ⟨known⟩ else none
  | .arr items => if items.length ≤ names.length then some ⟨names.zip items⟩ else none
  | _ => none

/-- A field that has to be there. -/
def need {α : Type} (fs : Fields) (name : String) (read : Json → Option α) : Option α :=
  (fs.present.lookup name).bind read

/-- A field that has a default. -/
def getD {α : Type} (fs : Fields) (name : String) (read : Json → Option α) (default : α) :
    Option α :=
  match fs.present.lookup name with
  | some j => read j
  | none => some default

end Fields

/-- A number below `2 ^ 32`. -/
def word32? : Json → Option UInt32
  | .num (.int n) => if 0 ≤ n && n < 0x100000000 then some (UInt32.ofNat n.toNat) else none
  | _ => none

/-- A number below `2 ^ 64`. -/
def word64? : Json → Option UInt64
  | .num (.int n) => if 0 ≤ n && n < 0x10000000000000000 then some (UInt64.ofNat n.toNat) else none
  | _ => none

/-- A double; a whole number counts as one. -/
def float? : Json → Option Float
  | .num (.real x) => some x
  | .num (.int n) =>
    if n < 0 then some (-(UInt64.ofNat n.natAbs).toFloat) else some (UInt64.ofNat n.toNat).toFloat
  | _ => none

/-- An instant. -/
def instant? : Json → Option Time.Instant
  | .str s => Time.Instant.ofStamp? s
  | _ => none

/-- The items of an array, each read. -/
def list? {α : Type} (read : Json → Option α) : Json → Option (List α)
  | .arr items => items.mapM read
  | _ => none

/-- The map of an object, each value read. -/
def map? {α : Type} (read : Json → Option α) : Json → Option (Keyed α)
  | .obj fields =>
    (fields.mapM fun (e : String × Json) => (read e.2).map fun a => (e.1, a)).map Keyed.ofList
  | _ => none

/-- A name out of a fixed set, alone or as the only name of an object over `null`. -/
def tag? : Json → Option String
  | .str s => some s
  | .obj [(s, .null)] => some s
  | _ => none

/-- A double; `null` for one that is infinite or no number. -/
def ofFloat (x : Float) : Json := if x.isFinite then .num (.real x) else .null

/-- An instant. -/
def ofInstant (t : Time.Instant) : Json := .str t.stamp

end Questline.Json
