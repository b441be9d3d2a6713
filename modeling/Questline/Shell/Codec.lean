import Questline.Json.Record
import Questline.Shell.Outcome
set_option autoImplicit false

/-!
# Shell: outcomes as data
-/

namespace Questline.Outcome

/-- The outcome as data. -/
def toJson (o : Outcome) : Json :=
  .obj [("clear", .bool o.clear), ("lines", Json.strs o.lines),
    ("status", .str (if o.isOk then "ok" else "error"))]

/-- The status that a name gives. -/
def statusOfJson? (j : Json) : Option Status :=
  match j.tag? with
  | some "ok" => some .ok
  | some "error" => some .error
  | _ => none

/-- The outcome that data gives; it clears nothing unless it says so. -/
def ofJson? (j : Json) : Option Outcome := do
  let fs ← Json.Fields.ofJson? ["status", "lines", "clear"] j
  return ⟨← fs.need "status" statusOfJson?, ← fs.need "lines" (Json.list? Json.str?),
    ← fs.getD "clear" Json.bool? false⟩

end Questline.Outcome
