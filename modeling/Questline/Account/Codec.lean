import Questline.Account.Basic
import Questline.Json.Record
set_option autoImplicit false

/-!
# Account: accounts and profiles as data

An account is stored with its kind under `mode`; as an array the kind stands
first.  Since the kind decides what the other fields mean, all of them are read
before they are looked at, so that none of them may be broken.
-/

namespace Questline

/-- The account, written. -/
def Account.toJson (form : Json.Form) : Account → Json
  | .local n => form.object [("mode", .str "local"), ("username", .str n)]
  | .cloud n id =>
    form.object [("mode", .str "cloud"), ("username", .str n), ("profileId", .str id)]

/-- The account of a kind with these other fields. -/
def Account.ofParts? (mode : String) (rest : Json) : Option Account :=
  if mode = "local" then do
    let fs ← Json.Fields.ofJson? ["username"] rest
    return .local (← fs.need "username" Json.str?)
  else if mode = "cloud" then do
    let fs ← Json.Fields.ofJson? ["username", "profileId"] rest
    return .cloud (← fs.need "username" Json.str?) (← fs.need "profileId" Json.str?)
  else none

/-- The account that data inside `around` arrays and objects gives. -/
def Account.ofJson? (around : Nat) : Json → Option Account
  | .obj fields => do
    let others := fields.filter fun f => f.1 != "mode"
    let [(_, tag)] := fields.filter fun f => f.1 == "mode" | none
    let _ ← others.mapM fun f => f.2.kept? (around + 1)
    Account.ofParts? (← tag.str?) (.obj others)
  | .arr (tag :: others) => do
    let _ ← others.mapM fun j => j.kept? (around + 1)
    Account.ofParts? (← tag.str?) (.arr others)
  | _ => none

/-- The profile, written. -/
def Profile.toJson (p : Profile) : Json := .obj [("id", .str p.id), ("username", .str p.username)]

/-- The profile that data gives. -/
def Profile.ofJson? (j : Json) : Option Profile := do
  let fs ← Json.Fields.ofJson? ["id", "username"] j
  return ⟨← fs.need "id" Json.str?, ← fs.need "username" Json.str?⟩

end Questline
