import Questline.Toml.Reader
set_option autoImplicit false

/-!
# Console: configuration

What a console can be told in a configuration text: where saves are kept, which
directory stands in for the cloud, whether the cloud is out of reach at first, and
how many lines are remembered.  A text may leave out any of it and may have other
keys besides.
-/

namespace Questline

/-- The configuration of a console. -/
structure Config where
  /-- The directory of saves; the usual one without. -/
  dataDir : Option String
  /-- The directory that stands in for the cloud; no cloud without. -/
  remoteDir : Option String
  offline : Bool
  historySize : Nat
  deriving DecidableEq, Repr

namespace Config

/-- The configuration without a text. -/
def initial : Config := ⟨none, none, false, 500⟩

/-- The value that a table gives under a key, or `default` if it gives none; nothing
where it gives another kind of value. -/
def setting? {α : Type} (fields : Toml.Fields) (key : String) (default : α)
    (read : Toml → Option α) : Option α :=
  match Entries.get? key fields with
  | some v => read v
  | none => some default

/-- A count that fits into 64 bits. -/
def count? (v : Toml) : Option Nat :=
  (v.int?.filter fun n => 0 ≤ n && n < 0x10000000000000000).map Int.toNat

/-- The configuration of a table. -/
def ofFields? (fields : Toml.Fields) : Option Config := do
  return {
    dataDir := ← setting? fields "data_dir" none fun v => v.str?.map some
    remoteDir := ← setting? fields "remote_dir" none fun v => v.str?.map some
    offline := ← setting? fields "offline" initial.offline Toml.bool?
    historySize := ← setting? fields "history_size" initial.historySize count? }

/-- The configuration of a text. -/
def ofText? (text : String) : Option Config := (Toml.parse? text).bind ofFields?

theorem ofFields?_nil : ofFields? [] = some initial := rfl

theorem ofText?_empty : ofText? "" = some initial := by decide

end Config

end Questline
