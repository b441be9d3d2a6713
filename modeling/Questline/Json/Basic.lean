set_option autoImplicit false

/-!
# Json: values

A JSON value as a text gives it.  Fields stand in the order of the text and may
repeat; `canonical` puts them in order of their names, the last of a name
counting, which is how a value is kept once it has been read.

A text can be well formed and still give no value in one place: half a
surrogate pair, or a number beyond the largest double.  Such a place is
`broken`; it can be skipped but not read.
-/

namespace Questline

/-- A number as its text gives it: whole, or with a fraction or exponent. -/
inductive Number where
  | int (value : Int)
  | real (value : Float)
  deriving DecidableEq, Inhabited

/-- A JSON value. -/
inductive Json where
  | null
  | bool (value : Bool)
  | num (value : Number)
  | str (value : String)
  | arr (items : List Json)
  | obj (fields : List (String × Json))
  | broken
  deriving Inhabited

namespace Json

/-- The object with these fields. -/
abbrev object (fields : List (String × Json)) : Json := .obj fields

/-- A whole number. -/
abbrev int (n : Int) : Json := .num (.int n)

/-- A whole number that is not negative. -/
abbrev nat (n : Nat) : Json := .num (.int n)

/-- A list of texts. -/
def strs (ls : List String) : Json := .arr (ls.map .str)

/-- `null` for nothing. -/
def ofOption {α : Type} (f : α → Json) : Option α → Json
  | some a => f a
  | none => .null

/-- The last field of that name. -/
def field? (name : String) : Json → Option Json
  | .obj fields => fields.reverse.lookup name
  | _ => none

/-- The text of a string. -/
def str? : Json → Option String
  | .str s => some s
  | _ => none

/-- The value of a whole number. -/
def int? : Json → Option Int
  | .num (.int n) => some n
  | _ => none

/-- The value of a truth value. -/
def bool? : Json → Option Bool
  | .bool b => some b
  | _ => none

/-- The items of an array. -/
def arr? : Json → Option (List Json)
  | .arr items => some items
  | _ => none

end Json

end Questline
