import Questline.Json.Basic
import Questline.Keyed
set_option autoImplicit false

/-!
# Json: kept values

A value that is kept has nothing broken in it and lists the fields of every
object by name, each name once.
-/

namespace Questline.Json

mutual

/-- The value as it is kept, and nothing if a part of it is broken. -/
def canonical? : Json → Option Json
  | .arr items => (canonicalItems? items).map .arr
  | .obj fields => (canonicalFields? fields).map fun fs => .obj (Keyed.ofList fs).entries
  | .broken => none
  | j => some j

/-- The items as they are kept. -/
def canonicalItems? : List Json → Option (List Json)
  | [] => some []
  | j :: r => do return (← canonical? j) :: (← canonicalItems? r)

/-- The fields, each with its value as it is kept, in the order of the text. -/
def canonicalFields? : List (String × Json) → Option (List (String × Json))
  | [] => some []
  | (k, j) :: r => do return (k, ← canonical? j) :: (← canonicalFields? r)

end

mutual

/-- The number of arrays and objects around the innermost place. -/
def depth : Json → Nat
  | .arr items => depthItems items + 1
  | .obj fields => depthFields fields + 1
  | _ => 0

/-- The greatest depth among the items. -/
def depthItems : List Json → Nat
  | [] => 0
  | j :: r => max (depth j) (depthItems r)

/-- The greatest depth among the values. -/
def depthFields : List (String × Json) → Nat
  | [] => 0
  | (_, j) :: r => max (depth j) (depthFields r)

end

/-- How many arrays and objects may lie inside one another in what is read. -/
def maxDepth : Nat := 127

/-- The value as it is kept, read from inside `around` arrays and objects: it
must not be broken anywhere, nor too deep. -/
def kept? (around : Nat) (j : Json) : Option Json :=
  if around + depth j ≤ maxDepth then canonical? j else none

/-- What a value is written as. -/
inductive Form where
  /-- A text is written field by field, in the order in which they are declared. -/
  | text
  /-- Data lists the fields of an object as kept values do. -/
  | data
  deriving DecidableEq, Repr

/-- The object that is written for these fields, each of another name. -/
def Form.object (form : Form) (fields : List (String × Json)) : Json :=
  match form with
  | .text => .obj fields
  | .data => .obj (Keyed.ofList fields).entries

end Questline.Json
