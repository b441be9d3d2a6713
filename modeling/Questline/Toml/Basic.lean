import Questline.Keyed
set_option autoImplicit false

/-!
# Toml: values and tables

The value of a configuration text.  A table remembers how it came to be, since
that decides what may still be added to it: a table has one header, a dotted key
adds only to tables that dotted keys have made, and nothing adds to a table in
braces or to an array in brackets.  A key has one value.
-/

namespace Questline

/-- How a table came to be. -/
inductive TableOrigin where
  /-- By its own header; the table of the whole text counts as one of these. -/
  | header
  /-- As a station on the way to a table that a header names. -/
  | passing
  /-- As a station on the way to a value that a dotted key names. -/
  | dotted
  /-- In braces. -/
  | braces
  deriving DecidableEq, Repr

/-- A value. -/
inductive Toml where
  | str (text : String)
  | int (value : Int)
  | real (value : Float)
  | bool (value : Bool)
  /-- A date, a time of day or both, as it is written. -/
  | time (text : String)
  | arr (items : List Toml)
  | table (origin : TableOrigin) (fields : List (String × Toml))
  /-- Tables under one doubled header each, the latest first. -/
  | rows (latest : List (String × Toml)) (earlier : List (List (String × Toml)))
  deriving Inhabited

namespace Toml

/-- The fields of a table, by their keys. -/
abbrev Fields := List (String × Toml)

/-- Changes the table at the end of a path, making the tables on the way that are
missing.  `byKey` tells a path of a dotted key from one of a header.  `none` where
the path is blocked or the change itself is not possible. -/
def alter? (byKey : Bool) (change : TableOrigin → Fields → Option Fields) :
    List String → TableOrigin → Fields → Option Fields
  | [], origin, fields => change origin fields
  | key :: path, _, fields =>
    match Entries.get? key fields with
    | none =>
      let origin : TableOrigin := if byKey then .dotted else .passing
      (alter? byKey change path origin []).map fun t => Entries.insert key (.table origin t) fields
    | some (.table origin t) =>
      if origin = .braces || (byKey && origin = .header) then none
      else (alter? byKey change path origin t).map fun t => Entries.insert key (.table origin t) fields
    | some (.rows latest earlier) =>
      if byKey then none
      else (alter? byKey change path .header latest).map fun t =>
        Entries.insert key (.rows t earlier) fields
    | some _ => none

/-- Puts a value under a key that has none. -/
def place? (key : String) (value : Toml) (fields : Fields) : Option Fields :=
  if (Entries.get? key fields).isSome then none else some (Entries.insert key value fields)

/-- Puts a value where a key names a place, seen from a table; `path` is what the
key has before its last dot.  A dotted key ends in a table made by dotted keys, a
simple one does not. -/
def assign? (path : List String) (key : String) (value : Toml) :
    TableOrigin → Fields → Option Fields :=
  alter? (!path.isEmpty) (fun origin fields =>
    if (origin == .dotted) == path.isEmpty then none else place? key value fields) path

/-- Opens the table that a header names. -/
def openTable? (path : List String) (key : String) : Fields → Option Fields :=
  alter? false (fun _ fields =>
    match Entries.get? key fields with
    | none => some (Entries.insert key (.table .header []) fields)
    | some (.table .passing t) => some (Entries.insert key (.table .header t) fields)
    | some _ => none) path .header

/-- Opens one more table under a doubled header. -/
def openRow? (path : List String) (key : String) : Fields → Option Fields :=
  alter? false (fun _ fields =>
    match Entries.get? key fields with
    | none => some (Entries.insert key (.rows [] []) fields)
    | some (.rows latest earlier) => some (Entries.insert key (.rows [] (latest :: earlier)) fields)
    | some _ => none) path .header

/-- The text of a string. -/
def str? : Toml → Option String
  | .str s => some s
  | _ => none

/-- The value of a whole number. -/
def int? : Toml → Option Int
  | .int n => some n
  | _ => none

/-- The value of a truth value. -/
def bool? : Toml → Option Bool
  | .bool b => some b
  | _ => none

theorem place?_isSome_iff (key : String) (value : Toml) (fields : Fields) :
    (place? key value fields).isSome ↔ Entries.get? key fields = none := by
  simp [place?]

theorem get?_of_place? {key : String} {value : Toml} {fields after : Fields}
    (h : place? key value fields = some after) : Entries.get? key after = some value := by
  simp only [place?] at h
  split at h
  · cases h
  · injection h with h
    rw [← h, Entries.get?_insert_self]

end Toml

end Questline
