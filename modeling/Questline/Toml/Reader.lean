import Questline.Toml.Quoted
import Questline.Toml.Scalar
set_option autoImplicit false

/-!
# Toml: reading a text

A text is a sequence of lines: headers, which open tables, and keys with their
values, which belong to the table opened last.  Arrays and tables in braces may
extend over several lines and end in a comma; they nest to a limited depth.

The descent is bounded by the length of the text, since of any two steps one
takes at least one character.
-/

namespace Questline.Toml

/-! ## Between the words -/

/-- Drops spaces and tabs. -/
def skipSpaces : List Char → List Char := List.dropWhile isSpace

/-- Drops blanks, newlines and comments. -/
def skipGap (inComment : Bool) : List Char → List Char
  | [] => []
  | '\n' :: r => skipGap false r
  | '\r' :: '\n' :: r => skipGap false r
  | c :: r =>
    if inComment then (if isPrintable c then skipGap true r else c :: r)
    else if isSpace c then skipGap false r
    else if c = '#' then skipGap true r
    else c :: r

/-- What follows a line on which nothing more than a comment comes. -/
def lineEnd? (cs : List Char) : Option (List Char) :=
  let rest := match skipSpaces cs with
    | '#' :: r => r.dropWhile isPrintable
    | r => r
  match rest with
  | [] => some []
  | '\n' :: r => some r
  | '\r' :: '\n' :: r => some r
  | _ => none

/-! ## Keys -/

/-- A character that a key may have without quotes. -/
def isBareChar (c : Char) : Bool := c.isAlphanum || c = '_' || c = '-'

/-- One part of a key, and what follows it. -/
def keyPart? (cs : List Char) : Option (String × List Char) :=
  match quoted? cs with
  | some (part, r) => some (.ofList part, r)
  | none =>
    let part := cs.takeWhile isBareChar
    if part.isEmpty then none else some (.ofList part, cs.dropWhile isBareChar)

/-- A key: its parts before the last dot, its last part, and what follows it. -/
def key? : Nat → List Char → Option (List String × String × List Char)
  | 0, _ => none
  | fuel + 1, cs => do
    let (part, r) ← keyPart? cs
    match skipSpaces r with
    | '.' :: r =>
      let (path, last, rest) ← key? fuel (skipSpaces r)
      return (part :: path, last, rest)
    | r => return ([], part, r)

/-! ## Values -/

/-- Arrays and tables in braces nest less deep than this. -/
def maxDepth : Nat := 80

mutual

/-- The value that the text goes on with, and what follows it; `depth` counts the
brackets and braces around it. -/
def value? : Nat → Nat → List Char → Option (Toml × List Char)
  | 0, _, _ => none
  | fuel + 1, depth, cs =>
    match cs with
    | '[' :: r =>
      if depth + 1 < maxDepth then do
        let (items, rest) ← items? fuel (depth + 1) (skipGap false r)
        return (.arr items, rest)
      else none
    | '{' :: r =>
      if depth + 1 < maxDepth then do
        let (fields, rest) ← fields? fuel (depth + 1) [] (skipGap false r)
        return (.table .braces fields, rest)
      else none
    | cs =>
      match anyQuoted? cs with
      | some (text, rest) => some (.str (.ofList text), rest)
      | none =>
        let (w, rest) := word cs
        (scalar? w).map fun v => (v, rest)

/-- Items up to the closing bracket. -/
def items? : Nat → Nat → List Char → Option (List Toml × List Char)
  | 0, _, _ => none
  | _ + 1, _, ']' :: rest => some ([], rest)
  | fuel + 1, depth, cs => do
    let (v, r) ← value? fuel depth cs
    match skipGap false r with
    | ']' :: rest => return ([v], rest)
    | ',' :: r =>
      let (vs, rest) ← items? fuel depth (skipGap false r)
      return (v :: vs, rest)
    | _ => none

/-- Fields up to the closing brace, after those that have been read. -/
def fields? : Nat → Nat → Fields → List Char → Option (Fields × List Char)
  | 0, _, _, _ => none
  | _ + 1, _, read, '}' :: rest => some (read, rest)
  | fuel + 1, depth, read, cs => do
    let (path, key, r) ← key? fuel cs
    match r with
    | '=' :: r =>
      let (v, r) ← value? fuel depth (skipSpaces r)
      let read ← assign? path key v .braces read
      match skipGap false r with
      | '}' :: rest => return (read, rest)
      | ',' :: r => fields? fuel depth read (skipGap false r)
      | _ => none
    | _ => none

end

/-! ## Lines -/

/-- The table of a text whose lines up to here have given `root`; `header` is the
path of the table opened last. -/
def lines : Nat → List String → Fields → List Char → Option Fields
  | 0, _, _, _ => none
  | fuel + 1, header, root, cs =>
    match skipGap false cs with
    | [] => some root
    | '[' :: '[' :: r => do
      let (path, key, r) ← key? fuel (skipSpaces r)
      match r with
      | ']' :: ']' :: r => lines fuel (path ++ [key]) (← openRow? path key root) (← lineEnd? r)
      | _ => none
    | '[' :: r => do
      let (path, key, r) ← key? fuel (skipSpaces r)
      match r with
      | ']' :: r => lines fuel (path ++ [key]) (← openTable? path key root) (← lineEnd? r)
      | _ => none
    | cs => do
      let (path, key, r) ← key? fuel cs
      match r with
      | '=' :: r =>
        let (v, r) ← value? fuel 0 (skipSpaces r)
        let root ← alter? false (assign? path key v) header .header root
        lines fuel header root (← lineEnd? r)
      | _ => none

/-- The table of a whole text.  A byte order mark in front does not count. -/
def parse? (text : String) : Option Fields :=
  let cs := match text.toList with
    | '\uFEFF' :: r => r
    | cs => cs
  lines (2 * cs.length + 2) [] [] cs

end Questline.Toml
