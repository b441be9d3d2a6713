import Questline.Progress.Codec
import Questline.Store.Basic
set_option autoImplicit false

/-!
# Sync: save records

What travels between devices: a save as data, and the time of its last change.
Of two records the later one wins as a whole; the one at hand wins a tie.
-/

namespace Questline

open Time (Instant)

/-- A save as data, with the time of its last change. -/
structure SaveRecord where
  payload : Json
  updatedAt : Instant

namespace SaveRecord

/-- The record of a game. -/
def ofProgress (p : Progress) : SaveRecord := ⟨p.toJson .data, p.updatedAt⟩

/-- The game of a record, repaired; the record's time counts. -/
def progress? (clock : Instant) (r : SaveRecord) : Option Progress := do
  let p ← Progress.ofJson? clock 0 r.payload
  return { p with updatedAt := r.updatedAt }.repair

/-- Loads the game of a record where words are watched. -/
def load (clock : Instant) (r : SaveRecord) : Loading :=
  .ofWritten ((Progress.ofJson? clock 0 r.payload).map fun p => { p with updatedAt := r.updatedAt })

/-- The record as data. -/
def toJson (r : SaveRecord) : Json :=
  .obj [("payload", r.payload), ("updatedAt", Json.ofInstant r.updatedAt)]

/-- The record that data gives. -/
def ofJson? (j : Json) : Option SaveRecord := do
  let fs ← Json.Fields.ofJson? ["payload", "updatedAt"] j
  return ⟨← fs.need "payload" (Json.kept? 1), ← fs.need "updatedAt" Json.instant?⟩

/-- The text of a record. -/
def toText (r : SaveRecord) : String := r.toJson.print

/-- The record that a text gives. -/
def ofText? (text : String) : Option SaveRecord := (Json.parse? text).bind ofJson?

end SaveRecord

/-- A record and where it comes from. -/
structure Merged where
  record : SaveRecord
  source : Side

/-- The record that wins. -/
def mergeSaves : Option SaveRecord → Option SaveRecord → Option Merged
  | none, none => none
  | some l, none => some ⟨l, .device⟩
  | none, some r => some ⟨r, .cloud⟩
  | some l, some r => if l.updatedAt.before r.updatedAt then some ⟨r, .cloud⟩ else some ⟨l, .device⟩

end Questline
