import Questline.Json.Basic
import Questline.Time.Instant
set_option autoImplicit false

/-!
# Store: texts under keys

Saves are kept as texts under keys, on the device and in the cloud.  A store can
fail; a session only sees its surroundings through `Depot`, which offers the two
stores, whether the cloud can be reached, the clock, and names for new profiles.

What makes a text or data corrupt is decided here, by the reader of each kind of
save.  The words in which the JSON reader says where it stumbled are its own, so
that they are part of the surroundings, like those names.
-/

namespace Questline

/-- Why a store failed. -/
inductive Fault where
  /-- A memory store was told to fail. -/
  | injected
  | isDirectory
  | notDirectory
  | fileExists
  | nameTooLong
  /-- A path cannot hold the character NUL. -/
  | nulInPath
  deriving DecidableEq, Repr

/-- The words in which a failure is told. -/
def Fault.message : Fault → String
  | .injected => "injected failure"
  | .isDirectory => "Is a directory (os error 21)"
  | .notDirectory => "Not a directory (os error 20)"
  | .fileExists => "File exists (os error 17)"
  | .nameTooLong => "File name too long (os error 36)"
  | .nulInPath => "file name contained an unexpected NUL byte"

/-- What a reader was given and did not accept. -/
inductive Refused where
  | text (text : String)
  /-- Data from within a record, of which there is no text. -/
  | data (j : Json)

/-- The words of the JSON reader about what it refused.  The key says what was to
be read: a game, snapshots, profiles or a record. -/
abbrev Wording := String → Refused → String

/-- No words, for surroundings in which nothing is refused. -/
def Wording.silent : Wording := fun _ _ => ""

/-- Why saved data could not be used. -/
inductive StoreError where
  /-- What is kept under the key is not what belongs there, in the words of the
  reader. -/
  | corrupt (key reason : String)
  /-- The store failed for the key. -/
  | io (key : String) (fault : Fault)
  deriving DecidableEq, Repr

/-- The words in which an error is told. -/
def StoreError.message : StoreError → String
  | .corrupt key reason => s!"saved data under {key} is corrupt: {reason}"
  | .io key fault => s!"storage I/O failed for {key}: {fault.message}"

/-- The two places where saves are kept. -/
inductive Side where
  | device
  | cloud
  deriving DecidableEq, Repr

/-- An action that may fail and changes `σ`; what it changed before it failed
stays changed. -/
abbrev Action (ε σ α : Type) := ExceptT ε (StateM σ) α

/-- The surroundings of a session. -/
class Depot (w : Type) where
  /-- The text under a key. -/
  read : Side → String → w → Except Fault (Option String)
  /-- Puts a text under a key. -/
  write : Side → String → String → w → Except Fault Unit × w
  /-- Takes away what is under a key. -/
  remove : Side → String → w → Except Fault Unit × w
  /-- The cloud can be reached. -/
  online : w → Bool
  /-- The time on the clock. -/
  clock : w → Time.Instant
  /-- The name the next new profile gets. -/
  nextId : w → String
  /-- The next name has been given away. -/
  spendId : w → w
  /-- The words of the JSON reader. -/
  wording : w → Wording

namespace Depot

variable {w : Type} [Depot w]

/-- The text under a key, as an action. -/
def load (side : Side) (key : String) : Action StoreError w (Option String) := do
  match read side key (← get) with
  | .ok text => return text
  | .error f => throw (.io key f)

/-- Puts a text under a key, as an action. -/
def save (side : Side) (key text : String) : Action StoreError w Unit := do
  let (result, after) := write side key text (← get)
  set after
  match result with
  | .ok () => return ()
  | .error f => throw (.io key f)

/-- Takes away what is under a key, as an action. -/
def clear (side : Side) (key : String) : Action StoreError w Unit := do
  let (result, after) := remove side key (← get)
  set after
  match result with
  | .ok () => return ()
  | .error f => throw (.io key f)

/-- The error for what was refused under a key. -/
def refusal (key : String) (what : Refused) (d : w) : StoreError :=
  .corrupt key (wording d key what)

/-- Fails for what was refused under a key. -/
def refuse {α : Type} (key : String) (what : Refused) : Action StoreError w α := do
  throw (refusal key what (← get))

/-- The time on the clock, as an action. -/
def now {ε : Type} : Action ε w Time.Instant := return clock (← get)

end Depot

end Questline
