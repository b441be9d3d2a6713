import Questline.Store.Disk
import Questline.Store.Memory
import Questline.Text.Hex
set_option autoImplicit false

/-!
# Store: a console's surroundings

Consoles that run on one host share its disk, its clock and the supply of profile
ids.  Each keeps its saves on a shelf of its own, in memory or in a directory of
the disk, and may stand the cloud in by another directory, which it reaches or
does not reach for itself.
-/

namespace Questline

/-- What the consoles on one host share. -/
structure Host where
  disk : Node
  clock : Time.Instant
  /-- The number of the next profile id. -/
  serial : Nat
  /-- The words of the JSON reader that the consoles use. -/
  wording : Wording

/-- Where a device keeps its saves. -/
inductive Shelf where
  | memory (m : Memory)
  | folder (f : Folder)

/-- The surroundings of a session at a console. -/
structure Station where
  host : Host
  shelf : Shelf
  /-- The directory that stands in for the cloud, if there is a cloud. -/
  cloud : Option Folder
  online : Bool

namespace ProfileId

/-- The profile id of a number: its lowest 122 bits in five groups of hexadecimal
digits, around a fixed digit 4 and the fixed bits 10. -/
def ofNat (n : Nat) : String :=
  .ofList (Text.hexDigits 8 (n >>> 90) ++ '-' :: Text.hexDigits 4 (n >>> 74)
    ++ '-' :: '4' :: Text.hexDigits 3 (n >>> 62)
    ++ '-' :: Text.hexDigits 4 (0x8000 + (n >>> 48) % 0x4000) ++ '-' :: Text.hexDigits 12 n)

theorem length_ofNat (n : Nat) : (ofNat n).length = 36 := by
  simp [ofNat, Text.length_hexDigits, ← String.length_toList]

end ProfileId

namespace Station

/-- The text under a key. -/
def read (side : Side) (key : String) (s : Station) : Except Fault (Option String) :=
  match side, s.shelf, s.cloud with
  | .device, .memory m, _ => m.get key
  | .device, .folder f, _ => f.get key s.host.disk
  | .cloud, _, some f => f.get key s.host.disk
  | .cloud, _, none => .ok none

/-- The surroundings after a change to the disk. -/
def afterDisk {α : Type} (s : Station) (r : α × Node) : α × Station :=
  (r.1, { s with host := { s.host with disk := r.2 } })

/-- The surroundings after a change to the shelf in memory. -/
def afterMemory {α : Type} (s : Station) (r : α × Memory) : α × Station :=
  (r.1, { s with shelf := .memory r.2 })

/-- Puts a text under a key. -/
def write (side : Side) (key text : String) (s : Station) : Except Fault Unit × Station :=
  match side, s.shelf, s.cloud with
  | .device, .memory m, _ => s.afterMemory (m.set key text)
  | .device, .folder f, _ => s.afterDisk (f.set key text s.host.disk)
  | .cloud, _, some f => s.afterDisk (f.set key text s.host.disk)
  | .cloud, _, none => (.ok (), s)

/-- Takes away what is under a key. -/
def remove (side : Side) (key : String) (s : Station) : Except Fault Unit × Station :=
  match side, s.shelf, s.cloud with
  | .device, .memory m, _ => s.afterMemory (m.remove key)
  | .device, .folder f, _ => s.afterDisk (f.remove key s.host.disk)
  | .cloud, _, some f => s.afterDisk (f.remove key s.host.disk)
  | .cloud, _, none => (.ok (), s)

instance : Depot Station where
  read := read
  write := write
  remove := remove
  online s := s.online
  clock s := s.host.clock
  nextId s := ProfileId.ofNat s.host.serial
  spendId s := { s with host := { s.host with serial := s.host.serial + 1 } }
  wording s := s.host.wording

end Station

end Questline
