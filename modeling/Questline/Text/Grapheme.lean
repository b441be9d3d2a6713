import Questline.Text.Joining
import Questline.Text.Ranges
set_option autoImplicit false

/-!
# Text: what a reader takes for one character

A text falls into clusters: a letter with its marks, a syllable of Hangul, a flag
of two letters, pictographs that are joined, a conjunct of consonants.  Between
two characters there is no boundary exactly where one of the joining rules says
so; a control character stands alone.
-/

namespace Questline.Text

/-- What a character is to the rules of joining. -/
inductive JoiningClass where
  | control
  | extend
  /-- Extends the character before it, and links consonants. -/
  | linker
  /-- Extends the character before it, and keeps consonants apart. -/
  | nonJoiner
  /-- Extends the character before it, and joins pictographs. -/
  | joiner
  | spacing
  | leading
  /-- A letter of a flag. -/
  | flag
  | pictograph
  | consonant
  /-- A first consonant of Hangul. -/
  | hangulFirst
  /-- A vowel of Hangul. -/
  | hangulVowel
  /-- A last consonant of Hangul. -/
  | hangulLast
  /-- A syllable of Hangul that ends in its vowel. -/
  | hangulOpen
  /-- A syllable of Hangul that has a last consonant. -/
  | hangulClosed
  | other
  deriving DecidableEq, Repr

/-- The class of a letter or syllable of Hangul. -/
def hangulClass? (n : Nat) : Option JoiningClass :=
  if (0x1100 ≤ n && n ≤ 0x115F) || (0xA960 ≤ n && n ≤ 0xA97C) then some .hangulFirst
  else if (0x1160 ≤ n && n ≤ 0x11A7) || (0xD7B0 ≤ n && n ≤ 0xD7C6) || n == 0x16D63
      || (0x16D67 ≤ n && n ≤ 0x16D6A) then some .hangulVowel
  else if (0x11A8 ≤ n && n ≤ 0x11FF) || (0xD7CB ≤ n && n ≤ 0xD7FB) then some .hangulLast
  else if 0xAC00 ≤ n && n ≤ 0xD7A3 then
    some (if (n - 0xAC00) % 28 == 0 then .hangulOpen else .hangulClosed)
  else none

/-- The class of a character. -/
def joiningClass (c : Char) : JoiningClass :=
  let n := c.toNat
  if n < 0x80 then (if n < 0x20 || n == 0x7F then .control else .other)
  else if n == 0x200C then .nonJoiner
  else if n == 0x200D then .joiner
  else if 0x1F1E6 ≤ n && n ≤ 0x1F1FF then .flag
  else if inRanges Joining.linkers c then .linker
  else if inRanges Joining.extending c then .extend
  else if inRanges Joining.spacing c then .spacing
  else if inRanges Joining.leading c then .leading
  else if inRanges Joining.controls c then .control
  else if inRanges Joining.pictographs c then .pictograph
  else if inRanges Joining.consonants c then .consonant
  else (hangulClass? n).getD .other

/-- What the rules have to know of the characters in front of a place. -/
structure JoiningState where
  /-- The class of the last of them. -/
  last : JoiningClass
  /-- They end in a pictograph and marks that extend it. -/
  pictured : Bool
  /-- They end in a pictograph, marks that extend it, and a joiner. -/
  awaitsPictograph : Bool
  /-- They end in an odd number of letters of flags. -/
  halfFlag : Bool
  /-- They end in a consonant and signs after it. -/
  inConjunct : Bool
  /-- One of these signs is a linker. -/
  linked : Bool
  deriving DecidableEq, Repr

namespace JoiningState

/-- Nothing stands in front. -/
def start : JoiningState := ⟨.control, false, false, false, false, false⟩

/-- One more character stands in front. -/
def after (s : JoiningState) (c : JoiningClass) : JoiningState where
  last := c
  pictured := c = .pictograph || (s.pictured && (c = .extend || c = .linker || c = .nonJoiner))
  awaitsPictograph := s.pictured && c = .joiner
  halfFlag := c = .flag && !s.halfFlag
  inConjunct := c = .consonant || (s.inConjunct && (c = .extend || c = .linker || c = .joiner))
  linked := c = .linker || (s.linked && (c = .extend || c = .joiner))

/-- A character of this class belongs to the cluster in front of it. -/
def joins (s : JoiningState) (c : JoiningClass) : Bool :=
  if s.last = .control || c = .control then false
  else match c with
    | .extend | .linker | .nonJoiner | .joiner | .spacing => true
    | .hangulFirst | .hangulOpen | .hangulClosed => s.last = .leading || s.last = .hangulFirst
    | .hangulVowel =>
      s.last = .leading || s.last = .hangulFirst || s.last = .hangulOpen || s.last = .hangulVowel
    | .hangulLast =>
      s.last = .leading || s.last = .hangulOpen || s.last = .hangulVowel
        || s.last = .hangulClosed || s.last = .hangulLast
    | .consonant => s.last = .leading || (s.inConjunct && s.linked)
    | .pictograph => s.last = .leading || s.awaitsPictograph
    | .flag => s.last = .leading || s.halfFlag
    | _ => s.last = .leading

end JoiningState

/-- Removes clusters that are followed by a backspace, together with it.  `kept` holds
the clusters in front, the last one first and each of them last character first. -/
def eraseFrom (s : JoiningState) (kept : List (List Char)) : List Char → List (List Char)
  | [] => kept
  | c :: r =>
    let cls := joiningClass c
    let next := s.after cls
    if c = '\x08' then eraseFrom next kept.tail r
    else match kept with
      | cluster :: earlier =>
        if s.joins cls then eraseFrom next ((c :: cluster) :: earlier) r
        else eraseFrom next ([c] :: kept) r
      | [] => eraseFrom next [[c]] r

/-- The text after its backspaces have been carried out: each takes away the cluster
that is left in front of it. -/
def backspaced (s : String) : String :=
  .ofList ((eraseFrom .start [] s.toList).flatten.reverse)

example : backspaced "pwx\x08d" = "pwd" ∧ backspaced "\x08\x08a" = "a" := by decide
example : backspaced "ae\u0301\x08" = "a" ∧ backspaced "\x08\u0301" = "\u0301" := by decide +kernel
example : backspaced "🇩🇪🇫🇷\x08" = "🇩🇪" := by decide +kernel

end Questline.Text
