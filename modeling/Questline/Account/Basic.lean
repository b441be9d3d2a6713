import Questline.Text.Blank
import Questline.Text.Lowercase
set_option autoImplicit false

/-!
# Account: whose save it is

An account is known on one device only, or it belongs to a profile in the cloud.
Snapshots of accounts are kept under a key that tells the two apart.
-/

namespace Questline

/-- The account a save belongs to. -/
inductive Account where
  | local (username : String)
  | cloud (username profileId : String)
  deriving DecidableEq, Repr

namespace Account

/-- The name of the player. -/
def username : Account → String
  | .local n => n
  | .cloud n _ => n

/-- The key under which a snapshot of the account is kept. -/
def cacheKey : Account → String
  | .local n => "local:" ++ n
  | .cloud _ id => "cloud:" ++ id

/-- The profile of a cloud account. -/
def profileId? : Account → Option String
  | .local _ => none
  | .cloud _ id => some id

/-- The word for the kind of account. -/
def mode : Account → String
  | .local _ => "local"
  | .cloud _ _ => "cloud"

/-- The account as it is shown. -/
def display (a : Account) : String := a.username ++ " (" ++ a.mode ++ ")"

end Account

/-- A player's identity in the cloud. -/
structure Profile where
  id : String
  username : String
  deriving DecidableEq, Repr

namespace Username

/-- A name as it is compared: trimmed and in lower case. -/
def normalize (raw : String) : String := Text.lowercase (Text.trimmed raw)

/-- A small letter of the Latin alphabet. -/
def isLetter (c : Char) : Bool := 'a' ≤ c && c ≤ 'z'

/-- A character that may follow the first of a name. -/
def isFurther (c : Char) : Bool := isLetter c || ('0' ≤ c && c ≤ '9') || c = '_'

/-- Three to sixteen small letters, digits or underscores, a letter first. -/
def isValid : List Char → Bool
  | c :: r => isLetter c && r.all isFurther && 2 ≤ r.length && r.length ≤ 15
  | [] => false

/-- The normalized name, if it is one that an account can have. -/
def valid? (raw : String) : Option String :=
  let name := normalize raw
  if isValid name.toList then some name else none

end Username

end Questline
