import DeployCheck.Text.Composed
import DeployCheck.Text.Mark
import DeployCheck.Text.Split
import DeployCheck.Url.Direction
import DeployCheck.Url.Joiner
import DeployCheck.Url.NameMapping
import DeployCheck.Url.Punycode

/-!
Domain names in ASCII form: small letters, and behind `xn--` the code of a label with other
characters. A label that comes with its code already has to stand for such a label.
-/
namespace DeployCheck.Url.Domain

/-- ASCII characters that no domain name holds: controls, the space and the marks of a URL. -/
def isForbidden (c : Char) : Bool :=
  decide (c.toNat ≤ 0x20) || c.toNat == 0x7f || "#%/:<>?@[\\]^|".toList.contains c

/-- Labels between dots. -/
def labels (cs : List Char) : List (List Char) := Text.split '.' cs

def isAscii (cs : List Char) : Bool := cs.all fun c => c.toNat < 0x80

/-- A label with characters beyond ASCII begins with no mark, has its joiners in their places and
is not too long to be coded. -/
def isSound (label : List Char) : Bool :=
  !label.head?.any Text.isMark && Joiner.isSound label && decide (label.length ≤ 1000)

/-- The label that a code stands for: one with characters beyond ASCII, in the form it has in a
name. -/
def decoded? (code : List Char) : Option (List Char) :=
  if !isAscii code || 2000 < code.length then none
  else (Punycode.decode code).filter fun label =>
    !isAscii label && label.all NameMapping.isKept && Text.composed label == label &&
      isSound label

/-- The label that is meant, unless it has no place in a name. -/
def meant? (label : List Char) : Option (List Char) :=
  match Text.after? "xn--".toList label with
  | some code => decoded? code
  | none => if isAscii label || isSound label then some label else none

def asciiLabel (label : List Char) : List Char :=
  if isAscii label then label else "xn--".toList ++ Punycode.encode label

/-- The ASCII form of a name. -/
def toAscii? (cs : List Char) : Option (List Char) := do
  let name := Text.composed (← NameMapping.mapped? cs)
  let meant ← (labels name).mapM meant?
  if name.any isForbidden || !keepsDirections meant then none
  else return List.intercalate ['.'] ((labels name).map asciiLabel)

end DeployCheck.Url.Domain
