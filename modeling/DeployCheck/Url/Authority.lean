import DeployCheck.Url.Path

/-!
Authorities of URLs: user information up to an at sign, a host, and a port behind a colon. User
information is read over, and a port that is the scheme's own counts as absent.
-/
namespace DeployCheck.Url

/-- The own port of a special scheme. -/
def defaultPort? (scheme : String) : Option Nat :=
  if scheme = "http" ∨ scheme = "ws" then some 80
  else if scheme = "https" ∨ scheme = "wss" then some 443
  else if scheme = "ftp" then some 21
  else none

def isFile (scheme : String) : Bool := scheme == "file"

def isSpecial (scheme : String) : Bool := (defaultPort? scheme).isSome || isFile scheme

structure Authority where
  host : Option Host
  port : Option Nat
deriving DecidableEq, Repr

namespace Authority

/-- Where an authority ends. -/
def isEnd (special : Bool) (c : Char) : Bool := Path.isSlash special c || c == '?' || c == '#'

/-- User information and what follows its at sign, the last one of the authority. -/
def splitUser (special : Bool) (cs : List Char) : Option (List Char × List Char) :=
  let inside := cs.takeWhile fun c => !isEnd special c
  if inside.contains '@' then
    let after := (inside.reverse.takeWhile (· != '@')).reverse
    let user := inside.take (inside.length - after.length - 1)
    some (user, cs.drop (user.length + 1))
  else none

/-- Whether user information names a user or a password. -/
def namesUser (user : List Char) : Bool := user != [] && user != [':']

/-- Whether user information names anyone, and the text from the host on. -/
def readUser (special : Bool) (cs : List Char) : Except Error (Bool × List Char) :=
  match splitUser special cs with
  | none => .ok (false, cs)
  | some (user, rest) =>
    if user.isEmpty && rest.head?.any (isEnd special) then .error .emptyHost
    else .ok (namesUser user, rest)

/-- The text of a host and what follows it, from the first colon outside brackets on or from the
end of the authority. -/
def splitHost (special : Bool) : Bool → List Char → List Char × List Char
  | _, [] => ([], [])
  | inside, c :: rest =>
    if (c == ':' && !inside) || isEnd special c then ([], c :: rest)
    else
      let inside := if c = '[' then true else if c = ']' then false else inside
      ((c :: (splitHost special inside rest).1), (splitHost special inside rest).2)

/-- A port below 2 ^ 16, and what follows. It ends where any authority may end; the scheme's own
port and no digits at all are no port. -/
def readPort (scheme : String) (cs : List Char) : Except Error (Option Nat × List Char) :=
  let digits := cs.takeWhile Char.isDigit
  let rest := cs.dropWhile Char.isDigit
  let port := (Text.natOfDigits 10 digits).filter fun n => defaultPort? scheme != some n
  if rest.head?.any fun c => !isEnd true c then .error .invalidPort
  else if port.any (65535 < ·) then .error .invalidPort
  else .ok (port, rest)

/-- An authority and what follows it. -/
def read (scheme : String) (cs : List Char) : Except Error (Authority × List Char) := do
  let special := isSpecial scheme
  let (hasUser, cs) ← readUser special cs
  let (hostText, rest) := splitHost special false cs
  if hostText.isEmpty && (special || hasUser || rest.head? == some ':') then
    throw Error.emptyHost
  let host ←
    if hostText.isEmpty then pure none
    else some <$> (if special then Host.ofSpecial hostText else Host.ofOpaque hostText)
  match rest with
  | ':' :: rest =>
    let (port, rest) ← readPort scheme rest
    return (⟨host, port⟩, rest)
  | _ => return (⟨host, none⟩, rest)

end Authority

end DeployCheck.Url
