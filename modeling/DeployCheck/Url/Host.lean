import DeployCheck.Text.Digits
import DeployCheck.Url.Domain

/-!
Hosts of a URL: domain names, IPv4 addresses in any of their number forms, IPv6 addresses in
brackets, and the opaque hosts of other schemes.
-/
namespace DeployCheck.Url

inductive Error where
  | relativeWithoutBase
  | emptyHost
  | invalidPort
  | invalidIpv4
  | invalidIpv6
  | invalidDomain
  | invalidDomainCharacter
deriving DecidableEq, Repr

def Error.message : Error → String
  | .relativeWithoutBase => "relative URL without a base"
  | .emptyHost => "empty host"
  | .invalidPort => "invalid port number"
  | .invalidIpv4 => "invalid IPv4 address"
  | .invalidIpv6 => "invalid IPv6 address"
  | .invalidDomain => "invalid international domain name"
  | .invalidDomainCharacter => "invalid domain character"

inductive Host where
  | domain (name : List Char)
  | ipv4 (address : Nat)
  /-- Eight groups of 16 bits. -/
  | ipv6 (groups : List Nat)
deriving DecidableEq, Repr

namespace Host

/-! ## IPv4 -/

/-- A number of an IPv4 address: octal after a zero, hexadecimal after `0x`. The inner `none`
stands for one beyond 32 bits. -/
def ipv4Number? (cs : List Char) : Option (Option Nat) :=
  let (radix, digits) : Nat × List Char := match cs with
    | '0' :: 'x' :: rest => (16, rest)
    | '0' :: 'X' :: rest => (16, rest)
    | '0' :: d :: rest => (8, d :: rest)
    | _ => (10, cs)
  if cs.isEmpty then none
  else if digits.isEmpty then some (some 0)
  else (Text.natOfDigits radix digits).map fun n => if n < Nat.pow 2 32 then some n else none

/-- Whether the last label, leaving out one empty label at the end, is a number. -/
def endsInNumber (name : List Char) : Bool :=
  let last := match (Domain.labels name).reverse with
    | [] :: l :: _ => l
    | l :: _ => l
    | [] => []
  (!last.isEmpty && last.all Char.isDigit) || (ipv4Number? last).isSome

/-- The last number fills the bytes that the others leave. -/
def ipv4Of (numbers : List Nat) : Option Nat :=
  match numbers.reverse with
  | [] => none
  | last :: rest =>
    let bytes := rest.reverse
    if 3 < bytes.length || bytes.any (255 < ·) || Nat.pow 256 (4 - bytes.length) ≤ last then none
    else
      let lead := bytes.zipIdx.foldl (fun n (b, i) => n + b * Nat.pow 256 (3 - i)) 0
      some (lead + last)

def ipv4? (name : List Char) : Option Nat :=
  let ls := Domain.labels name
  let ls := match ls.reverse with
    | [] :: rest => rest.reverse
    | _ => ls
  (ls.mapM fun l => (ipv4Number? l).join).bind ipv4Of

def ipv4Text (address : Nat) : String :=
  String.intercalate "."
    ((List.range 4).map fun i => toString (address / Nat.pow 256 (3 - i) % 256))

/-! ## IPv6 -/

/-- A decimal byte without a leading zero. -/
def strictByte? (cs : List Char) : Option Nat :=
  if cs.all Char.isDigit && !(cs.length > 1 && cs.head? == some '0') then
    (Text.natOfDigits 10 cs).filter (· < 256)
  else none

/-- The groups of one part; the last part may be a dotted IPv4 address. -/
def groupsOf (isLast : Bool) (cs : List Char) : Option (List Nat) :=
  if isLast && cs.contains '.' then
    match (Domain.labels cs).mapM strictByte? with
    | some [a, b, c, d] => some [256 * a + b, 256 * c + d]
    | _ => none
  else if cs.length ≤ 4 then (Text.natOfDigits 16 cs).map fun n => [n]
  else none

/-- The groups of parts that stand side by side. -/
def groupRun (endsAddress : Bool) (parts : List (List Char)) : Option (List Nat) :=
  (parts.zipIdx.mapM fun (p, i) => groupsOf (endsAddress && i + 1 == parts.length) p).map
    List.flatten

/-- The parts before and after a double colon, if there is one. -/
def splitGap : List Char → Option (List Char × List Char)
  | ':' :: ':' :: rest => some ([], rest)
  | c :: rest => (splitGap rest).map fun (a, b) => (c :: a, b)
  | [] => none

def sideParts (cs : List Char) : List (List Char) := if cs.isEmpty then [] else Text.split ':' cs

/-- The eight groups of an address; a double colon stands for one or more groups of zeros. -/
def ipv6? (cs : List Char) : Option (List Nat) :=
  match splitGap cs with
  | some (before, after) =>
    if (splitGap after).isSome || after.head? == some ':' then none
    else do
      let a ← groupRun false (sideParts before)
      let b ← groupRun true (sideParts after)
      if a.length + b.length ≤ 7 then
        return a ++ List.replicate (8 - a.length - b.length) 0 ++ b
      else none
  | none => (groupRun true (Text.split ':' cs)).filter fun gs => gs.length == 8

/-- The length of the run of zeros in front. -/
def zeroRun : List Nat → Nat
  | 0 :: rest => zeroRun rest + 1
  | _ => 0

/-- Start and length of the first longest run of two or more zeros. -/
def longestZeros (groups : List Nat) : Option (Nat × Nat) :=
  (List.range groups.length).foldl
    (fun best i =>
      let n := zeroRun (groups.drop i)
      if 2 ≤ n && (best.map Prod.snd).getD 0 < n then some (i, n) else best)
    none

def groupTexts (groups : List Nat) : String :=
  String.intercalate ":" (groups.map (Text.hexDigits 1))

def ipv6Text (groups : List Nat) : String :=
  match longestZeros groups with
  | some (i, n) => groupTexts (groups.take i) ++ "::" ++ groupTexts (groups.drop (i + n))
  | none => groupTexts groups

/-! ## Hosts -/

/-- The host as it is written in a URL. -/
def text : Host → String
  | .domain name => String.ofList name
  | .ipv4 address => ipv4Text address
  | .ipv6 groups => "[" ++ ipv6Text groups ++ "]"

/-- The bytes of a text in which a percent sign and two digits stand for one. -/
def percentDecode : List Char → List UInt8
  | '%' :: a :: b :: rest =>
    match Text.digitValue 16 a, Text.digitValue 16 b with
    | some x, some y => UInt8.ofNat (16 * x + y) :: percentDecode rest
    | _, _ => 0x25 :: percentDecode (a :: b :: rest)
  | c :: rest => (String.ofList [c]).toUTF8.toList ++ percentDecode rest
  | [] => []

def bracketed? (cs : List Char) : Option (Except Error Host) :=
  match cs with
  | '[' :: inner =>
    match inner.reverse with
    | ']' :: body =>
      match ipv6? body.reverse with
      | some groups => some (.ok (.ipv6 groups))
      | none => some (.error .invalidIpv6)
    | _ => some (.error .invalidIpv6)
  | _ => none

/-- The host of a special scheme; it is not empty. -/
def ofSpecial (cs : List Char) : Except Error Host :=
  match bracketed? cs with
  | some result => result
  | none =>
    match String.fromUTF8? ⟨(percentDecode cs).toArray⟩ with
    | none => .error .invalidDomain
    | some s =>
      match Domain.toAscii? s.toList with
      | none => .error .invalidDomain
      | some name =>
        if name.isEmpty then .error .emptyHost
        else if endsInNumber name then
          match ipv4? name with
          | some address => .ok (.ipv4 address)
          | none => .error .invalidIpv4
        else .ok (.domain name)

/-- A character as percent-coded bytes. -/
def percentEncode (c : Char) : List Char :=
  (String.ofList [c]).toUTF8.toList.flatMap fun b =>
    '%' :: (Text.hexDigitsUpper 2 b.toNat).toList

def isForbiddenOpaque (c : Char) : Bool :=
  c == '\x00' || c == '\t' || c == '\n' || c == '\r' || " #/:<>?@[\\]^|".toList.contains c

/-- The host of any other scheme, kept as it is but for controls. -/
def ofOpaque (cs : List Char) : Except Error Host :=
  match bracketed? cs with
  | some result => result
  | none =>
    if cs.any isForbiddenOpaque then .error .invalidDomainCharacter
    else .ok (.domain (cs.flatMap fun c =>
      if c.toNat < 32 || 126 < c.toNat then percentEncode c else [c]))

end Host

end DeployCheck.Url
