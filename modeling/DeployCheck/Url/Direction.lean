import DeployCheck.Text.Mark

/-!
Writing directions in domain names. A name with a letter that is written to the left has to keep
the order of its characters apparent: no label mixes the two directions, and each begins and ends
with a character whose direction is clear. The tables hold characters that a name may contain.
-/
namespace DeployCheck.Url

inductive Direction where
  /-- Letters written to the right. -/
  | rightward
  /-- Letters written to the left. -/
  | leftward
  /-- Digits of Arabic script. -/
  | arabicDigit
  /-- Digits as in ASCII. -/
  | digit
  /-- Nonspacing marks. -/
  | mark
  /-- Characters without a direction of their own. -/
  | neutral
deriving DecidableEq, Repr

namespace Direction

def leftwardLetters : Text.CodeTable := .read "
5be-5f4 608 60b 60d 61b-64a 66d-6d5 6e5-6e6 6ee-6ef 6fa-7f5 7fa-8c9 fbb2-fbc2 fe73 10800-1091b
10920-10b35 10b40-10d23 10d4a-10d4f 10d6f-10d8f 10e80-10ec7 10f00-10ff6 1e800-1ed3d"

def arabicDigits : Text.CodeTable := .read "
660-669 66b-66c 10d30-10d49 10e60-10e7e"

def digits : Text.CodeTable := .read "
6f0-6f9 102e1-102fb"

def neutrals : Text.CodeTable := .read "
a1-d7 f7 2b9-2ba 2c2-2cf 2d2-2ed 2ef-2ff 375 3f6 58a-58f 606-607 609-60a 60c 60e-60f 66a 6de 6e9
7f6-7f9 9f2-9f3 9fb af1 bf3-bfa c78-c7e e3f f3a-f3d 1390-1399 1400 169b-169c 17db 17f0-180a
1940-1945 19de-19ff 200c-214d 218a-2335 237b-2394 2396-26ab 26ad-27ff 2900-2bff 2ce5-2cea
2cf9-2cff 2e00-3004 3008-3020 3030 3037 303d-303f 30a0 30fb 31c0-31e5 4dc0-4dff a490-a4c6
a60d-a60f a673-a67f a700-a721 a788 a828-a82b a838-a839 a874-a877 ab6a-ab6b fbc3-fe46 10101
10140-1018c 10190-101a0 1091f 10b39-10b3f 10d6e 10ed0-10ed8 11052-11065 11660-1166c 11fd5-11ff1
16fe2 1cc00-1cef0 1d1e9-1d245 1d300-1d356 1e2ff 1eef0-1f12f 1f16d-1f16f 1f1ad 1f260-1fbfa"

/-- Nonspacing marks with the direction of a letter. -/
def letterMarks : Text.CodeTable := .read "cbf cc6 11a07-11a08 11c3f"

def ofChar (c : Char) : Direction :=
  let n := c.toNat
  if n < 0x80 then if c.isDigit then digit else if c.isAlpha then rightward else neutral
  else if Text.isNonspacing c then if letterMarks.contains n then rightward else mark
  else if leftwardLetters.contains n then leftward
  else if arabicDigits.contains n then arabicDigit
  else if digits.contains n then digit
  else if neutrals.contains n then neutral
  else rightward

/-- Whether a label with such a character makes the directions of its whole name matter. -/
def matters : Direction → Bool
  | leftward | arabicDigit => true
  | _ => false

/-- A label that begins with a letter written to the right: it holds nothing written to the left,
and ends with such a letter or a digit. -/
def isSoundRightward (ds : List Direction) : Bool :=
  ds.all (fun d => d != leftward && d != arabicDigit) &&
    ((ds.reverse.dropWhile (· == mark)).head?.all fun d => d == rightward || d == digit)

/-- A label that begins with a letter written to the left: it holds no letter written to the
right, ends with a letter or a digit, and its digits are of one kind. -/
def isSoundLeftward (ds : List Direction) : Bool :=
  ds.all (· != rightward) && !(ds.contains digit && ds.contains arabicDigit) &&
    ((ds.reverse.dropWhile (· == mark)).head?.all fun d => d != neutral)

def isSound (label : List Char) : Bool :=
  match label.map ofChar with
  | [] => true
  | rightward :: ds => isSoundRightward (rightward :: ds)
  | leftward :: ds => isSoundLeftward (leftward :: ds)
  | _ :: _ => false

end Direction

/-- In a name with anything written to the left every label has to be sound. -/
def keepsDirections (labels : List (List Char)) : Bool :=
  !(labels.any fun label => label.any fun c => (Direction.ofChar c).matters) ||
    labels.all Direction.isSound

end DeployCheck.Url
