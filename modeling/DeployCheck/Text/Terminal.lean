import DeployCheck.Text.Digits

/-!
Text for terminals: characters that could start a command of a terminal are written by their codes.
-/
namespace DeployCheck.Text.Terminal

/-- Bell, backspace, form feed, escape and delete. -/
def isCommand (c : Char) : Bool := "\x07\x08\x0c\x1b\x7f".toList.contains c

/-- The controls behind ASCII. -/
def isHighControl (c : Char) : Bool := decide (0x80 ≤ c.toNat) && decide (c.toNat ≤ 0x9f)

def escape (c : Char) : List Char :=
  if isCommand c then '\\' :: 'x' :: (hexDigits 2 c.toNat).toList
  else if isHighControl c then
    ['\\', 'u', '\x7b'] ++ (hexDigits 1 c.toNat).toList ++ ['\x7d']
  else [c]

def text (s : String) : String := String.ofList (s.toList.flatMap escape)

example : text "a\x1b[0m" = "a\\x1b[0m" := by decide +kernel

end DeployCheck.Text.Terminal
