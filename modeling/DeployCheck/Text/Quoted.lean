import DeployCheck.Text.Digits
import DeployCheck.Text.Graphic

/-!
Quoted text as error messages show it: the quote and the backslash are escaped, a character that
would not show is written by its code point in braces.
-/
namespace DeployCheck.Text.Quoted

/-- One character inside the quotes `quote`. -/
def escape (quote c : Char) : List Char :=
  if c = '\x00' then ['\\', '0']
  else if c = '\t' then ['\\', 't']
  else if c = '\r' then ['\\', 'r']
  else if c = '\n' then ['\\', 'n']
  else if c = quote ∨ c = '\\' then ['\\', c]
  else if isGraphic c then [c]
  else ['\\', 'u', '\x7b'] ++ (hexDigits 1 c.toNat).toList ++ ['\x7d']

def char (c : Char) : String := String.ofList ('\'' :: escape '\'' c ++ ['\''])

def text (s : String) : String := String.ofList ('"' :: s.toList.flatMap (escape '"') ++ ['"'])

example : text "a\n" = "\"a\\n\"" := by decide +kernel

end DeployCheck.Text.Quoted
