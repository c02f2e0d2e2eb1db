/-!
Styled text: spans that a terminal shows in colour. Without colour a span is its bare text.
-/
namespace DeployCheck.Text

inductive Style where
  | whiteOnRed
  | blackOnYellow
  | blackOnGreen
  | red
  | green
  | yellow
deriving DecidableEq, Repr

namespace Style

/-- The parameters of the control sequence that switches the style on. -/
def openCode : Style → String
  | .whiteOnRed => "37;41"
  | .blackOnYellow => "30;43"
  | .blackOnGreen => "30;42"
  | .red => "31"
  | .green => "32"
  | .yellow => "33"

/-- A style with a ground is ended by a full reset, a bare colour by the default colour. -/
def closeCode : Style → String
  | .whiteOnRed | .blackOnYellow | .blackOnGreen => "0"
  | .red | .green | .yellow => "39"

end Style

structure Span where
  text : String
  style : Option Style := none
deriving DecidableEq, Repr

def control (code : String) : String := "\x1b[" ++ code ++ "m"

def Span.render (color : Bool) (s : Span) : String :=
  match color, s.style with
  | true, some style => control style.openCode ++ s.text ++ control style.closeCode
  | _, _ => s.text

/-- A line of spans. -/
def renderSpans (color : Bool) (spans : List Span) : String :=
  String.join (spans.map (Span.render color))

@[simp] theorem renderSpans_nil (color : Bool) : renderSpans color [] = "" := rfl

end DeployCheck.Text
