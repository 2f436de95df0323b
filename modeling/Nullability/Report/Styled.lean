/-!
Styled text. A text is a list of spans, and a style shows only where the text is written in colour.
-/

namespace Nullability.Report

inductive TextStyle
  | bold | dimmed | green | red | boldRed
  deriving DecidableEq, Repr

/-- The numbers of a style in a terminal's control sequence. -/
def TextStyle.codes : TextStyle → String
  | bold => "1"
  | dimmed => "2"
  | green => "32"
  | red => "31"
  | boldRed => "1;31"

/-- A piece of text, with a style if it has one. -/
structure Span where
  style : Option TextStyle
  text : String
  deriving DecidableEq, Repr

abbrev Styled := List Span

/-- The control sequence that ends all styles. -/
def styleEnd : String := "\x1b[0m"

def styleStart (s : TextStyle) : String := "\x1b[" ++ s.codes ++ "m"

/-- A text in which every end of styles is followed by the start of a style. -/
def resumed (start : List Char) : List Char → List Char
  | '\x1b' :: '[' :: '0' :: 'm' :: rest => styleEnd.toList ++ start ++ resumed start rest
  | c :: rest => c :: resumed start rest
  | [] => []

namespace Span

def plain (text : String) : Span := ⟨none, text⟩

/-- A span as it is written in colour; a style that ends inside is begun again. -/
def coloured (s : Span) : String :=
  match s.style with
  | none => s.text
  | some style =>
    let start := styleStart style
    start ++ String.ofList (resumed start.toList s.text.toList) ++ styleEnd

def render (colour : Bool) (s : Span) : String := if colour then s.coloured else s.text

end Span

def Styled.render (colour : Bool) (spans : Styled) : String := String.join (spans.map (·.render colour))

theorem render_cons (colour : Bool) (span : Span) (spans : Styled) :
    Styled.render colour (span :: spans) = span.render colour ++ spans.render colour := by
  rw [Styled.render, List.map_cons, String.join_cons]
  rfl

theorem render_append (colour : Bool) (a b : Styled) :
    Styled.render colour (a ++ b) = a.render colour ++ b.render colour := by
  rw [Styled.render, List.map_append, String.join_append]
  rfl

theorem render_plain (spans : Styled) : spans.render false = String.join (spans.map Span.text) := rfl

end Nullability.Report
