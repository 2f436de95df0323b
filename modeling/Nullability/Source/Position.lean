/-!
Places in a text. A place is kept as its distance from the end of the text, so that everything read
from a text stays the same when characters are put in front of it; line and column are computed from
the text only when they are shown.
-/

namespace Nullability

/-- A place in a text: the number of characters from it to the end of the text. -/
abbrev Mark := Nat

/-- A line and a column, both counted from 1. -/
structure Position where
  line : Nat
  column : Nat
  deriving DecidableEq, Repr, Inhabited

namespace Mark

/-- The part of the text that stands before a place. -/
def textBefore (text : List Char) (m : Mark) : List Char :=
  text.take (text.length - m)

/-- The line of a place: one more than the line breaks before it. -/
def line (text : List Char) (m : Mark) : Nat :=
  1 + (textBefore text m).count '\n'

/-- The column of a place: one more than the characters between the last line break and it. -/
def column (text : List Char) (m : Mark) : Nat :=
  1 + ((textBefore text m).reverse.takeWhile (· != '\n')).length

def position (text : List Char) (m : Mark) : Position :=
  ⟨line text m, column text m⟩

theorem textBefore_append {text : List Char} {m : Nat} (front : List Char) (h : m ≤ text.length) :
    textBefore (front ++ text) m = front ++ textBefore text m := by
  have hlen : (front ++ text).length - m = front.length + (text.length - m) := by
    rw [List.length_append]; omega
  rw [textBefore, hlen, List.take_append]
  simp [textBefore, List.take_of_length_le]

/-- Text put in front moves every line down by the line breaks it holds. -/
theorem line_append {text : List Char} {m : Nat} (front : List Char) (h : m ≤ text.length) :
    line (front ++ text) m = front.count '\n' + line text m := by
  rw [line, textBefore_append front h, List.count_append, line]; omega

end Mark

end Nullability
