import Nullability.Source.Nesting
import Nullability.Syntax.Cursor

/-!
Markers. A marker is written as one identifier; blanks and plain comments around it do not count.
-/

namespace Nullability.Marker

/-- The identifier that a text consists of, as it is written. -/
def identifier? (text : String) : Option String :=
  match TokenTree.ofText text.toList with
  | .ok [.ident name _] => if Syntax.reservedWords.contains name then none else some name
  | _ => none

def isValid (text : String) : Bool := (identifier? text).isSome

end Nullability.Marker
