/-!
The order of texts, and entries in the order of their names. Main statement: ordering entries loses none and
adds none.
-/

namespace Nullability.Text

variable {α : Type}

/-- Whether a text does not come after another, character by character. -/
def charsLe : List Char → List Char → Bool
  | [], _ => true
  | _ :: _, [] => false
  | c :: cs, d :: ds => if c = d then charsLe cs ds else c.toNat < d.toNat

/-- Puts an entry before the first one whose name is not smaller. -/
def insertByName (e : String × α) : List (String × α) → List (String × α)
  | [] => [e]
  | f :: rest => if charsLe e.1.toList f.1.toList then e :: f :: rest else f :: insertByName e rest

/-- Entries in the order of their names; those of one name stay in their order. -/
def sortByName (entries : List (String × α)) : List (String × α) := entries.foldr insertByName []

theorem insertByName_perm (e : String × α) (entries : List (String × α)) :
    (insertByName e entries).Perm (e :: entries) := by
  induction entries with
  | nil => exact .refl _
  | cons f rest ih =>
    rw [insertByName]
    split
    · exact .refl _
    · exact (ih.cons f).trans (.swap e f rest)

theorem sortByName_perm (entries : List (String × α)) : (sortByName entries).Perm entries := by
  induction entries with
  | nil => exact .refl _
  | cons e rest ih => exact (insertByName_perm e (sortByName rest)).trans (ih.cons e)

end Nullability.Text
