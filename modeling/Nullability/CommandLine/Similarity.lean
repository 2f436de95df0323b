/-!
How alike two words are: the share of the characters of each that the other has nearby, and the share of
those that stand in the same order. A word that is not known is answered with the known ones it resembles.
-/

namespace Nullability.CommandLine

/-- The places of `ys` that the characters of `xs`, read from place `i` on, are paired with: each takes the
first free place at most `window` away that holds the same character. -/
def pairings (window : Nat) (ys : List Char) : Nat → List Char → List Nat → List Nat
  | _, [], taken => taken
  | i, x :: xs, taken =>
    let free (p : Char × Nat) : Bool :=
      p.1 == x && i ≤ p.2 + window && p.2 ≤ i + window && !taken.contains p.2
    match ys.zipIdx.find? free with
    | some (_, j) => pairings window ys (i + 1) xs (taken ++ [j])
    | none => pairings window ys (i + 1) xs taken

/-- How alike two words are, as a numerator and a denominator between nothing and one. -/
def similarity (a b : String) : Nat × Nat :=
  let xs := a.toList
  let ys := b.toList
  let window := max xs.length ys.length / 2 - 1
  let paired := pairings window ys 0 xs []
  let inOrder := paired.mergeSort (· ≤ ·)
  let moved := (List.zip paired inOrder).countP (fun p => ys[p.1]? != ys[p.2]?)
  let m := paired.length
  let n := xs.length
  let k := ys.length
  if m = 0 then (0, 1) else (m * k * m + m * n * m + (m - moved / 2) * n * k, 3 * n * k * m)

/-- Puts an element behind all that are not greater. -/
def insertByScore (x : (Nat × Nat) × α) : List ((Nat × Nat) × α) → List ((Nat × Nat) × α)
  | [] => [x]
  | y :: r =>
    if x.1.1 * y.1.2 < y.1.1 * x.1.2 then x :: y :: r else y :: insertByScore x r

/-- The candidates that are at least seven tenths like the word, the most alike last. -/
def similarTo (word : String) (candidates : List (String × α)) : List α :=
  let scored := candidates.map (fun c => (similarity word c.1, c.2))
  let close := scored.filter (fun c => c.1.1 * 10 ≥ c.1.2 * 7)
  (close.foldl (fun acc c => insertByScore c acc) []).map (·.2)

end Nullability.CommandLine
