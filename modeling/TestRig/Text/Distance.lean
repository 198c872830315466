import TestRig.Text.Chars

/-!
The edit distance between two texts: the fewest insertions, deletions and substitutions of
single characters that turn one into the other. It is computed row by row over the characters
of the first text, each row holding the distances from a prefix of the first text to every
prefix of the second.
-/

namespace TestRig.Text

def nextRow (a : Char) : List Char → List Nat → Nat → Nat → List Nat
  | b :: bs, above :: rest, diag, left =>
    let here := min (min (above + 1) (left + 1)) (diag + if a == b then 0 else 1)
    here :: nextRow a bs rest above here
  | _, _, _, _ => []

def distanceRows (t : List Char) : List Char → List Nat → List Nat
  | [], row => row
  | a :: as, row =>
    let first := row.headD 0 + 1
    distanceRows t as (first :: nextRow a t (row.drop 1) (row.headD 0) first)

def editDistance (s t : String) : Nat :=
  let ts := t.toList
  (distanceRows ts s.toList (List.range (ts.length + 1))).getLastD 0

end TestRig.Text
