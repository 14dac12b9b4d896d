/-!
# Edit distance

The least number of insertions, deletions and substitutions of single characters that turn one
text into another, computed row by row: the row of a text `a` holds the distances from `a` to
every prefix of `b`.
-/

namespace DefectScan.Text

/-- The rest of the next row: `left` is the entry just written, `diagonal :: above` what is left
of the previous row, and the list the characters of the second text that remain. -/
def nextEntries (a : Char) (left : Nat) : (previous : List Nat) → List Char → List Nat
  | diagonal :: above :: more, b :: s =>
    let entry := if a = b then diagonal else min (min diagonal left) above + 1
    entry :: nextEntries a entry (above :: more) s
  | _, _ => []

/-- The row after one more character of the first text. -/
def nextRow (b : List Char) (a : Char) (previous : List Nat) : List Nat :=
  let start := previous.headD 0 + 1
  start :: nextEntries a start previous b

/-- The distances from a text to the prefixes of another, shortest prefix first. -/
def distanceRow (b : List Char) (a : List Char) : List Nat :=
  a.foldl (fun row c => nextRow b c row) (List.range (b.length + 1))

/-- The edit distance between two texts. -/
def editDistance (a b : List Char) : Nat := (distanceRow b a).getLastD 0

end DefectScan.Text
