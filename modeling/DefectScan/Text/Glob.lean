/-!
# File name patterns

In a pattern a star stands for any text, a question mark for any character, and brackets for one
character of a set. A set lists characters and ranges and is negated by a leading exclamation
mark. A bracket that is not closed stands for itself, and so does every other character.

A pattern is matched by carrying along all ends of the text that are still to be matched, longest
first, so the time is bounded by the product of the two lengths.
-/

namespace DefectScan.Text

/-- One element of a pattern. -/
inductive GlobItem where
  /-- Any text. -/
  | star
  /-- Any one character. -/
  | any
  /-- This character. -/
  | one (c : Char)
  /-- One character in a range, or in none of them when negated. -/
  | set (negated : Bool) (ranges : List (Char × Char))
  deriving DecidableEq, Repr, Inhabited

/-- Cut the inside of brackets at its range hyphens. The first hyphen cannot stand within `skip`
characters, and after a range at least two characters come before the next hyphen. -/
def rangeChunks (skip : Nat) (s : List Char) : List (List Char) :=
  let n := skip + ((s.drop skip).takeWhile (· != '-')).length
  if n < s.length then s.take n :: rangeChunks 2 (s.drop (n + 1)) else [s]
  termination_by s.length

/-- A hyphen at the end is a member of the set. -/
def closeChunks : List (List Char) → List (List Char)
  | [c, []] => [c ++ ['-']]
  | c :: cs => c :: closeChunks cs
  | [] => []

/-- Put a chunk in front of others; a range that runs downwards is empty and is taken out. -/
def joinChunk (c : List Char) : List (List Char) → List (List Char)
  | d :: ds =>
    match c.getLast?, d.head? with
    | some lo, some hi => if hi < lo then (c.dropLast ++ d.tail) :: ds else c :: d :: ds
    | _, _ => c :: d :: ds
  | [] => [c]

/-- The ranges of a set: within a chunk single characters, and from the end of each chunk to the
start of the next. -/
def chunkRanges : List (List Char) → List (Char × Char)
  | [] => []
  | [c] => c.map fun x => (x, x)
  | c :: (hi :: d) :: ds =>
    (c.dropLast.map fun x => (x, x)) ++ (c.getLast?.map fun lo => (lo, hi)).toList ++
      chunkRanges (d :: ds)
  | c :: [] :: ds => (c.map fun x => (x, x)) ++ chunkRanges ([] :: ds)
  termination_by chunks => chunks.length

/-- The set that stands between brackets. -/
def setItem (inside : List Char) : GlobItem :=
  let skip := if inside.head? == some '!' then 2 else 1
  match (closeChunks (rangeChunks skip inside)).foldr joinChunk [] with
  | ['!'] :: c :: cs => .set true (chunkRanges (('-' :: c) :: cs))
  | ('!' :: c) :: cs => .set true (chunkRanges (c :: cs))
  | chunks => .set false (chunkRanges chunks)

/-- The length of the inside of brackets, if they are closed. A closing bracket right at the
start, or after the exclamation mark, is a member. -/
def insideLength? (s : List Char) : Option Nat :=
  let negation := if s.head? == some '!' then 1 else 0
  let start := if (s.drop negation).head? == some ']' then negation + 1 else negation
  let n := start + ((s.drop start).takeWhile (· != ']')).length
  if n < s.length then some n else none

/-- The elements of a pattern. -/
def globItems : List Char → List GlobItem
  | [] => []
  | c :: s =>
    if c = '*' then .star :: globItems s
    else if c = '?' then .any :: globItems s
    else if c = '[' then
      match insideLength? s with
      | some n => setItem (s.take n) :: globItems (s.drop (n + 1))
      | none => .one c :: globItems s
    else .one c :: globItems s
  termination_by s => s.length

/-- Whether an element other than a star takes a character. -/
def GlobItem.takes : GlobItem → Char → Bool
  | star, _ => false
  | any, _ => true
  | one c, d => c == d
  | set negated ranges, d => (ranges.any fun r => r.1 ≤ d && d ≤ r.2) != negated

/-- All ends of a text, longest first. -/
def tails : List Char → List (List Char)
  | [] => [[]]
  | c :: s => (c :: s) :: tails s

/-- What is left of each of the given ends of a text, longest first, after an element. -/
def GlobItem.advance (item : GlobItem) (ends : List (List Char)) : List (List Char) :=
  match item with
  | star => (ends.head?.map tails).getD []
  | item => ends.filterMap fun
    | c :: s => if item.takes c then some s else none
    | [] => none

/-- Whether a text matches a pattern. -/
def globMatches (pattern text : List Char) : Bool :=
  ((globItems pattern).foldl (fun ends item => item.advance ends) [text]).contains []

end DefectScan.Text
