/-!
# Lines of a text

A line ends at a line feed, and a carriage return right before the line feed belongs to the line
end. A text without a line feed is one line, so there is always one line more than line feeds.
-/

namespace DefectScan.Text

/-- Put a character in front of the first of the lines. -/
def consFirst (c : Char) : List (List Char) → List (List Char)
  | [] => [[c]]
  | l :: ls => (c :: l) :: ls

/-- The lines of a text without their line ends. -/
def splitLines : List Char → List (List Char)
  | [] => [[]]
  | '\n' :: s => [] :: splitLines s
  | '\r' :: '\n' :: s => [] :: splitLines s
  | c :: s => consFirst c (splitLines s)

/-- The text with every line end, be it a carriage return, a line feed or both, written as one
line feed. -/
def plainLineEnds : List Char → List Char
  | [] => []
  | '\r' :: '\n' :: s => '\n' :: plainLineEnds s
  | '\r' :: s => '\n' :: plainLineEnds s
  | c :: s => c :: plainLineEnds s

end DefectScan.Text
