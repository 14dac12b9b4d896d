import DefectScan.Yaml.Fault

/-!
# Places while reading

A cursor is a place in a text: what is left to read, and where that is. Beyond the end of the text
a null character is seen, which no text contains.
-/

namespace DefectScan.Yaml

/-- A line end. -/
def isBreak (c : Char) : Bool :=
  c == '\n' || c == '\r' || c == '\x85' || c == '\u2028' || c == '\u2029'

/-- A line end or the end of the text. -/
def isBreakOrEnd (c : Char) : Bool := c == '\x00' || isBreak c

/-- A space, a line end or the end of the text. -/
def isGap (c : Char) : Bool := c == ' ' || isBreakOrEnd c

/-- A space, a tab, a line end or the end of the text. -/
def isWideGap (c : Char) : Bool := c == '\t' || isGap c

/-- A character of a plain name. -/
def isNameChar (c : Char) : Bool := c.isAlphanum || c == '-' || c == '_'

/-- A hexadecimal digit. -/
def isHexDigit (c : Char) : Bool :=
  c.isDigit || ('a' ≤ c && c ≤ 'f') || ('A' ≤ c && c ≤ 'F')

/-- The value of a hexadecimal digit. -/
def hexValue (c : Char) : Nat :=
  if c.isDigit then c.toNat - '0'.toNat else c.toLower.toNat - 'a'.toNat + 10

/-- The value of hexadecimal digits. -/
def hexNumber (digits : List Char) : Nat := digits.foldl (fun n c => n * 16 + hexValue c) 0

/-- A place in a text. -/
structure Cursor where
  /-- What is left to read. -/
  rest : List Char
  /-- How many characters that is. -/
  left : Nat := rest.length
  /-- How many characters were read. -/
  index : Nat := 0
  /-- Where that is. -/
  mark : Mark := {}
  deriving Repr, Inhabited

namespace Cursor

/-- The character at a distance. -/
def peek (c : Cursor) (distance : Nat := 0) : Char := (c.rest[distance]?).getD '\x00'

/-- The place after one more character. A byte order mark takes no column. -/
def next (c : Cursor) : Cursor :=
  match c.rest with
  | [] => c
  | a :: rest =>
    let mark :=
      if isBreak a && !(a == '\r' && rest.head? == some '\n') then
        { line := c.mark.line + 1, column := 0 }
      else if a = '\uFEFF' then c.mark
      else { c.mark with column := c.mark.column + 1 }
    { rest, left := c.left - 1, index := c.index + 1, mark }

/-- The place after some more characters. -/
def advance (c : Cursor) : Nat → Cursor
  | 0 => c
  | n + 1 => c.next.advance n

/-- The characters up to the first one without the property, and the place there. -/
def span (c : Cursor) (p : Char → Bool) : List Char × Cursor :=
  let run := c.rest.takeWhile p
  (run, c.advance run.length)

/-- The place after the characters with the property. -/
def skip (c : Cursor) (p : Char → Bool) : Cursor := (c.span p).2

/-- Read a line end: what it stands for, nothing if there is none. -/
def lineBreak (c : Cursor) : List Char × Cursor :=
  match c.rest with
  | '\r' :: '\n' :: _ => (['\n'], c.advance 2)
  | a :: _ =>
    if a = '\u2028' || a = '\u2029' then ([a], c.next)
    else if isBreak a then (['\n'], c.next)
    else ([], c)
  | [] => ([], c)

/-- Whether three dashes or three dots stand here, which end a document. -/
def atSeparator (c : Cursor) : Bool :=
  let three := c.rest.take 3
  (three == "---".toList || three == "...".toList) && isWideGap (c.peek 3)

/-- The place after a comment, if one stands here. -/
def skipComment (c : Cursor) : Cursor :=
  if c.peek == '#' then c.skip (!isBreakOrEnd ·) else c

end Cursor

/-- The first character that may not occur in a text, with its position. -/
def firstUnacceptable? (text : List Char) : Option (Char × Nat) :=
  text.zipIdx.find? fun p =>
    let n := p.1.toNat
    !(n = 0x09 || n = 0x0A || n = 0x0D || n = 0x85 || (0x20 ≤ n && n ≤ 0x7E) ||
      (0xA0 ≤ n && n ≤ 0xFFFD) || 0x10000 ≤ n)

end DefectScan.Yaml
