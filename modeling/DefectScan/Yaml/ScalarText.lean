import DefectScan.Text.Glyph
import DefectScan.Yaml.Lexeme

/-!
# Texts of scalars

Readers for the five ways to write a scalar: plain, between single or double quotes, and as a
literal or folded block. Line ends within plain and quoted scalars are folded: one becomes a
space, and of several the first is dropped.
-/

namespace DefectScan.Yaml

open Text (Glyph)

/-- What the line ends between two lines of a scalar become, where `first` is the first one and
`more` are the others. -/
def foldBreaks (first more : List Char) : List Char :=
  if first != ['\n'] then first ++ more
  else if more.isEmpty then [' ']
  else more

/-! ### Quoted scalars -/

/-- What a backslash followed by the character stands for. -/
def escapeMeaning? : Char → Option Char
  | '0' => some '\x00'
  | 'a' => some '\x07'
  | 'b' => some '\x08'
  | 't' | '\t' => some '\t'
  | 'n' => some '\n'
  | 'v' => some '\x0b'
  | 'f' => some '\x0c'
  | 'r' => some '\r'
  | 'e' => some '\x1b'
  | ' ' => some ' '
  | '"' => some '"'
  | '\\' => some '\\'
  | '/' => some '/'
  | 'N' => some '\x85'
  | '_' => some '\xa0'
  | 'L' => some '\u2028'
  | 'P' => some '\u2029'
  | _ => none

/-- How many hexadecimal digits follow a backslash and the character. -/
def codeLength? : Char → Option Nat
  | 'x' => some 2
  | 'u' => some 4
  | 'U' => some 8
  | _ => none

/-- Read line ends with the blanks between them. -/
def readQuotedBreaks (start : Mark) : Nat → Reader (List Char)
  | 0, c => .ok ([], c)
  | n + 1, c =>
    if c.atSeparator then
      faultAt "while scanning a quoted scalar" start "found unexpected document separator" c
    else
      let c := c.skip fun a => a == ' ' || a == '\t'
      if isBreak c.peek then do
        let (first, c) := c.lineBreak
        let (more, c) ← readQuotedBreaks start n c
        .ok (first ++ more, c)
      else .ok ([], c)

/-- Read blanks between two words of a quoted scalar, which may cross line ends. -/
def readQuotedBlanks (start : Mark) : Reader (List Char) := fun c =>
  let (blanks, c) := c.span fun a => a == ' ' || a == '\t'
  if c.peek == '\x00' then
    faultAt "while scanning a quoted scalar" start "found unexpected end of stream" c
  else if isBreak c.peek then do
    let (first, c) := c.lineBreak
    let (more, c) ← readQuotedBreaks start (c.left + 1) c
    .ok (foldBreaks first more, c)
  else .ok (blanks, c)

/-- Read what follows a backslash between double quotes. -/
def readEscape (start : Mark) : Reader (List Glyph) := fun c =>
  let context := "while scanning a double-quoted scalar"
  let sign := c.peek
  match escapeMeaning? sign, codeLength? sign with
  | some a, _ => .ok ([.char a], c.next)
  | none, some count =>
    let c := c.next
    let digits := (List.range count).map fun k => c.peek k
    match digits.find? (!isHexDigit ·) with
    | some a =>
      unexpected context start
        ("escape sequence of " ++ toString count ++ " hexadecimal numbers") a c
    | none =>
      let code := hexNumber digits
      if 0x10FFFF < code then .error (.noCharacter code)
      else .ok ([.ofCode code], c.advance count)
  | none, none =>
    if isBreak sign then do
      let (breaks, c) ← readQuotedBreaks start (c.left + 1) c.lineBreak.2
      .ok (Glyph.ofChars breaks, c)
    else faultAt context start ("found unknown escape character " ++ shownChar sign) c

/-- Read the characters of a quoted scalar up to the next blank or the closing quote. -/
def readQuotedWord (isDouble : Bool) (start : Mark) : Nat → Reader (List Glyph)
  | 0, c => .ok ([], c)
  | n + 1, c => do
    let (run, c) := c.span fun a => !(a == '\'' || a == '"' || a == '\\' || isWideGap a)
    let run := Glyph.ofChars run
    let sign := c.peek
    if !isDouble && sign == '\'' && c.peek 1 == '\'' then
      let (more, c) ← readQuotedWord isDouble start n (c.advance 2)
      .ok (run ++ .char '\'' :: more, c)
    else if (isDouble && sign == '\'') || (!isDouble && (sign == '"' || sign == '\\')) then
      let (more, c) ← readQuotedWord isDouble start n c.next
      .ok (run ++ .char sign :: more, c)
    else if isDouble && sign == '\\' then
      let (text, c) ← readEscape start c.next
      let (more, c) ← readQuotedWord isDouble start n c
      .ok (run ++ text ++ more, c)
    else .ok (run, c)

/-- Read the words of a quoted scalar up to its closing quote. -/
def readQuotedWords (isDouble : Bool) (start : Mark) : Nat → Reader (List Glyph)
  | 0, c => .ok ([], c)
  | n + 1, c => do
    let (word, c) ← readQuotedWord isDouble start (c.left + 1) c
    if c.peek == (if isDouble then '"' else '\'') then .ok (word, c.next)
    else
      let (blanks, c) ← readQuotedBlanks start c
      let (more, c) ← readQuotedWords isDouble start n c
      .ok (word ++ Glyph.ofChars blanks ++ more, c)

/-- Read a quoted scalar. -/
def readQuoted (isDouble : Bool) : Reader (List Glyph) := fun c =>
  readQuotedWords isDouble c.mark (c.left + 1) c.next

/-! ### Plain scalars -/

/-- What was read of a plain scalar. -/
structure PlainText where
  /-- Its text. -/
  text : List Char
  /-- Where the text ends. -/
  stop : Mark
  /-- Whether a line end was crossed after the last word. -/
  crossedLine : Bool
  deriving Repr, Inhabited

/-- Whether a plain scalar ends before a character that is followed by `next`. -/
def endsPlain (inFlow : Bool) (a next : Char) : Bool :=
  isWideGap a ||
    (a == ':' && (isWideGap next || (inFlow && ",[]\x7b\x7d".toList.contains next))) ||
    (inFlow && ",?[]\x7b\x7d".toList.contains a)

/-- How many characters there are up to the end of a plain scalar or the next blank. -/
def plainLength (inFlow : Bool) : List Char → Nat
  | [] => 0
  | a :: s => if endsPlain inFlow a (s.head?.getD '\x00') then 0 else plainLength inFlow s + 1

/-- Read the line ends after the first one in a plain scalar with the spaces between them. Fails
at a document separator, after which nothing belongs to the scalar. -/
def readPlainBreaks : Nat → Cursor → Option (List Char) × Cursor
  | 0, c => (some [], c)
  | n + 1, c =>
    if c.peek == ' ' then readPlainBreaks n c.next
    else if isBreak c.peek then
      let (first, c) := c.lineBreak
      if c.atSeparator then (none, c)
      else
        let (more, c) := readPlainBreaks n c
        (more.map (first ++ ·), c)
    else (some [], c)

/-- Read the blanks after a word of a plain scalar: what they become if another word follows, none
if none can, and whether a line end was crossed. -/
def readPlainBlanks (c : Cursor) : Option (List Char) × Bool × Cursor :=
  let (spaces, c) := c.span (· == ' ')
  if isBreak c.peek then
    let (first, c) := c.lineBreak
    if c.atSeparator then (none, true, c)
    else
      let (more, c) := readPlainBreaks c.left c
      (more.map (foldBreaks first), true, c)
  else if spaces.isEmpty then (none, false, c)
  else (some spaces, false, c)

/-- Read the words of a plain scalar. `lead` stands for the blanks before the next word, and the
scalar ends at a line that is indented less than `indent`. -/
def readPlainWords (inFlow : Bool) (indent : Int) (lead : List Char) (read : PlainText) :
    Nat → Cursor → PlainText × Cursor
  | 0, c => (read, c)
  | n + 1, c =>
    let length := if c.peek == '#' then 0 else plainLength inFlow c.rest
    if length = 0 then (read, c)
    else
      let word := c.rest.take length
      let c := c.advance length
      let (blanks, crossedLine, after) := readPlainBlanks c
      let read : PlainText := ⟨read.text ++ lead ++ word, c.mark, crossedLine⟩
      match blanks with
      | none => (read, after)
      | some blanks =>
        if after.peek == '#' || (!inFlow && (after.mark.column : Int) < indent) then (read, after)
        else readPlainWords inFlow indent blanks read n after

/-- Read a plain scalar within a block that is indented by `indent`. -/
def readPlain (inFlow : Bool) (indent : Int) (c : Cursor) : PlainText × Cursor :=
  readPlainWords inFlow (indent + 1) [] ⟨[], c.mark, false⟩ (c.left + 1) c

/-! ### Block scalars -/

/-- What happens to the line ends after a block scalar. -/
inductive Chomping where
  /-- One is kept. -/
  | clip
  /-- All are dropped. -/
  | strip
  /-- All are kept. -/
  | keep
  deriving DecidableEq, Repr, Inhabited

/-- The context of faults in a block scalar. -/
def blockContext : String := "while scanning a block scalar"

/-- Read the sign for the line ends at the end, if there is one. -/
def readChomping (c : Cursor) : Option Chomping × Cursor :=
  if c.peek == '+' then (some .keep, c.next)
  else if c.peek == '-' then (some .strip, c.next)
  else (none, c)

/-- Read the number for the indentation, if there is one. -/
def readIncrement (start : Mark) : Reader (Option Nat) := fun c =>
  if c.peek == '0' then
    faultAt blockContext start
      "expected indentation indicator in the range 1-9, but found 0" c
  else if c.peek.isDigit then .ok (some (c.peek.toNat - '0'.toNat), c.next)
  else .ok (none, c)

/-- Read the signs after the bar or the arrow of a block scalar, in either order. -/
def readBlockSigns (start : Mark) : Reader (Chomping × Option Nat) := fun c => do
  let (first, c) := readChomping c
  let (increment, c) ← readIncrement start c
  let (second, c) := if first.isNone && increment.isSome then readChomping c else (none, c)
  if isGap c.peek then
    .ok (((first.orElse fun _ => second).getD .clip, increment), c)
  else unexpected blockContext start "chomping or indentation indicators" c.peek c

/-- Read blank lines at the start of a block scalar: their line ends, the largest indentation seen
and where the line ends stop. -/
def readBlockLead : Nat → Nat → Mark → Cursor → List Char × Nat × Mark × Cursor
  | 0, widest, stop, c => ([], widest, stop, c)
  | n + 1, widest, stop, c =>
    if c.peek == ' ' then
      let c := c.next
      readBlockLead n (max widest c.mark.column) stop c
    else if isBreak c.peek then
      let (first, c) := c.lineBreak
      let (more, widest, stop, c) := readBlockLead n widest c.mark c
      (first ++ more, widest, stop, c)
    else ([], widest, stop, c)

/-- The place after spaces, at most up to the given column. -/
def skipIndent (indent : Int) (c : Cursor) : Cursor :=
  let room := (indent - c.mark.column).toNat
  c.advance (min room (c.rest.takeWhile (· == ' ')).length)

/-- Read blank lines within a block scalar: their line ends and where they stop. -/
def readBlockBreaks (indent : Int) : Nat → Mark → Cursor → List Char × Mark × Cursor
  | 0, stop, c => ([], stop, c)
  | n + 1, stop, c =>
    let c := skipIndent indent c
    if isBreak c.peek then
      let (first, c) := c.lineBreak
      let (more, stop, c) := readBlockBreaks indent n c.mark c
      (first ++ more, stop, c)
    else ([], stop, c)

/-- What was read of a block scalar. -/
structure BlockText where
  /-- Its text so far. -/
  text : List Char := []
  /-- The last line end. -/
  lineEnd : List Char := []
  /-- The line ends of the blank lines after it. -/
  breaks : List Char
  /-- Where they stop. -/
  stop : Mark
  deriving Repr, Inhabited

/-- Read the lines of a block scalar with the given indentation. -/
def readBlockLines (isFolded : Bool) (indent : Int) (read : BlockText) :
    Nat → Cursor → BlockText × Cursor
  | 0, c => (read, c)
  | n + 1, c =>
    let isInside (c : Cursor) : Bool := (c.mark.column : Int) == indent && c.peek != '\x00'
    if !isInside c then (read, c)
    else
      let startsFlush := c.peek != ' ' && c.peek != '\t'
      let (line, c) := c.span (!isBreakOrEnd ·)
      let (lineEnd, c) := c.lineBreak
      let (breaks, stop, c) := readBlockBreaks indent c.left.succ c.mark c
      let text := read.text ++ read.breaks ++ line
      let joint :=
        if !isInside c then []
        else if isFolded && lineEnd == ['\n'] && startsFlush && c.peek != ' ' && c.peek != '\t' then
          if breaks.isEmpty then [' '] else []
        else lineEnd
      readBlockLines isFolded indent ⟨text ++ joint, lineEnd, breaks, stop⟩ n c

/-- Read a block scalar within a block that is indented by `indent`: its text and where it
stops. -/
def readBlock (isFolded : Bool) (indent : Int) : Reader (List Char × Mark) := fun c => do
  let start := c.mark
  let ((chomping, increment), c) ← readBlockSigns start c.next
  let (_, c) ← readLineRest blockContext start c
  let least := max (indent + 1) 1
  let fuel := c.left + 1
  let (indent, breaks, stop, c) : Int × List Char × Mark × Cursor :=
    match increment with
    | none =>
      let (breaks, widest, stop, c) := readBlockLead fuel 0 c.mark c
      (max least widest, breaks, stop, c)
    | some n =>
      let indent := least + n - 1
      let (breaks, stop, c) := readBlockBreaks indent fuel c.mark c
      (indent, breaks, stop, c)
  let (read, c) :=
    readBlockLines isFolded indent { breaks, stop } fuel c
  let tail :=
    match chomping with
    | .clip => read.lineEnd
    | .strip => []
    | .keep => read.lineEnd ++ read.breaks
  .ok ((read.text ++ tail, read.stop), c)

end DefectScan.Yaml
