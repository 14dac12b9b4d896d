import DefectScan.Text.Blank

/-!
# The code view of a source file

A finite-state scanner assigns every character of a file to a region: code, comment, or the
inside of a string or character literal. The code view of a line keeps the code and replaces all
else by spaces, so columns agree with the line as written, and braces or names inside comments
and literals are never taken for code. The quotes of a literal are code.
-/

namespace DefectScan

/-- What a character of the source belongs to. -/
inductive Region where
  | code
  | comment
  | literal
  deriving DecidableEq, Repr, Inhabited

/-- The two kinds of literals, told apart by their quotes. -/
inductive Quote where
  | double
  | single
  deriving DecidableEq, Repr, Inhabited

/-- The character that opens and closes a literal. -/
def Quote.char : Quote → Char
  | .double => '"'
  | .single => '\''

/-- Where the scanner is between two characters. -/
inductive Lexical where
  | code
  | lineComment
  | blockComment
  | literal (quote : Quote)
  deriving DecidableEq, Repr, Inhabited

/-- What the scanner does next: it takes one character or two, assigns them to a region and goes
on in a new state. -/
inductive Lexical.Move where
  | one (region : Region) (next : Lexical)
  | two (region : Region) (next : Lexical)
  deriving DecidableEq, Repr

/-- The scanner's move on a character, given the one after it. Comments open in code only, and a
backslash in a literal takes the next character with it. -/
def Lexical.move : Lexical → Char → Option Char → Lexical.Move
  | .code, c, next =>
    if c = '/' ∧ next = some '/' then .two .comment .lineComment
    else if c = '/' ∧ next = some '*' then .two .comment .blockComment
    else if c = '"' then .one .code (.literal .double)
    else if c = '\'' then .one .code (.literal .single)
    else .one .code .code
  | .blockComment, c, next =>
    if c = '*' ∧ next = some '/' then .two .comment .code else .one .comment .blockComment
  | .lineComment, _, _ => .one .comment .lineComment
  | .literal quote, c, _ =>
    if c = '\\' then .two .literal (.literal quote)
    else if c = quote.char then .one .code .code
    else .one .literal (.literal quote)

/-- The regions of the characters of a line, and the state after its last character. -/
def Lexical.regions : Lexical → List Char → List Region × Lexical
  | state, [] => ([], state)
  | state, c :: s =>
    match state.move c s.head? with
    | .one region next =>
      let rest := next.regions s
      (region :: rest.1, rest.2)
    | .two region next =>
      match s with
      | [] => ([region], next)
      | _ :: s =>
        let rest := next.regions s
        (region :: region :: rest.1, rest.2)

/-- The state at the start of the next line: a line comment ends with its line, and so does a
literal unless the line ends with a backslash. -/
def Lexical.endLine (raw : List Char) : Lexical → Lexical
  | .lineComment => .code
  | .literal quote => if raw.getLast? = some '\\' then .literal quote else .code
  | state => state

/-- A character as the code view shows it. -/
def Region.show (region : Region) (c : Char) : Char :=
  match region with
  | .code => c
  | .comment | .literal => ' '

/-- The code view of a line that starts in the given state. -/
def Lexical.view (state : Lexical) (raw : List Char) : List Char :=
  List.zipWith Region.show (state.regions raw).1 raw

/-- A source line together with its code view. -/
structure CodeLine where
  /-- Line number, counted from zero. -/
  row : Nat
  /-- The line as written. -/
  raw : List Char
  /-- The line with comments and the insides of literals blanked. -/
  code : List Char
  deriving DecidableEq, Repr, Inhabited

/-- A preprocessor line. -/
def CodeLine.isDirective (line : CodeLine) : Bool :=
  (Text.trimStart line.code).head? == some '#'

/-- A line without code. -/
def CodeLine.isBlank (line : CodeLine) : Bool := line.code.all Text.isBlank

/-- The lines of a file from the given row on, scanned from the given state. -/
def scanFrom (state : Lexical) (row : Nat) : List (List Char) → List CodeLine
  | [] => []
  | raw :: lines =>
    ⟨row, raw, state.view raw⟩ :: scanFrom ((state.regions raw).2.endLine raw) (row + 1) lines

/-- The code views of all lines of a file; comments and continued literals carry over from one
line to the next. -/
def scanLines (lines : List (List Char)) : List CodeLine := scanFrom .code 0 lines

/-- Scanning keeps the number of lines. -/
theorem length_scanFrom (state : Lexical) (row : Nat) (lines : List (List Char)) :
    (scanFrom state row lines).length = lines.length := by
  induction lines generalizing state row with
  | nil => rfl
  | cons raw lines ih => simp [scanFrom, ih]

end DefectScan
