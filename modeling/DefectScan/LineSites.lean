import DefectScan.Arguments
import DefectScan.CodeView
import DefectScan.Site
import DefectScan.Text.Word

/-!
# Sites found in single lines

Calls, formatted calls, endless loops and includes as they can be read off one line of code.
Names are looked for in the code view; arguments and header names, which are or contain
literals, are taken from the line as written.
-/

namespace DefectScan

open Text

/-- What follows the characters, in this order, when blanks may stand before each of them. -/
def afterSpaced? : List Char → List Char → Option (List Char)
  | [], s => some s
  | c :: cs, s => (afterBlanks? c s).bind (afterSpaced? cs)

/-- What follows a parenthesis, `1` or `true`, and the closing parenthesis. -/
def afterTrueCondition? (s : List Char) : Option (List Char) := do
  let inner ← afterBlanks? '(' s
  let rest ← afterOneOf? ["1", "true"] (trimStart inner)
  afterBlanks? ')' rest

/-- Whether a loop without an end starts at a place: a `for` without its three parts, or a
`while` with a constant condition. -/
def Text.Place.startsEndlessLoop (p : Place) : Bool :=
  p.isOpen &&
    (((after? "for".toList p.after).bind (afterSpaced? ['(', ';', ';', ')'])).isSome ||
      ((after? "while".toList p.after).bind afterTrueCondition?).isSome)

/-- Whether the loop is left at a place: by a `break`, a `return` or a call of `exit`. -/
def Text.Place.leavesLoop (p : Place) : Bool :=
  (p.oneOf? ["break", "return"]).isSome ||
    (p.isOpen && ((after? "exit".toList p.after).bind (afterBlanks? '(')).isSome)

/-- Whether a line starts a loop without an end and has nothing that leaves it. -/
def CodeLine.isEndlessLoop (line : CodeLine) : Bool :=
  let all := places line.code
  all.any Place.startsEndlessLoop && !all.any Place.leavesLoop

/-- The name that is called at a place, and the column after the opening parenthesis. -/
def Text.Place.call? (p : Place) : Option (List Char × Nat) := do
  guard (p.isOpen && p.after.head?.any isNameStart)
  let rest ← afterBlanks? '(' (afterWord p.after)
  pure (wordHead p.after, p.column + (p.after.length - rest.length))

/-- Words that stand before a parenthesis without being called. -/
def notCalled : List String :=
  ["if", "while", "for", "switch", "return", "sizeof", "do", "else", "case"]

/-- The calls on a line; a directive has none. -/
def CodeLine.calls (line : CodeLine) : List Call :=
  if line.isDirective then []
  else (places line.code).filterMap fun p => do
    let (name, _) ← p.call?
    guard (!notCalled.contains (String.ofList name))
    pure ⟨name, ⟨line.row, p.column⟩⟩

/-- The contents of a string literal that may stand in parentheses: the text from its first quote to
its last. -/
def literalContents? (s : List Char) : Option (List Char) :=
  match s.dropWhile (fun c => isBlank c || c == '(') with
  | '"' :: inner =>
    match inner.reverse.dropWhile (fun c => isBlank c || c == ')') with
    | '"' :: contents => some contents.reverse
    | _ => none
  | _ => none

/-- The functions whose format strings are checked. -/
def formatFunctions : List String := ["printf", "scanf"]

/-- The formatted calls on a line. -/
def CodeLine.formatCalls (line : CodeLine) : List FormatCall :=
  (places line.code).filterMap fun p => do
    let (name, start) ← p.call?
    guard (formatFunctions.contains (String.ofList name))
    let arguments := (splitArguments line.raw start).1
    pure ⟨name, ⟨line.row, p.column⟩, arguments.head?.bind literalContents?, arguments⟩

/-- The delimiter and the header of a text that goes on after the number sign of an include
directive. The header is not empty and ends at the first closing delimiter of either kind. -/
def includeTarget? (s : List Char) : Option (Bool × List Char) := do
  let rest ← after? "include".toList (trimStart s)
  match trimStart rest with
  | c :: s =>
    guard (c == '<' || c == '"')
    let header := s.takeWhile fun d => d != '>' && d != '"'
    guard (!header.isEmpty && header.length < s.length)
    pure (c == '<', trim header)
  | [] => none

/-- The include directive on a line. -/
def CodeLine.include? (line : CodeLine) : Option Include := do
  let rest ← afterBlanks? '#' line.raw
  let (isSystem, header) ← includeTarget? rest
  pure ⟨header, isSystem, ⟨line.row, 0⟩⟩

/-- The include directives of a file. -/
def includesIn (lines : List CodeLine) : List Include := lines.filterMap CodeLine.include?

end DefectScan
