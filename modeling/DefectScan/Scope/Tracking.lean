import DefectScan.Scope.Basic

/-!
# How a line of code moves the scope

A line opens and closes blocks by its braces, brings in the parameters of the function it opens,
and declares variables. Each of these is a function from scopes to scopes that looks at the code
view of the line only.
-/

namespace DefectScan

open Text

/-- A variable declared on a row, with that row as the one since which it is null if its
initializer is the null pointer. -/
def Variable.sinceRow (row : Nat) (v : Variable) : Variable :=
  if v.initKind = .null then { v with nullSince := some row } else v

namespace Scope

/-- Whether the text has a struct or union whose brace opens before any semicolon or
parenthesis. -/
def opensStruct (code : List Char) : Bool :=
  (places code).any fun p =>
    (p.oneOf? ["struct", "union"]).any fun rest =>
      (rest.takeWhile fun c => c != ';' && c != '(').contains '{'

/-- Whether the text ends with the head of a struct or union whose brace is still to come. -/
def endsWithStructHead (code : List Char) : Bool :=
  (places code).any fun p =>
    (p.oneOf? ["struct", "union"]).any fun rest =>
      rest.all fun c => !(c == ';' || c == '(' || c == ')' || c == '{' || c == '}' || c == '=')

/-- Open and close blocks for the braces of a text; the first opening brace takes the flag. -/
def braces (scope : Scope) (isStruct : Bool) : List Char → Scope
  | [] => scope
  | c :: s =>
    if c = '{' then (scope.push isStruct).braces false s
    else if c = '}' then scope.pop.braces isStruct s
    else scope.braces isStruct s

/-- The scope after the braces of a line of code. -/
def trackBraces (scope : Scope) (code : List Char) : Scope :=
  { scope.braces (scope.pendingStruct || opensStruct code) code with
    pendingStruct := !code.contains '{' && endsWithStructHead code }

/-- Words that begin a control statement. -/
def controlWords : List String := ["if", "else", "for", "while", "switch", "do"]

/-- Whether a line of code begins with a control statement, possibly after a closing brace. -/
def startsWithControl (code : List Char) : Bool :=
  let s := trimStart code
  let s := if s.head? == some '}' then trimStart s.tail else s
  (closedOneOf? controlWords s).isSome

/-- The variable of a parameter; without type words it is an `int`. -/
def parameter? (param : List Char) : Option Variable := do
  let (typePart, name, _) ← lastName? param
  let typeName := typeWords typePart
  pure
    { name
      typeName := if typeName.isEmpty then "int".toList else typeName
      isPointer := typePart.contains '*'
      isArray := param.contains '['
      isInitialized := true }

/-- The parameters of the function that a line of code opens: the line has parentheses, ends with
an opening brace and is no control statement. -/
def openedParameters (code : List Char) : List Variable :=
  if code.contains '(' && code.contains ')' && (trimEnd code).getLast? == some '{' &&
      !startsWithControl code then
    let params := (splitArguments code (code.idxOf '(' + 1)).1
    if params = ["void".toList] then [] else params.filterMap parameter?
  else []

/-- Declare the parameters of the function that a line of code opens in its block. -/
def seedParameters (scope : Scope) (code : List Char) : Scope :=
  if scope.blocks.isEmpty then scope else scope.declare (openedParameters code)

/-- Declare the variables of a declaration line; members of structs are no variables. -/
def declareLine (scope : Scope) (row : Nat) (code : List Char) : Scope :=
  if scope.inStruct then scope
  else scope.declare ((parseDeclaration code).map (Variable.sinceRow row))

end Scope

end DefectScan
