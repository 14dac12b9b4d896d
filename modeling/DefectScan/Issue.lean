/-!
# Defects and issues

A `Defect` says what is wrong, as data; its category and its wording are functions of it. A
`Sighting` is a defect on a row, which is what the engines return. An `Issue` is a line of the
report: the sighting in a named file, with its severity and the source line it is about.
-/

namespace DefectScan

/-- The kinds of defects that are reported. -/
inductive Category where
  | uninitialized
  | nullPointer
  | wildPointer
  | header
  | headerSpelling
  | infiniteLoop
  | format
  deriving DecidableEq, Repr, Inhabited

namespace Category

/-- Every category. -/
def all : List Category :=
  [uninitialized, nullPointer, wildPointer, header, headerSpelling, infiniteLoop, format]

/-- The category as reports write it. -/
def label : Category → String
  | uninitialized => "Uninitialized"
  | nullPointer => "NullPointer"
  | wildPointer => "WildPointer"
  | header => "Header"
  | headerSpelling => "HeaderSpelling"
  | infiniteLoop => "InfiniteLoop"
  | format => "Format"

/-- The category with the given label. -/
def ofLabel? (label : String) : Option Category := all.find? fun c => c.label == label

/-- A label names its category. -/
theorem ofLabel?_label (c : Category) : ofLabel? c.label = some c := by
  cases c <;> decide

end Category

/-- How serious an issue is. -/
inductive Severity where
  | error
  | warning
  | info
  deriving DecidableEq, Repr, Inhabited

/-- The severity as reports write it. -/
def Severity.label : Severity → String
  | error => "error"
  | warning => "warning"
  | info => "info"

/-- The severity that goes with a category. -/
def Category.severity : Category → Severity
  | uninitialized => .warning
  | nullPointer => .error
  | wildPointer => .error
  | header => .warning
  | headerSpelling => .info
  | infiniteLoop => .warning
  | format => .warning

/-- What is known of the writes to a pointer that is dereferenced without a value. -/
inductive WildState where
  /-- No value so far. -/
  | notInitialized
  /-- No write anywhere after its declaration. -/
  | neverInitialized
  /-- The first write comes later. -/
  | notYetInitialized
  deriving DecidableEq, Repr, Inhabited

/-- The state in words. -/
def WildState.phrase : WildState → String
  | notInitialized => "is not initialized"
  | neverInitialized => "is never initialized"
  | notYetInitialized => "is not initialized yet"

/-- What is wrong at a place of the source. -/
inductive Defect where
  /-- A variable is read that has no value. -/
  | unsetUse (name : List Char)
  /-- A declaration of one variable without a value. -/
  | unsetDeclaration
  /-- A declaration of the named variables without values. -/
  | unsetDeclarations (names : List (List Char))
  /-- A pointer is dereferenced that has no value. -/
  | wildPointer (name : List Char) (state : WildState)
  /-- A pointer is dereferenced that may be null. -/
  | nullPointer (name : List Char)
  /-- A library function is called and none of its headers is included. -/
  | missingHeader (callee : List Char) (headers : List (List Char))
  /-- A library function occurs and its header's include line does not. -/
  | absentInclude (callee header : String)
  /-- A system header that does not exist, with the closest one that does. -/
  | unknownHeader (header : List Char) (suggestion : Option (List Char))
  /-- A loop that never ends. -/
  | endlessLoop
  /-- A formatted call with fewer arguments than conversions. -/
  | tooFewArguments (callee : List Char) (given expected : Nat)
  /-- A formatted call with more arguments than conversions. -/
  | tooManyArguments (callee : List Char) (given expected : Nat)
  /-- An input target that is passed by value. -/
  | notByAddress (expression name : List Char)
  deriving DecidableEq, Repr, Inhabited

namespace Defect

/-- The category a defect belongs to. -/
def category : Defect → Category
  | unsetUse _ | unsetDeclaration | unsetDeclarations _ => .uninitialized
  | wildPointer _ _ => .wildPointer
  | nullPointer _ => .nullPointer
  | missingHeader _ _ | absentInclude _ _ => .header
  | unknownHeader _ _ => .headerSpelling
  | endlessLoop => .infiniteLoop
  | tooFewArguments _ _ _ | tooManyArguments _ _ _ | notByAddress _ _ => .format

/-- The numbers of a formatted call in words. -/
def argumentCount (given expected : Nat) : String :=
  "(" ++ toString given ++ " given, " ++ toString expected ++ " expected)"

/-- The wording of a defect. -/
def message : Defect → String
  | unsetUse name => "Variable '" ++ String.ofList name ++ "' is used before being initialized"
  | unsetDeclaration => "Variable declared without being initialized"
  | unsetDeclarations names =>
    "Variable " ++ ", ".intercalate (names.map fun n => "'" ++ String.ofList n ++ "'") ++
      " declared without an initializer"
  | wildPointer name state =>
    "Potential wild pointer dereference: pointer '" ++ String.ofList name ++ "' " ++ state.phrase
  | nullPointer name =>
    "Potential null pointer dereference: pointer '" ++ String.ofList name ++ "' may be NULL"
  | missingHeader callee headers =>
    "Function '" ++ String.ofList callee ++ "' requires header: " ++
      " or ".intercalate (headers.map String.ofList)
  | absentInclude callee header => "'" ++ callee ++ "' used without including <" ++ header ++ ">"
  | unknownHeader header suggestion =>
    "Suspicious header name: " ++ String.ofList header ++
      match suggestion with
      | some s => ", did you mean " ++ String.ofList s ++ "?"
      | none => ""
  | endlessLoop => "Potential infinite loop (no explicit exit)"
  | tooFewArguments callee given expected =>
    String.ofList callee ++ ": too few arguments for format string " ++
      argumentCount given expected
  | tooManyArguments callee given expected =>
    String.ofList callee ++ ": too many arguments for format string " ++
      argumentCount given expected
  | notByAddress expression name =>
    "scanf argument '" ++ String.ofList expression ++ "' should be passed by address (use &" ++
      String.ofList name ++ ")"

end Defect

/-- A defect on a row of a file, rows counted from zero. -/
structure Sighting where
  /-- The row, counted from zero. -/
  row : Nat
  /-- What is wrong there. -/
  defect : Defect
  deriving DecidableEq, Repr, Inhabited

/-- A reported defect. -/
structure Issue where
  /-- The file it is in. -/
  file : String
  /-- The line, counted from one. -/
  line : Int
  /-- The kind of defect. -/
  category : Category
  /-- What is wrong, in words. -/
  message : String
  /-- How serious it is. -/
  severity : Severity := .warning
  /-- The source line, trimmed. -/
  codeLine : String := ""
  deriving DecidableEq, Repr, Inhabited

/-- The issue for a row counted from zero, with the severity of its category. -/
def Issue.atRow (file : String) (row : Int) (category : Category) (message : String) : Issue :=
  { file, line := row + 1, category, message, severity := category.severity }

/-- The issue with its source line. -/
def Issue.withCodeLine (issue : Issue) (codeLine : String) : Issue := { issue with codeLine }

/-- The issue that reports a sighting in a file. -/
def Sighting.issue (file : String) (s : Sighting) : Issue :=
  .atRow file s.row s.defect.category s.defect.message

end DefectScan
