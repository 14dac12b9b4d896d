/-!
# Sites in a source file

What the checks look at: declarations, calls, includes, loops and formatted input and output
calls, each with its position. The syntax tree and the text engines both produce these.
-/

namespace DefectScan

/-- A position in a source file; rows and columns count from zero, columns in characters. -/
structure Position where
  /-- Line, counted from zero. -/
  row : Nat
  /-- Character within the line, counted from zero. -/
  column : Nat
  deriving DecidableEq, Repr, Inhabited

/-- One place where a variable is declared. -/
structure Declaration where
  /-- The declared name. -/
  name : List Char
  /-- The type as written, without qualifiers and storage class. -/
  declaredType : List Char
  /-- Where the name stands. -/
  position : Position
  /-- Declared with a star. -/
  isPointer : Bool := false
  /-- Has a value: declared with an initializer, a parameter, or seen to be written. -/
  isInitialized : Bool := false
  /-- A parameter of a function definition. -/
  isParameter : Bool := false
  /-- Declared with a dimension. -/
  isArray : Bool := false
  /-- The function and block depth it belongs to, or `global`. -/
  scope : List Char := "global".toList
  /-- The storage class as written. -/
  storage : Option (List Char) := none
  /-- The initializer as written. -/
  initializer : Option (List Char) := none
  deriving DecidableEq, Repr, Inhabited

/-- A call of a function by its name. -/
structure Call where
  /-- The called function. -/
  callee : List Char
  /-- Where the call starts. -/
  position : Position
  deriving DecidableEq, Repr, Inhabited

/-- An include directive. -/
structure Include where
  /-- The header between the delimiters. -/
  header : List Char
  /-- Whether the delimiters are angle brackets. -/
  isSystem : Bool
  /-- Where the directive stands. -/
  position : Position
  deriving DecidableEq, Repr, Inhabited

/-- The three loop statements. -/
inductive LoopKind where
  | forLoop
  | whileLoop
  | doLoop
  deriving DecidableEq, Repr, Inhabited

/-- The keyword that begins the loop. -/
def LoopKind.keyword : LoopKind → String
  | .forLoop => "for"
  | .whileLoop => "while"
  | .doLoop => "do"

/-- A loop whose condition can never become false. -/
structure Loop where
  /-- Which loop statement it is. -/
  kind : LoopKind
  /-- Where the loop starts. -/
  position : Position
  /-- Whether its body holds a statement that leaves it. -/
  hasExit : Bool := false
  deriving DecidableEq, Repr, Inhabited

/-- A call of `printf` or `scanf` with its arguments as written. -/
structure FormatCall where
  /-- The called function. -/
  callee : List Char
  /-- Where the call starts. -/
  position : Position
  /-- The contents of the first argument when it is a string literal. -/
  format : Option (List Char) := none
  /-- All arguments, the format included. -/
  arguments : List (List Char) := []
  deriving DecidableEq, Repr, Inhabited

end DefectScan
