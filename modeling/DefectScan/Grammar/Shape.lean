/-!
# Shapes of rules

The right-hand side of a grammar rule is a shape: marks, references to other rules, and sequences,
choices and repetitions of shapes. A shape also says how its parts bind, which field of the parent
they fill and as which kind of node a token is shown.
-/

namespace DefectScan.Grammar

/-- The side to which operators of one level group. -/
inductive Side where
  | left
  | right
  deriving DecidableEq, Repr, Inhabited, Hashable

/-- The right-hand side of a rule. -/
inductive Shape where
  /-- Punctuation or a keyword. -/
  | mark (text : String)
  /-- Another rule or a class of tokens. -/
  | rule (name : String)
  /-- Nothing. -/
  | empty
  /-- One shape after the other. -/
  | both (first second : Shape)
  /-- One of two shapes. -/
  | either (first second : Shape)
  /-- A shape one or more times. -/
  | repeated (part : Shape)
  /-- A shape whose parts bind at a level, and group to a side if one is given. -/
  | bound (level : Int) (side : Option Side) (part : Shape)
  /-- A shape that counts this much when two readings compete. -/
  | weighted (weight : Int) (part : Shape)
  /-- A shape that fills a field of the node around it. -/
  | inField (field : String) (part : Shape)
  /-- A token that is shown as the given kind of node. -/
  | shownAs (kind : String) (part : Shape)
  deriving DecidableEq, Repr, Inhabited

namespace Shape

instance : Coe String Shape := ⟨mark⟩

/-- Shapes one after the other. -/
def sequence : List Shape → Shape
  | [] => empty
  | [s] => s
  | s :: rest => both s (sequence rest)

/-- Any one of several shapes. -/
def oneOf : List Shape → Shape
  | [] => empty
  | [s] => s
  | s :: rest => either s (oneOf rest)

/-- A shape that may be left out. -/
def optional (s : Shape) : Shape := either s empty

/-- A shape any number of times. -/
def many (s : Shape) : Shape := optional (repeated s)

/-- A shape one or more times, with commas between. -/
def separated (s : Shape) : Shape := both s (many (both "," s))

/-- A shape any number of times, with commas between. -/
def list (s : Shape) : Shape := optional (separated s)

/-- A shape whose parts bind at a level. -/
def binding (level : Int) (s : Shape) : Shape := bound level none s

/-- A shape whose parts bind at a level and group to the left. -/
def leftward (level : Int) (s : Shape) : Shape := bound level (some .left) s

/-- A shape whose parts bind at a level and group to the right. -/
def rightward (level : Int) (s : Shape) : Shape := bound level (some .right) s

end Shape

/-- How a rule shows up in the tree. -/
inductive Showing where
  /-- As a node of the given kind. -/
  | node (kind : String)
  /-- Not at all: its parts belong to the node around it. -/
  | group
  /-- Not at all, but it stands for a family of nodes that is kept apart while reading. -/
  | family
  deriving DecidableEq, Repr, Inhabited

/-- A grammar rule. -/
structure Rule where
  /-- The name that shapes refer to. -/
  name : String
  /-- How it shows up in the tree. -/
  showing : Showing
  /-- Its right-hand side. -/
  shape : Shape
  deriving DecidableEq, Repr, Inhabited

end DefectScan.Grammar
