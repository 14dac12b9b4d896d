import DefectScan.Text.Blank

/-!
# Argument lists

Arguments are separated by the commas that lie outside brackets and literals. The list ends at
the first closing parenthesis that matches no bracket inside it.
-/

namespace DefectScan

/-- The pieces between the separating commas, and how many characters were read. -/
structure Pieces where
  /-- The piece up to the first separating comma. -/
  first : List Char
  /-- The pieces after it. -/
  others : List (List Char)
  /-- The number of characters read, the closing parenthesis not among them. -/
  used : Nat
  deriving DecidableEq, Repr, Inhabited

/-- Nothing read. -/
def Pieces.none : Pieces := ⟨[], [], 0⟩

/-- One more character in front of the first piece. -/
def Pieces.cons (c : Char) (p : Pieces) : Pieces := ⟨c :: p.first, p.others, p.used + 1⟩

/-- A comma in front: what was the first piece becomes the second. -/
def Pieces.comma (p : Pieces) : Pieces := ⟨[], p.first :: p.others, p.used + 1⟩

/-- Cut a text at its separating commas. Brackets close one another whatever their shape; one that
closes none is text, unless it is the parenthesis that ends the list. -/
def pieces (depth : Nat) : (quote : Option Char) → List Char → Pieces
  | _, [] => .none
  | some q, c :: s =>
    if c = '\\' then
      match s with
      | [] => Pieces.none.cons c
      | d :: s => ((pieces depth (some q) s).cons d).cons c
    else if c = q then (pieces depth none s).cons c
    else (pieces depth (some q) s).cons c
  | none, c :: s =>
    if c = '"' ∨ c = '\'' then (pieces depth (some c) s).cons c
    else if c = '(' ∨ c = '[' ∨ c = '{' then (pieces (depth + 1) none s).cons c
    else if c = ')' ∧ depth = 0 then .none
    else if c = ')' ∨ c = ']' ∨ c = '}' then (pieces (depth - 1) none s).cons c
    else if c = ',' ∧ depth = 0 then (pieces depth none s).comma
    else (pieces depth none s).cons c

/-- The pieces as arguments: trimmed, the last one left out when nothing is in it. -/
def Pieces.arguments (p : Pieces) : List (List Char) :=
  let all := (p.first :: p.others).map Text.trim
  if all.getLast? = some [] then all.dropLast else all

/-- The arguments of the list whose opening parenthesis is right before index `start`, and the
index of its closing parenthesis, or of the end of the text when it is not closed. -/
def splitArguments (text : List Char) (start : Nat) : List (List Char) × Nat :=
  let p := pieces 0 none (text.drop start)
  (p.arguments, start + p.used)

/-- The parts of a text between its separating commas. -/
def splitTopLevel (text : List Char) : List (List Char) :=
  (splitArguments ('(' :: text ++ [')']) 1).1

end DefectScan
