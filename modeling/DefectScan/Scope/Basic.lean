import DefectScan.Variable

/-!
# Scopes

The variables of a file live in a table of globals and a stack of blocks, each with its own
table. Tables keep variables under names and remember the order in which these were first stored;
storing under a name again keeps its place. A name means the variable that the innermost block has
under it, else the global one.
-/

namespace DefectScan

/-- Names with the variables stored under them, in the order in which they were first stored. -/
abbrev SymbolTable := List (List Char × Variable)

namespace SymbolTable

/-- The variable stored under a name. -/
def get? (table : SymbolTable) (name : List Char) : Option Variable := List.lookup name table

/-- Store a variable under a name, in the place of an earlier one. -/
def store (name : List Char) (v : Variable) : SymbolTable → SymbolTable
  | [] => [(name, v)]
  | e :: table => if e.1 = name then (name, v) :: table else e :: store name v table

/-- Store several variables under their own names, one after another. -/
def storeAll (table : SymbolTable) (vs : List Variable) : SymbolTable :=
  vs.foldl (fun table v => store v.name v table) table

/-- The names under which something is stored. -/
def names (table : SymbolTable) : List (List Char) := List.map Prod.fst table

/-- The stored variables. -/
def values (table : SymbolTable) : List Variable := List.map Prod.snd table

/-- Change the variable stored under a name. -/
def modify (table : SymbolTable) (name : List Char) (f : Variable → Variable) : SymbolTable :=
  List.map (fun e => if e.1 = name then (e.1, f e.2) else e) table

end SymbolTable

/-- A block between braces. -/
structure Block where
  /-- Whether the braces hold the members of a struct or union. -/
  isStruct : Bool := false
  /-- The variables declared in the block. -/
  symbols : SymbolTable := []
  deriving DecidableEq, Repr, Inhabited

/-- The variables in force at a place of a file. -/
structure Scope where
  /-- The variables outside all blocks. -/
  globals : SymbolTable := []
  /-- The open blocks, innermost first. -/
  blocks : List Block := []
  /-- Whether the head of a struct or union was seen whose brace is still to come. -/
  pendingStruct : Bool := false
  deriving DecidableEq, Repr, Inhabited

namespace Scope

/-- The number of open blocks. -/
def depth (scope : Scope) : Nat := scope.blocks.length

/-- Open a block. -/
def push (scope : Scope) (isStruct : Bool) : Scope :=
  { scope with blocks := { isStruct } :: scope.blocks }

/-- Close the innermost block, if there is one. -/
def pop (scope : Scope) : Scope := { scope with blocks := scope.blocks.tail }

/-- Whether some open block holds the members of a struct or union. -/
def inStruct (scope : Scope) : Bool := scope.blocks.any Block.isStruct

/-- The table of the innermost block, or of the globals outside all blocks. -/
def current (scope : Scope) : SymbolTable :=
  match scope.blocks with
  | block :: _ => block.symbols
  | [] => scope.globals

/-- Replace the table that `current` shows. -/
def setCurrent (scope : Scope) (table : SymbolTable) : Scope :=
  match scope.blocks with
  | block :: outer => { scope with blocks := { block with symbols := table } :: outer }
  | [] => { scope with globals := table }

/-- Declare variables in the innermost block. -/
def declare (scope : Scope) (vs : List Variable) : Scope :=
  scope.setCurrent (scope.current.storeAll vs)

/-- The variable that a name means. -/
def lookup (scope : Scope) (name : List Char) : Option Variable :=
  (scope.blocks.findSome? fun b => b.symbols.get? name).or (scope.globals.get? name)

/-- Change the entry of a name in the innermost of the blocks that holds it. -/
def modifyBlocks (name : List Char) (f : Variable → Variable) : List Block → Option (List Block)
  | [] => none
  | b :: outer =>
    if (b.symbols.get? name).isSome then
      some ({ b with symbols := b.symbols.modify name f } :: outer)
    else (modifyBlocks name f outer).map (b :: ·)

/-- Change the variable that a name means. -/
def modify (scope : Scope) (name : List Char) (f : Variable → Variable) : Scope :=
  match modifyBlocks name f scope.blocks with
  | some blocks => { scope with blocks }
  | none => { scope with globals := scope.globals.modify name f }

/-- The names that mean a variable, each once, in the order of their first appearance from the
globals inwards. -/
def visibleNames (scope : Scope) : List (List Char) :=
  (scope.globals.names ++ (scope.blocks.reverse.map fun b => b.symbols.names).flatten).eraseDups

end Scope

end DefectScan
