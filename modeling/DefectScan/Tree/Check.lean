import DefectScan.Format
import DefectScan.Tree.Extract
import DefectScan.Variable

/-!
# Checks over a syntax tree

The variable check reports reads of variables that were declared without a value, and
dereferences of pointers that have none or are null. By default it ignores the order of writes:
every read of such a variable is reported. With `flow` a variable counts as unset only until its
first write. The loop and format check needs only the sites of the file.
-/

namespace DefectScan

open Text

/-! ### Writes -/

/-- Whether a text begins, after blanks, with an assignment operator. -/
def startsAssignment (s : List Char) : Bool :=
  match trimStart s with
  | '=' :: rest => rest.head? != some '='
  | c :: '=' :: _ => ['+', '-', '*', '/', '%'].contains c
  | _ => false

/-- Whether the first occurrence of `name` in a line at or after a column is assigned. -/
def isAssignmentTarget (line name : List Char) (column : Nat) : Bool :=
  (((places line).filter fun p => column ≤ p.column).findSome? fun p =>
    after? name p.after).any startsAssignment

/-- Whether an initializer is the null pointer. -/
def isNullInitializer (initializer : Option (List Char)) : Bool :=
  initializer.any fun text =>
    ["NULL".toList, "0".toList].contains (afterVoidCast (trim text))

/-- An occurrence of a variable, and whether it is written there. -/
structure Use where
  /-- Where it is. -/
  position : Position
  /-- Whether the variable itself is written. -/
  isWrite : Bool
  deriving DecidableEq, Repr, Inhabited

/-- Whether a variable may turn out to be read without a value: it has none from its declaration,
is no parameter, and neither names storage nor is defined elsewhere. -/
def Declaration.isCandidate (d : Declaration) : Bool :=
  !d.isInitialized && !d.isParameter && !d.isArray && d.storage != some "extern".toList

namespace SyntaxTree

/-- The occurrences of a declared name below the row of its declaration. A write through the
pointer is no write of it. -/
def usesOf (tree : SyntaxTree) (d : Declaration) : List Use :=
  let derefs := tree.dereferences d.name
  ((tree.usages d.name).filter fun p => d.position.row < p.row).map fun p =>
    ⟨p, !derefs.contains p &&
      isAssignmentTarget ((tree.lines[p.row]?).getD []) d.name p.column⟩

/-- The rows below a declaration on which its name is dereferenced before the given row. -/
def derefRows (tree : SyntaxTree) (d : Declaration) (bound : Option Nat) : List Nat :=
  ((tree.dereferences d.name).map Position.row).filter fun row =>
    d.position.row < row && bound.all (row < ·)

/-- The row of the first write among the uses of a variable. -/
def firstWrite? (uses : List Use) : Option Nat :=
  (uses.find? Use.isWrite).map fun u => u.position.row

/-- The reads that count: with `flow` those before the first write, else all. -/
def countedReads (flow : Bool) (uses : List Use) : List Use :=
  if flow then uses.takeWhile (!·.isWrite) else uses.filter (!·.isWrite)

/-- What is wrong with the uses of a declared variable. -/
def useSightings (tree : SyntaxTree) (flow : Bool) (d : Declaration) : List Sighting :=
  if d.isCandidate then
    let uses := tree.usesOf d
    let write := firstWrite? uses
    (countedReads flow uses).map (fun u => ⟨u.position.row, .unsetUse d.name⟩) ++
      if d.isPointer && (flow || write.isNone) then
        let state := if write.isNone then WildState.neverInitialized else .notYetInitialized
        (tree.derefRows d write).map fun row => ⟨row, .wildPointer d.name state⟩
      else []
  else []

/-- The declaration after the check: marked as initialized if a write of it was seen. -/
def afterCheck (tree : SyntaxTree) (d : Declaration) : Declaration :=
  if d.isCandidate && (tree.usesOf d).any Use.isWrite then { d with isInitialized := true } else d

/-- The dereferences of a pointer that is declared as null; with `flow` only those before its
first write. -/
def nullSightings (tree : SyntaxTree) (flow : Bool) (d : Declaration) : List Sighting :=
  if d.isPointer && isNullInitializer d.initializer then
    let bound := if flow then firstWrite? (tree.usesOf d) else none
    (tree.derefRows d bound).map fun row => ⟨row, .nullPointer d.name⟩
  else []

end SyntaxTree

/-- The declarations of each scope, scopes in the order of their first declaration. -/
def groupByScope (ds : List Declaration) : List (List Char × List Declaration) :=
  (ds.map Declaration.scope).eraseDups.map fun scope =>
    (scope, ds.filter fun d => d.scope == scope)

/-- What the variable check finds: the unset variables scope by scope, then the null pointers. -/
def SyntaxTree.variableCheck (tree : SyntaxTree) (flow : Bool) (ds : List Declaration) :
    List Sighting :=
  (groupByScope ds).flatMap (fun g => g.2.flatMap (tree.useSightings flow)) ++
    ds.flatMap (tree.nullSightings flow)

/-! ### Loops and formats -/

/-- The loops that nothing leaves. -/
def loopCheck (loops : List Loop) : List Sighting :=
  (loops.filter fun l => !l.hasExit).map fun l => ⟨l.position.row, .endlessLoop⟩

/-- The closest declaration of a name at or above a row; of several on one row the last. -/
def closestDeclaration? (name : List Char) (row : Nat) (ds : List Declaration) :
    Option Declaration :=
  (ds.filter fun d => d.name == name && d.position.row ≤ row).foldl
    (fun best d =>
      if best.all fun b => b.position.row ≤ d.position.row then some d else best) none

/-- Whether a name at a row means an array or pointer of characters. -/
def isCharBufferAt (ds : List Declaration) (row : Nat) (name : List Char) : Bool :=
  (closestDeclaration? name row ds).any fun d =>
    isCharType d.declaredType && (d.isArray || d.isPointer)

/-- What the loop and format check finds. -/
def loopAndFormatCheck (ds : List Declaration) (loops : List Loop) (formats : List FormatCall) :
    List Sighting :=
  loopCheck loops ++
    formats.flatMap fun call => call.check (isCharBufferAt ds call.position.row)

end DefectScan
