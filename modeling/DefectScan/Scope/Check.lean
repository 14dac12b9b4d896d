import DefectScan.Format
import DefectScan.Headers
import DefectScan.LineSites
import DefectScan.Scope.Tracking

/-!
# Checking a file line by line with scopes

The scope check reads a file once, from its first line to its last. Each line first moves the
scope and is then checked against it: a declaration line only declares, any other line first
records the assignments on it and then reports what it reads without a value, dereferences, loops
over or formats wrongly. The missing headers of the whole file come last.
-/

namespace DefectScan

open Text

/-- The variable after an assignment on a row. With `flow` a value other than the null pointer
ends the time in which the pointer may be null. -/
def Variable.assigned (flow : Bool) (row : Nat) (value : List Char) (v : Variable) : Variable :=
  if v.isPointer then
    let kind := pointerInitKind value
    { v with
      isInitialized := true
      initKind := kind
      nullSince := if kind = .null then some row else if flow then none else v.nullSince }
  else { v with isInitialized := true }

/-- What is wrong with the use of a variable by a name on a row of code, if anything. Arrays name
storage and are never at fault. -/
def Variable.useDefect? (row : Nat) (code name : List Char) (v : Variable) : Option Defect :=
  if v.isArray then none
  else
    let deref := v.isPointer && dereferences name code
    if !v.isInitialized then
      if deref then some (.wildPointer name .notInitialized) else some (.unsetUse name)
    else if deref && v.nullSince.any (· < row) then some (.nullPointer name)
    else none

namespace Scope

/-- Record the assignments of a row of code to the given names. -/
def assign (flow : Bool) (row : Nat) (code : List Char) (scope : Scope)
    (names : List (List Char)) : Scope :=
  names.foldl
    (fun scope name =>
      if occursIn name code then
        match assignmentTo? code name with
        | some value => scope.modify name (Variable.assigned flow row value)
        | none => scope
      else scope)
    scope

/-- What is wrong with the uses of the given names on a row of code. -/
def useDefects (row : Nat) (code : List Char) (scope : Scope) (names : List (List Char)) :
    List Defect :=
  names.filterMap fun name =>
    if occursIn name code then
      (scope.lookup name).bind (Variable.useDefect? row code name)
    else none

/-- Whether a name means a variable of a character type. -/
def isCharBuffer (scope : Scope) (name : List Char) : Bool :=
  (scope.lookup name).any fun v => isCharType v.typeName

/-- The scope at the checks of a line: after its braces and the parameters it brings in. -/
def enterLine (scope : Scope) (line : CodeLine) : Scope :=
  (scope.trackBraces line.code).seedParameters line.code

/-- The scope after a line. -/
def afterLine (flow : Bool) (scope : Scope) (line : CodeLine) : Scope :=
  let entered := scope.enterLine line
  if isLikelyDeclaration line.code then entered.declareLine line.row line.code
  else entered.assign flow line.row line.code entered.visibleNames

/-- The defects of a line that starts in the given scope. -/
def lineDefects (flow : Bool) (scope : Scope) (line : CodeLine) : List Defect :=
  if isLikelyDeclaration line.code then []
  else
    let names := (scope.enterLine line).visibleNames
    let scope := scope.afterLine flow line
    (if line.isEndlessLoop then [.endlessLoop] else []) ++
      scope.useDefects line.row line.code names ++
      line.formatCalls.flatMap (FormatCall.defects scope.isCharBuffer)

end Scope

/-- A checked line: its row, its defects and the scope after it. -/
structure ScopeStep where
  /-- The row of the line. -/
  row : Nat
  /-- What is wrong on it. -/
  defects : List Defect
  /-- The scope after it. -/
  scope : Scope
  deriving DecidableEq, Repr, Inhabited

/-- Whether a line takes part in the check: it has code and is no directive. -/
def CodeLine.isChecked (line : CodeLine) : Bool := !line.isBlank && !line.isDirective

/-- Check lines one after another, starting in the given scope. -/
def scopeStepsFrom (flow : Bool) (scope : Scope) : List CodeLine → List ScopeStep
  | [] => []
  | line :: lines =>
    let next := scope.afterLine flow line
    ⟨line.row, scope.lineDefects flow line, next⟩ :: scopeStepsFrom flow next lines

/-- The steps of the scope check over the lines of a file. -/
def scopeSteps (flow : Bool) (lines : List (List Char)) : List ScopeStep :=
  scopeStepsFrom flow {} ((scanLines lines).filter CodeLine.isChecked)

/-- The sightings of a step. -/
def ScopeStep.sightings (step : ScopeStep) : List Sighting :=
  step.defects.map fun d => ⟨step.row, d⟩

/-- What the scope check finds in the lines of a file. -/
def scopeCheck (flow : Bool) (lines : List (List Char)) : List Sighting :=
  let scanned := scanLines lines
  (scopeSteps flow lines).flatMap ScopeStep.sightings ++
    missingHeaders standardTable
      ((scanned.filter CodeLine.isChecked).flatMap CodeLine.calls) (includesIn scanned)

end DefectScan
