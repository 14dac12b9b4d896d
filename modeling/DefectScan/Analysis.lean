import DefectScan.LineCheck
import DefectScan.Log
import DefectScan.Scope.Check
import DefectScan.SourceFile
import DefectScan.Suppression
import DefectScan.Tree.Check

/-!
# Analysis of one file

A file is analysed by the scope check, or by the checks over its syntax tree; when it has no
usable tree, the bare check takes over. A check that fails costs only its own findings. What the
checks find becomes the report after two last steps: every issue gets its source line, and
suppressed issues are taken out.
-/

namespace DefectScan

/-- Everything that the tree checks need to know of a file. -/
structure FileSites where
  /-- The syntax tree, if it was kept. -/
  tree : Option SyntaxTree := none
  /-- The declared variables. -/
  declarations : List Declaration := []
  /-- The calls. -/
  calls : List Call := []
  /-- The includes. -/
  includes : List Include := []
  /-- The loops that do not end by their condition. -/
  loops : List Loop := []
  /-- The formatted calls. -/
  formatCalls : List FormatCall := []
  deriving Repr, Inhabited

/-- The sites of a syntax tree, or the first damaged name among them. -/
def SyntaxTree.sites (tree : SyntaxTree) : Except Text.Damage FileSites := do
  return {
    tree := some tree
    declarations := ← tree.declarations
    calls := ← tree.calls
    includes := ← tree.includes
    loops := tree.loops
    formatCalls := tree.formatCalls }

/-- The notes written while the sites of a tree are read. Includes are read after declarations and
calls. -/
def SyntaxTree.readingLog (tree : SyntaxTree) : List LogEntry :=
  if tree.declarations.isOk && tree.calls.isOk then
    tree.unreadableIncludes.map fun text =>
      ⟨.warning, .treeReading, "Could not extract header from include: " ++ String.ofList text⟩
  else []

/-- Why the sites of a file could not be read. -/
inductive ReadFault where
  /-- There is no usable tree. -/
  | unparsed (failure : ParseFailure)
  /-- Something unforeseen happened. -/
  | crashed (message : String)
  deriving DecidableEq, Repr, Inhabited

/-- Read the sites of a source text. -/
def Parser.readSites (parser : Parser) (text : List Char) : Logged (Except ReadFault FileSites) :=
  match parser.parse text with
  | .ok tree => ⟨tree.sites.mapError fun damage => .crashed damage.message, tree.readingLog⟩
  | .error failure => .silent (.error (.unparsed failure))

/-! ### Checks -/

/-- Why a check found nothing. -/
inductive CheckFault where
  /-- It cannot run on what it was given. -/
  | refused (reason : String)
  /-- Something unforeseen happened. -/
  | crashed
  deriving DecidableEq, Repr, Inhabited

/-- What a check returns: its findings, and the declarations as it leaves them. -/
structure CheckRun where
  /-- What it found, or why it failed. -/
  found : Except CheckFault (List Sighting)
  /-- The declarations after the check. -/
  declarations : List Declaration

/-- A named check over the sites of a file with the given path. -/
structure Check where
  /-- The name under which its failures are noted. -/
  name : String
  /-- The check itself. -/
  run : (path : String) → FileSites → CheckRun

/-- The check of variables and pointers. It needs the tree, and marks the declarations that it
saw being written. -/
def variableCheck (flow : Bool) : Check where
  name := "variable"
  run path sites :=
    match sites.tree with
    | none => ⟨.error (.refused ("No syntax tree for " ++ path)), sites.declarations⟩
    | some tree =>
      ⟨.ok (tree.variableCheck flow sites.declarations), sites.declarations.map tree.afterCheck⟩

/-- The check for missing headers. -/
def libraryCheck : Check where
  name := "library"
  run _ sites := ⟨.ok (missingHeaders standardTable sites.calls sites.includes), sites.declarations⟩

/-- The check for misspelled headers. -/
def spellingCheck : Check where
  name := "header spelling"
  run _ sites := ⟨.ok (misspelledHeaders sites.includes), sites.declarations⟩

/-- The check of loops and formats. -/
def advancedCheck : Check where
  name := "advanced"
  run _ sites :=
    ⟨.ok (loopAndFormatCheck sites.declarations sites.loops sites.formatCalls), sites.declarations⟩

/-- The checks over a syntax tree, in the order of the report. -/
def treeChecks (flow : Bool) : List Check :=
  [variableCheck flow, libraryCheck, spellingCheck, advancedCheck]

/-- What a check found; a failure is noted and finds nothing. -/
def contain (name path : String) (found : Except CheckFault (List α)) : Logged (List α) :=
  match found with
  | .ok found => .silent found
  | .error (.refused reason) =>
    .note .error .analysis (name ++ " detector skipped " ++ path ++ ": " ++ reason) []
  | .error .crashed => .note .error .analysis (name ++ " detector failed on " ++ path) []

/-- Run checks one after another, each on the declarations as the one before left them. -/
def runChecks (path : String) : List Check → FileSites → Logged (List Sighting)
  | [], _ => .silent []
  | check :: checks, sites =>
    let run := check.run path sites
    (contain check.name path run.found).andThen fun found =>
      (runChecks path checks { sites with declarations := run.declarations }).map (found ++ ·)

/-! ### The analysis -/

/-- Which checks a file goes through. -/
inductive Mode where
  /-- The checks over the syntax tree, or the bare check for files without one. -/
  | auto
  /-- The scope check only. -/
  | heuristic
  deriving DecidableEq, Repr, Inhabited

/-- Whether syntax trees can be built. -/
inductive Availability where
  | available (parser : Parser)
  | unavailable (reason : String)

/-- How files are analysed. -/
structure Analyzer where
  /-- Which checks a file goes through. -/
  mode : Mode := .auto
  /-- Whether the order of writes counts. -/
  flow : Bool := false
  /-- Whether syntax trees can be built. -/
  availability : Availability := .unavailable "parser not probed"
  /-- The rules that take issues out of the report. -/
  rules : List Suppression := builtinSuppressions
  /-- How the sites of a text are read. -/
  readSites : Parser → List Char → Logged (Except ReadFault FileSites) := Parser.readSites
  /-- The checks over a syntax tree, or why they could not be set up. -/
  checks : Except String (List Check) := .ok (treeChecks flow)

/-- Attach the source lines to issues, drop those outside the file, and take out the suppressed
ones. -/
def finish (rules : List Suppression) (source : SourceFile) (issues : List Issue) : List Issue :=
  applySuppressions rules (issues.filterMap fun issue =>
    if 1 ≤ issue.line ∧ issue.line ≤ (source.lines.length : Int) then
      some (issue.withCodeLine
        (String.ofList (Text.trim ((source.lines[(issue.line - 1).toNat]?).getD []))))
    else none)

namespace Analyzer

/-- The findings of the bare check, for a file without a usable tree. -/
def bareFindings (source : SourceFile) : Logged (List Sighting) :=
  contain "minimal fallback" source.path (.ok (bareCheck source.text source.lines))

/-- The findings of the tree checks, or why there is no tree to check. -/
def treeFindings (a : Analyzer) (parser : Parser) (source : SourceFile) :
    Logged (Except ParseFailure (List Sighting)) :=
  match a.checks with
  | .error message => .silent (.error (.checkSetup message))
  | .ok checks =>
    (a.readSites parser source.text).andThen fun
      | .ok sites => (runChecks source.path checks sites).map .ok
      | .error (.unparsed failure) => .silent (.error failure)
      | .error (.crashed message) =>
        .note .error .analysis ("Tree extraction failed on " ++ source.path)
          (.error (.extractionFault message))

/-- What is found in a file, before the report is finished. -/
def findings (a : Analyzer) (source : SourceFile) : Logged (List Sighting) :=
  match a.mode, a.availability with
  | .heuristic, _ =>
    contain "scope heuristic" source.path (.ok (scopeCheck a.flow source.lines))
  | .auto, .unavailable _ => bareFindings source
  | .auto, .available parser =>
    (a.treeFindings parser source).andThen fun
      | .ok found => .silent found
      | .error failure =>
        (Logged.note .warning .analysis
          ("AST analysis failed for " ++ source.path ++ ", using text fallback: " ++
            failure.message) ()).andThen fun _ => bareFindings source

/-- The report of a file. -/
def analyze (a : Analyzer) (source : SourceFile) : Logged (List Issue) :=
  (a.findings source).map fun found =>
    finish a.rules source (found.map (Sighting.issue source.path))

end Analyzer

end DefectScan
