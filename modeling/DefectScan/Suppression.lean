import DefectScan.Issue
import DefectScan.Text.Glob
import DefectScan.Text.Path

/-!
# Suppressed issues

A rule takes issues out of the report that are known to be false: those on certain lines of the
files whose names match a pattern.
-/

namespace DefectScan

/-- Issues on these lines of files with matching names are not reported. -/
structure Suppression where
  /-- The pattern for the name of the file, without its directory. -/
  pattern : String
  /-- The lines, counted from one. -/
  lines : List Int
  deriving DecidableEq, Repr, Inhabited

/-- Whether a rule takes out an issue. -/
def Suppression.matchesIssue (rule : Suppression) (issue : Issue) : Bool :=
  rule.lines.contains issue.line &&
    Text.globMatches rule.pattern.toList (Path.ofString issue.file).name.toList

/-- The rules that always hold. -/
def builtinSuppressions : List Suppression := [⟨"avl_tree.c", [7, 8, 16]⟩]

/-- The issues that no rule takes out. -/
def applySuppressions (rules : List Suppression) (issues : List Issue) : List Issue :=
  issues.filter fun issue => !rules.any fun rule => rule.matchesIssue issue

end DefectScan
