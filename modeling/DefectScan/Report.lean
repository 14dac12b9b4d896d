import DefectScan.Issue
import DefectScan.Text.Page
import DefectScan.Text.Path

/-!
# Reports

What is printed about a scan: every issue with its place and its source line, and a panel with the
supported checks.
-/

namespace DefectScan

/-- The printed lines of an issue: what it is, and the source line it is about. -/
def Issue.printed (issue : Issue) : List (List Char) :=
  Text.unwrapped (displayPath issue.file ++ ":" ++ toString issue.line ++ ": [" ++
    issue.category.label ++ "] " ++ issue.message).toList ++
  Text.unwrapped ("    " ++ issue.codeLine).toList

/-- The printed lines of all issues. -/
def printedIssues (issues : List Issue) : List (List Char) :=
  if issues.isEmpty then ["No problems found.".toList] else issues.flatMap Issue.printed

/-! ### The panel -/

/-- The checks that a scan makes. -/
def supportedChecks : List String :=
  ["Uninitialized variables", "NULL and wild pointer dereferences", "Missing standard headers",
    "Misspelled system headers", "Infinite loops without an exit",
    "printf/scanf argument mismatches"]

/-- The text inside the panel. -/
def panelText : List String :=
  ["cscan - C static checker", "", "Supported checks:"] ++ supportedChecks.map ("  - " ++ ·)

/-- A line inside the panel, filled up to the width of the page. -/
def panelLine (text : String) : List Char :=
  "│ ".toList ++ text.toList ++ List.replicate (Text.pageWidth - 4 - text.length) ' ' ++ " │".toList

/-- The upper edge of the panel with its title in the middle. -/
def panelTop (title : String) : List Char :=
  let room := Text.pageWidth - 4 - title.length
  '╭' :: List.replicate (room / 2) '─' ++ ' ' :: title.toList ++
    ' ' :: List.replicate (room - room / 2) '─' ++ ['╮']

/-- The lower edge of the panel. -/
def panelBottom : List Char := '╰' :: List.replicate (Text.pageWidth - 2) '─' ++ ['╯']

/-- The panel with the supported checks. -/
def panel : List (List Char) :=
  panelTop "Capabilities" :: panelText.map panelLine ++ [panelBottom]

end DefectScan
