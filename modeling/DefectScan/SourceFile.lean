import DefectScan.Text.Lines

/-!
# Source files

A source file as it was read: its path, its text and its lines.
-/

namespace DefectScan

/-- A source file. -/
structure SourceFile where
  /-- The path it was read from. -/
  path : String
  /-- Its text. -/
  text : List Char
  /-- Its lines. -/
  lines : List (List Char)
  deriving DecidableEq, Repr, Inhabited

/-- The source file with the given path and text. -/
def SourceFile.ofText (path : String) (text : List Char) : SourceFile :=
  ⟨path, text, Text.splitLines text⟩

end DefectScan
