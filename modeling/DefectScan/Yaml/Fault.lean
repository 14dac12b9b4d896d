import DefectScan.Text.Quoted

/-!
# Faults in rule files

A fault says what was being read and from where on, and what is wrong and where. Lines and columns
are counted from zero and written from one.
-/

namespace DefectScan.Yaml

/-- A place in a text. -/
structure Mark where
  /-- The line, counted from zero. -/
  line : Nat := 0
  /-- The column, counted from zero. -/
  column : Nat := 0
  deriving DecidableEq, Repr, Inhabited

/-- Why a text has no value. -/
inductive Fault where
  /-- A character that may not occur, after the given number of characters. -/
  | unacceptable (c : Char) (position : Nat)
  /-- An escaped code that is too large for a character. -/
  | noCharacter (code : Nat)
  /-- Collections lie too deeply within each other. -/
  | tooDeep
  /-- Something wrong at a place, with what was being read and from where on. -/
  | misplaced (context : Option String) (start : Option Mark) (problem : String) (mark : Mark)
  deriving DecidableEq, Repr, Inhabited

/-- A character between quotes; the end of the text counts as a null character. -/
def shownChar (c : Char) : String := String.ofList (Text.quoted [c])

/-- A line that points to a place of a file. -/
def Mark.pointer (file : String) (m : Mark) : String :=
  "  in \"" ++ file ++ "\", line " ++ toString (m.line + 1) ++
    ", column " ++ toString (m.column + 1)

/-- The lines of the message about a fault. The place where reading began is left out when it is
the place of the problem. -/
def Fault.lines (file : String) : Fault → List String
  | .unacceptable c position =>
    ["unacceptable character #x" ++ String.ofList (Text.hexDigits 4 c.toNat) ++
        ": special characters are not allowed",
      "  in \"" ++ file ++ "\", position " ++ toString position]
  | .noCharacter _ => ["chr() arg not in range(0x110000)"]
  | .tooDeep => ["maximum recursion depth exceeded"]
  | .misplaced context start problem mark =>
    context.toList ++
      ((start.filter (· ≠ mark)).map (Mark.pointer file)).toList ++
      [problem, mark.pointer file]

/-- The message about a fault. -/
def Fault.message (file : String) (fault : Fault) : String := "\n".intercalate (fault.lines file)

end DefectScan.Yaml
