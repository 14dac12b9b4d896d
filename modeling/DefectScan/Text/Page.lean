import DefectScan.Text.Lines
import DefectScan.Text.LowerCase
import DefectScan.Text.PictogramTable
import DefectScan.Text.Wrap

/-!
# Printed pages

How a text becomes lines of a page of eighty columns. Certain controls are left out, tabs are
written out, and a name of a pictogram between two colons is replaced by the pictogram. A text is
wrapped to the page, or keeps its lines, however wide they are.
-/

namespace DefectScan.Text

/-- How many columns a page has. -/
def pageWidth : Nat := 80

/-- A control that is not printed: bell, backspace, vertical tab, form feed and carriage return. -/
def isUnprinted (c : Char) : Bool :=
  c == '\x07' || c == '\x08' || c == '\x0b' || c == '\x0c' || c == '\r'

/-- Every second of the given texts is the name of the next. -/
def inPairs : List (List Char) → List (List Char × List Char)
  | name :: text :: rest => (name, text) :: inPairs rest
  | _ => []

/-- The pictograms by their names. -/
def namedPictograms : List (List Char × List Char) := inPairs (words pictogramWords.toList)

/-- The endings of a name that ask for a form of its pictogram, and the signs that select it. -/
def pictogramForms : List (List Char × Char) :=
  [("-emoji".toList, '\ufe0f'), ("-text".toList, '\ufe0e')]

/-- The pictogram that is named between two colons, in any case, with the sign for its form if the
name asks for one. -/
def pictogram? (inside : List Char) : Option (List Char) :=
  match pictogramForms.find? fun form => form.1.isSuffixOf inside with
  | some (ending, selector) =>
    (namedPictograms.lookup (lower (inside.take (inside.length - ending.length)))).map
      (· ++ [selector])
  | none => namedPictograms.lookup (lower inside)

/-- The text with the names of pictograms between colons replaced. The colons on both sides of a
name are used up, whether it names a pictogram or not. -/
def pictograms (s : List Char) : List Char :=
  match s with
  | [] => []
  | c :: s =>
    if c = ':' then
      let name := s.takeWhile fun a => a != ':' && !isBlank a
      match _h : s.drop name.length with
      | ':' :: rest =>
        match pictogram? name with
        | some p => p ++ pictograms rest
        | none => ':' :: name ++ ':' :: pictograms rest
      | _ => c :: pictograms s
    else c :: pictograms s
  termination_by s.length
  decreasing_by
    · have hlength := congrArg List.length _h
      simp at hlength ⊢
      omega
    · have hlength := congrArg List.length _h
      simp at hlength ⊢
      omega
    · simp
    · simp

/-- The lines of a text as they are printed, before they are fitted to the page. -/
def printedLines (s : List Char) : List (List Char) :=
  (splitLines ((pictograms s).filter (!isUnprinted ·))).map expandTabs

/-- The printed lines of a text that is not wrapped. -/
def unwrapped (s : List Char) : List (List Char) := printedLines s

/-- The printed lines of a text that is wrapped to the page. -/
def wrapped (s : List Char) : List (List Char) :=
  (printedLines s).flatMap (wrapLine pageWidth)

end DefectScan.Text
