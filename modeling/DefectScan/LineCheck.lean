import DefectScan.Bodies
import DefectScan.Headers
import DefectScan.LineSites
import DefectScan.Variable

/-!
# Checks without scopes

Two checks that need no scopes. The body check looks at declarations without an initializer that
stand in functions or outside all bodies, and at the headers of the commonest functions. The bare
check, the least precise, looks at each line as written, comments and literals included.
-/

namespace DefectScan

open Text

/-- Words that qualify a declaration in front of its type. -/
def leadingQualifiers : List String := ["static", "const", "volatile", "register"]

/-- The arithmetic type words. -/
def arithmeticWords : List String :=
  ["int", "char", "float", "double", "long", "short", "unsigned", "signed"]

/-- What follows the qualifiers at the start of a text, each followed by a blank. -/
def afterQualifiers (s : List Char) : List Char :=
  match afterOneOf? leadingQualifiers s with
  | some rest =>
    if rest.head?.any isBlank ∧ rest.length < s.length then afterQualifiers (trimStart rest) else s
  | none => s
  termination_by s.length
  decreasing_by
    have h := (List.dropWhile_suffix isBlank (l := rest)).length_le
    simp [trimStart] at *
    omega

/-- Whether a line declares arithmetic variables without an initializer: it has a semicolon, no
equals sign, no parenthesis and no `return`, and begins with qualifiers and a type word. -/
def CodeLine.isBareDeclaration (line : CodeLine) : Bool :=
  line.code.contains ';' && !line.code.contains '=' && !line.code.contains '(' &&
    !containsText "return".toList line.code &&
    (closedOneOf? arithmeticWords (afterQualifiers (trimStart line.code))).isSome

/-- The defect of a line that begins inside the given bodies. -/
def Bodies.lineDefect? (bodies : Bodies) (line : CodeLine) : Option Defect :=
  if line.isBareDeclaration && !bodies.inStruct && (bodies.inFunction || bodies.atFileScope) then
    match (parseDeclaration line.code).map Variable.name with
    | [] => none
    | names => some (.unsetDeclarations names)
  else none

/-- The defects of lines that begin inside the given bodies. -/
def bodySightings (bodies : Bodies) : List CodeLine → List Sighting
  | [] => []
  | line :: lines =>
    ((bodies.lineDefect? line).map (Sighting.mk line.row)).toList ++
      bodySightings (bodies.read line) lines

/-- What the body check finds in the lines of a file. -/
def bodyCheck (lines : List (List Char)) : List Sighting :=
  let scanned := scanLines lines
  bodySightings {} scanned ++
    missingHeaders commonTable (scanned.flatMap CodeLine.calls) (includesIn scanned)

/-- The type words of the bare check. -/
def bareWords : List String := ["int", "char", "float", "double", "long", "short"]

/-- Whether a type word, a name and a semicolon stand at a place. -/
def Text.Place.startsBareDeclaration (p : Place) : Bool :=
  p.isOpen &&
    ((afterOneOf? bareWords p.after).any fun rest =>
      let name := trimStart rest
      rest.head?.any isBlank && startsWord name && (afterBlanks? ';' (afterWord name)).isSome)

/-- Whether a name is called somewhere on a line. -/
def mentionsCall (name : String) (line : List Char) : Bool :=
  (places line).any fun p =>
    p.isOpen && ((after? name.toList p.after).bind (afterBlanks? '(')).isSome

/-- The functions the bare check looks for, with their headers. -/
def bareHeaders : List (String × String) := [("malloc", "stdlib.h"), ("printf", "stdio.h")]

/-- The defects of a line as written, in a file with the given text. -/
def bareDefects (text line : List Char) : List Defect :=
  (if (places line).any Place.startsBareDeclaration && !line.contains '=' then
    [.unsetDeclaration] else []) ++
  bareHeaders.filterMap fun (function, header) =>
    if mentionsCall function line &&
        !containsText ("#include <" ++ header ++ ">").toList text then
      some (.absentInclude function header)
    else none

/-- What the bare check finds in a file with the given text and lines. -/
def bareCheck (text : List Char) (lines : List (List Char)) : List Sighting :=
  lines.zipIdx.flatMap fun (line, row) => (bareDefects text line).map (Sighting.mk row)

end DefectScan
