import DefectScan.CodeView
import DefectScan.Text.Word

/-!
# Bodies between braces

Every opening brace begins the body of a function, the members of a struct or union, or a plain
block. Which it is follows from the text before the brace back to the last brace or semicolon,
the *header*, which may have been collected over several lines.
-/

namespace DefectScan

open Text

/-- What stands between two braces. -/
inductive BodyKind where
  | function
  | struct
  | block
  deriving DecidableEq, Repr, Inhabited

/-- The kind in words. -/
def BodyKind.label : BodyKind → String
  | function => "function"
  | struct => "struct"
  | block => "block"

/-- The open bodies at a place of a file, innermost first, and the text since the last brace or
semicolon. -/
structure Bodies where
  /-- The open bodies, innermost first. -/
  stack : List BodyKind := []
  /-- The text since the last brace or semicolon on the lines before. -/
  header : List Char := []
  deriving DecidableEq, Repr, Inhabited

namespace Bodies

/-- Whether some open body holds the members of a struct or union. -/
def inStruct (b : Bodies) : Bool := b.stack.contains .struct

/-- Whether some open body is that of a function. -/
def inFunction (b : Bodies) : Bool := b.stack.contains .function

/-- Whether no body is open. -/
def atFileScope (b : Bodies) : Bool := b.stack.isEmpty

/-- Whether a text ends with the head of a struct or union. -/
def endsWithStruct (text : List Char) : Bool :=
  (places text).any fun p =>
    (p.oneOf? ["struct", "union"]).any fun rest =>
      rest.all fun c => !(c == ';' || c == '(' || c == ')' || c == '=')

/-- The kind of the body whose brace follows the header and the given text: of a struct if its
head comes last, of a function if outside all bodies a parenthesis comes last. -/
def kindAfter (b : Bodies) (text : List Char) : BodyKind :=
  let text := trim (b.header ++ ' ' :: text)
  if endsWithStruct text then .struct
  else if b.stack.isEmpty && text.getLast? == some ')' then .function
  else .block

/-- Add text to the header, one space between, unless there is none to add. -/
def extend (b : Bodies) (text : List Char) : Bodies :=
  if (trim text).isEmpty then b else { b with header := trim (b.header ++ ' ' :: trim text) }

/-- Read the code of a line, of which `seen` was read since the last brace or semicolon, last
character first. -/
def readFrom (b : Bodies) (seen : List Char) : List Char → Bodies
  | [] => b.extend seen.reverse
  | c :: s =>
    if c = '{' then
      readFrom { stack := b.kindAfter seen.reverse :: b.stack } [] s
    else if c = '}' then readFrom { stack := b.stack.tail } [] s
    else if c = ';' then readFrom { b with header := [] } [] s
    else b.readFrom (c :: seen) s

/-- Read a line; a directive only ends the header. -/
def read (b : Bodies) (line : CodeLine) : Bodies :=
  if line.isDirective then { b with header := [] } else b.readFrom [] line.code

end Bodies

end DefectScan
