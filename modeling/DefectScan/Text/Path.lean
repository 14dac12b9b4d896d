/-!
# Path texts

A path is a sequence of names between slashes. Empty names and single dots mean nothing and are
left out; double dots are kept, since where they lead depends on the file system. An absolute path
begins with a slash, and exactly two slashes at the start are kept.
-/

namespace DefectScan

/-- A path as text. -/
structure Path where
  /-- What an absolute path begins with, empty for a relative one. -/
  root : String := ""
  /-- The names. -/
  names : List String := []
  deriving DecidableEq, Repr, Inhabited

namespace Path

/-- The slashes a path text begins with, as far as they count. -/
def rootOf : List Char → String
  | ['/', '/'] => "//"
  | '/' :: '/' :: c :: _ => if c = '/' then "/" else "//"
  | '/' :: _ => "/"
  | _ => ""

/-- The names between the slashes of a text, of which `seen` was read, last character first. -/
def namesFrom (seen : List Char) : List Char → List String
  | [] => [String.ofList seen.reverse]
  | '/' :: s => String.ofList seen.reverse :: namesFrom [] s
  | c :: s => namesFrom (c :: seen) s

/-- Read a path. -/
def ofString (text : String) : Path :=
  { root := rootOf text.toList
    names := (namesFrom [] text.toList).filter fun n => n != "" && n != "." }

/-- The text of a path; the empty path is a dot. -/
def text (p : Path) : String :=
  if p.root.isEmpty && p.names.isEmpty then "." else p.root ++ "/".intercalate p.names

/-- Whether a path begins at the root of the file system. -/
def isAbsolute (p : Path) : Bool := !p.root.isEmpty

/-- Whether there is a null character in a path. -/
def hasNull (p : Path) : Bool := p.names.any fun n => n.toList.contains '\x00'

/-- The last name, empty if there is none. -/
def name (p : Path) : String := p.names.getLast?.getD ""

/-- A path followed by another one; an absolute one stands alone. -/
def join (p q : Path) : Path :=
  if q.isAbsolute then q else { p with names := p.names ++ q.names }

/-- The path of an entry of a directory. -/
def child (p : Path) (name : String) : Path := { p with names := p.names ++ [name] }

/-- Take double dots back against the names before them. `above` holds the names so far, last one
first; at the root of an absolute path there is nothing to take back. -/
def collapse (isAbsolute : Bool) (above : List String) : List String → List String
  | [] => above.reverse
  | n :: names =>
    if n = ".." then
      match above with
      | top :: rest =>
        if top = ".." then collapse isAbsolute (n :: above) names
        else collapse isAbsolute rest names
      | [] => collapse isAbsolute (if isAbsolute then [] else [n]) names
    else collapse isAbsolute (n :: above) names

/-- The path with double dots taken back against the names before them. -/
def normalized (p : Path) : Path := { p with names := collapse p.isAbsolute [] p.names }

end Path

/-- A path as it is shown to the user: with double dots taken back. The empty text stays empty. -/
def displayPath (text : String) : String :=
  if text.isEmpty then text else (Path.ofString text).normalized.text

/-- The part of a file name from its last dot on; a dot at its start or end does not count. -/
def suffixOf (name : String) : String :=
  let chars := name.toList
  let back := chars.reverse.takeWhile (· != '.')
  if back.isEmpty || chars.length < back.length + 2 then ""
  else String.ofList ('.' :: back.reverse)

end DefectScan
