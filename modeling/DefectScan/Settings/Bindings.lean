import DefectScan.Text.Blank
import DefectScan.Text.Word

/-!
# Settings files

A settings file binds names to values, one binding in a line: a name, an equals sign and a value.
The word `export` may stand before the name, blanks around the equals sign and a comment at the
end of the line. A value between quotes may hold anything, line ends included, and escapes the
quote by a backslash. A name without an equals sign is bound to nothing. A line that says none of
this is passed over. A value may refer to other names as `${name}` or `${name:-default}`.
-/

namespace DefectScan

/-- A name and what it is bound to, if anything. -/
structure Binding where
  /-- The name. -/
  name : List Char
  /-- What it is bound to. -/
  value : Option (List Char)
  deriving DecidableEq, Repr, Inhabited

namespace Binding

/-- A blank within a line. -/
def isInlineBlank (c : Char) : Bool := Text.isBlank c && c != '\n' && c != '\r'

/-- Whether a character ends a line. -/
def endsLine (c : Char) : Bool := c == '\n' || c == '\r'

/-- What follows the line end. -/
def afterLine (s : List Char) : List Char := (s.dropWhile (!endsLine ·)).drop 1

/-- What follows the word `export` and blanks, if the text begins with them. -/
def afterExport (s : List Char) : List Char :=
  match Text.after? "export".toList s with
  | some (c :: rest) => if isInlineBlank c then rest.dropWhile isInlineBlank else s
  | _ => s

/-- Read a name, which may stand between single quotes; a comment has none. Fails without
reading. -/
def readName (s : List Char) : Option (Option (List Char) × List Char) :=
  match s with
  | '#' :: _ => some (none, s)
  | '\'' :: rest =>
    let name := rest.takeWhile (· != '\'')
    match rest.drop name.length with
    | '\'' :: more => if name.isEmpty then none else some (some name, more)
    | _ => none
  | _ =>
    let name := s.takeWhile fun c => c != '=' && c != '#' && !Text.isBlank c
    if name.isEmpty then none else some (some name, s.drop name.length)

/-- How long the text before the closing quote is, if there is one. A quote after a backslash does
not close, unless the backslash stands after another one that it belongs to. -/
def closingQuote? (quote : Char) : List Char → Option Nat
  | [] => none
  | '\\' :: _ :: s => (closingQuote? quote s).map (· + 2)
  | c :: s => if c = quote then some 0 else (closingQuote? quote s).map (· + 1)

/-- What a backslash followed by the character stands for, if it is an escape of a text between
such quotes. -/
def escape? (quote c : Char) : Option Char :=
  if c = '\\' || c = '\'' then some c
  else if quote = '\'' then none
  else
    match c with
    | '"' => some '"'
    | 'a' => some '\x07'
    | 'b' => some '\x08'
    | 'f' => some '\x0c'
    | 'n' => some '\n'
    | 'r' => some '\r'
    | 't' => some '\t'
    | 'v' => some '\x0b'
    | _ => none

/-- The text with its escapes replaced by what they stand for. -/
def unescape (quote : Char) : List Char → List Char
  | '\\' :: c :: s =>
    match escape? quote c with
    | some d => d :: unescape quote s
    | none => '\\' :: unescape quote (c :: s)
  | c :: s => c :: unescape quote s
  | [] => []
  termination_by s => s.length

/-- Take off a comment: blanks, a number sign and what follows. -/
def dropRemark : List Char → List Char
  | [] => []
  | c :: s =>
    if Text.isBlank c && (s.dropWhile Text.isBlank).head? == some '#' then []
    else c :: dropRemark s

/-- Read the value after an equals sign and blanks, which can belong to a comment already. Fails
without reading on a quote that is not closed. -/
def readValue (s : List Char) : Option (List Char) × List Char :=
  let inner := s.dropWhile isInlineBlank
  let line := s.takeWhile (!endsLine ·)
  let plain := (some (Text.trim (dropRemark line)), s.drop line.length)
  match inner with
  | [] => plain
  | c :: rest =>
    if c = '\'' || c = '"' then
      match closingQuote? c rest with
      | some n => (some (unescape c (rest.take n)), rest.drop (n + 1))
      | none => (none, inner)
    else plain

/-- What follows a comment within the line, if one stands here. -/
def afterRemark (s : List Char) : List Char :=
  match s.dropWhile isInlineBlank with
  | '#' :: rest => rest.dropWhile (!endsLine ·)
  | _ => s

/-- What follows the blanks up to the line end, if there is nothing else. -/
def endOfLine? (s : List Char) : Option (List Char) :=
  match s.dropWhile isInlineBlank with
  | [] => some []
  | '\r' :: '\n' :: rest => some rest
  | c :: rest => if endsLine c then some rest else none

/-- Read the next binding, if the next line that says something has one. -/
def readNext (s : List Char) : Option Binding × List Char :=
  let s := s.dropWhile Text.isBlank
  if s.isEmpty then (none, [])
  else
    let s := afterExport s
    match readName s with
    | none => (none, afterLine s)
    | some (name, s) =>
      match s.dropWhile isInlineBlank with
      | '=' :: s =>
        match readValue s with
        | (none, s) => (none, afterLine s)
        | (some value, s) => closeLine name (some value) (afterRemark s)
      | s => closeLine name none (afterRemark s)
where
  /-- Finish a binding at the end of its line. -/
  closeLine (name value : Option (List Char)) (s : List Char) : Option Binding × List Char :=
    match endOfLine? s with
    | some rest => (name.map (⟨·, value⟩), rest)
    | none => (none, afterLine s)

/-- The bindings of a text, in order. -/
def readAll (s : List Char) : List Binding :=
  if s.isEmpty then []
  else
    let next := readNext s
    if next.2.length < s.length then next.1.toList ++ readAll next.2 else next.1.toList
  termination_by s.length

/-- The bindings of a text. A mark of the byte order at its beginning does not count. -/
def ofText : List Char → List Binding
  | '\ufeff' :: s => readAll s
  | s => readAll s

/-! ### References -/

/-- Read a reference, which begins with a dollar sign and an opening brace: its name and its
default, if it has one. -/
def reference? (s : List Char) : Option ((List Char × Option (List Char)) × List Char) :=
  match s with
  | '$' :: '{' :: s =>
    let name := s.takeWhile fun c => c != '}' && c != ':'
    match s.drop name.length with
    | '}' :: rest => some ((name, none), rest)
    | ':' :: '-' :: s =>
      let default := s.takeWhile (· != '}')
      match s.drop default.length with
      | '}' :: rest => some ((name, some default), rest)
      | _ => none
    | _ => none
  | _ => none

/-- The text with its references replaced by what `known` says of their names, or by their
defaults. -/
def expand (known : List Char → Option (List Char)) (s : List Char) : List Char :=
  match s with
  | [] => []
  | c :: rest =>
    match reference? s with
    | some ((name, default), after) =>
      let text := ((known name).orElse fun _ => default).getD []
      if after.length < rest.length + 1 then text ++ expand known after else text
    | none => c :: expand known rest
  termination_by s.length

/-- Bind a name, in the place where it was bound before or at the end. -/
def put (b : Binding) : List Binding → List Binding
  | [] => [b]
  | a :: as => if a.name = b.name then b :: as else a :: put b as

/-- What a name is bound to, where a name bound to nothing counts as the empty text. -/
def known? (bindings : List Binding) (name : List Char) : Option (List Char) :=
  (bindings.find? (·.name = name)).map fun b => b.value.getD []

/-- The bindings with their references expanded. A reference is to an earlier binding or else to a
variable of the surroundings. A name bound twice keeps its first place and its last value. -/
def resolve (outer : List Binding) (bindings : List Binding) : List Binding :=
  bindings.foldl (fun done b =>
    let known name := (known? done name).orElse fun _ => known? outer name
    put { b with value := b.value.map (expand known) } done) []

end Binding

end DefectScan
