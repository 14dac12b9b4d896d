import DefectScan.Arguments
import DefectScan.Text.Word

/-!
# Variables as a line of code declares and uses them

A declaration line is read into the variables it declares. The other half of the module says
how a line uses a variable: whether the name occurs at all, whether it is assigned, and whether
it is dereferenced.
-/

namespace DefectScan

open Text

/-- How a pointer was last given a value. -/
inductive InitKind where
  | none
  | null
  | address
  | heap
  deriving DecidableEq, Repr, Inhabited

/-- What is known of a variable. -/
structure Variable where
  /-- The name. -/
  name : List Char
  /-- The words of the type, without qualifiers and stars. -/
  typeName : List Char
  /-- Declared with a star. -/
  isPointer : Bool := false
  /-- Declared with a dimension. -/
  isArray : Bool := false
  /-- Whether it was given a value. -/
  isInitialized : Bool := false
  /-- How it was last given a value, for a pointer. -/
  initKind : InitKind := .none
  /-- The row since which it may be null. -/
  nullSince : Option Nat := Option.none
  deriving DecidableEq, Repr, Inhabited

/-- What follows a cast to a pointer to `void`, or the text itself when it has none. -/
def afterVoidCast (s : List Char) : List Char :=
  ((do
    let inner ← afterBlanks? '(' s
    let rest ← after? "void".toList (trimStart inner)
    let rest ← afterBlanks? '*' rest
    let rest ← afterBlanks? ')' rest
    pure (trimStart rest)) : Option (List Char)).getD s

/-- What follows a parenthesised text, or the text itself when it has none. -/
def afterCast (s : List Char) : List Char :=
  match s with
  | '(' :: inner =>
    match inner.dropWhile (· != ')') with
    | _ :: rest => trimStart rest
    | [] => s
  | _ => s

/-- What kind of value an expression gives a pointer: the null pointer, an address, a block of
the heap, or anything else. -/
def pointerInitKind (expression : List Char) : InitKind :=
  let s := trim expression
  if (closedOneOf? ["NULL", "0"] (afterVoidCast s)).isSome then .null
  else if s.head? == some '&' then .address
  else if ((afterOneOf? ["malloc", "calloc", "realloc"] (afterCast s)).bind
      (afterBlanks? '(')).isSome then .heap
  else .none

/-- Words that can begin a declaration. -/
def declarationWords : List String :=
  ["int", "char", "float", "double", "void", "short", "long", "signed", "unsigned", "bool",
    "size_t", "struct", "const", "volatile", "static", "extern", "register", "auto", "union",
    "enum"]

/-- Whether a text begins, after blanks, with a called name. -/
def startsWithCall (code : List Char) : Bool :=
  let s := trimStart code
  s.head?.any isNameStart && (afterBlanks? '(' (afterWord s)).isSome

/-- Whether a line of code looks like a declaration: it has a semicolon, does not begin with a
call, and its first word, after braces and blanks, begins a declaration. -/
def isLikelyDeclaration (code : List Char) : Bool :=
  code.contains ';' && !startsWithCall code &&
    ((afterOneOf? declarationWords (code.dropWhile fun c => isBlank c || c == '{' || c == '}')).any
      fun rest => rest.head?.any fun c => isBlank c || c == '*')

/-- Words that qualify a type without being part of it. -/
def qualifiers : List String := ["const", "volatile", "static", "extern", "register", "auto"]

/-- The words of a type, with stars and qualifiers left out. -/
def typeWords (typePart : List Char) : List Char :=
  joinWords (dropWords qualifiers (typePart.map fun c => if c == '*' then ' ' else c))

/-- Read dimensions and the blanks after them until none is left: whether there was one, and the
rest. -/
def afterDimensions : List Char → Bool × List Char
  | '[' :: s =>
    if s.contains ']' then
      (true, (afterDimensions (trimStart ((s.dropWhile (· != ']')).drop 1))).2)
    else (false, '[' :: s)
  | s => (false, s)
  termination_by s => s.length
  decreasing_by
    have h1 := (List.dropWhile_suffix (· != ']') (l := s)).length_le
    have h2 := (List.dropWhile_suffix isBlank (l := (s.dropWhile (· != ']')).drop 1)).length_le
    simp [trimStart] at *
    omega

/-- The name at the start of a text that consists of a name and dimensions only, and whether
there are dimensions. -/
def nameWithDimensions? (s : List Char) : Option (List Char × Bool) :=
  let (isArray, rest) := afterDimensions (trimStart (afterWord s))
  if s.head?.any isNameStart && rest.isEmpty then some (wordHead s, isArray) else none

/-- The longest end of a text that is a name with dimensions: what stands before it, the name,
and whether there are dimensions. -/
def lastName? (s : List Char) : Option (List Char × List Char × Bool) :=
  (places s).findSome? fun p =>
    (nameWithDimensions? p.after).map fun (name, isArray) => (s.take p.column, name, isArray)

/-- A declarator and its initializer, cut at the first equals sign. -/
def splitInitializer (item : List Char) : List Char × Option (List Char) :=
  let declarator := trim (item.takeWhile (· != '='))
  match item.dropWhile (· != '=') with
  | _ :: init => (declarator, some (trim init))
  | [] => (declarator, none)

/-- The variable a declarator declares. -/
def Variable.declared (typeName name : List Char) (isPointer isArray : Bool)
    (init : Option (List Char)) : Variable where
  name := name
  typeName := typeName
  isPointer := isPointer
  isArray := isArray
  isInitialized := init.isSome
  initKind :=
    match init with
    | some e => if isPointer then pointerInitKind e else .none
    | none => .none

/-- The variable declared by a declarator after the first one: stars, a name and dimensions. -/
def furtherDeclarator? (typeName item : List Char) : Option Variable := do
  let (declarator, init) := splitInitializer item
  guard (!declarator.contains '(')
  let s := trimStart declarator
  let (name, isArray) ← nameWithDimensions? (trimStart (s.dropWhile (· == '*')))
  pure (.declared typeName name (s.head? == some '*') isArray init)

/-- The variables that a line of code declares. The first declarator is the last name before the
first comma, and what stands before it is the type. -/
def parseDeclaration (code : List Char) : List Variable :=
  let head := trim (dropLeading ['{', '}'] (trim (code.takeWhile (· != ';'))))
  match splitTopLevel head with
  | [] => []
  | item :: items =>
    let (first, init) := splitInitializer item
    if first.contains '(' then []
    else
      match lastName? first with
      | some (typePart, name, isArray) =>
        if typePart.contains '\n' || typePart.all isBlank then []
        else
          let typeName := typeWords typePart
          .declared typeName name (typePart.contains '*') isArray init ::
            items.filterMap (furtherDeclarator? typeName)
      | none => []

/-- Whether `name` occurs as a word of its own. -/
def occursIn (name code : List Char) : Bool := hasWord name code

/-- What follows the assignment operator after the assigned name. -/
def afterAssignment? (s : List Char) : Option (List Char) := do
  let s := trimStart s
  let rest ←
    match s with
    | '=' :: rest => some rest
    | c :: '=' :: rest => if ['-', '+', '*', '/', '%'].contains c then some rest else none
    | _ => none
  guard (rest.head? != some '=')
  pure rest

/-- What `name` is assigned on a line, if it is: the text after the first assignment operator behind
a free occurrence of the name. -/
def assignmentTo? (code name : List Char) : Option (List Char) :=
  (places code).findSome? fun p =>
    if p.before.any fun c => isWord c || c == '.' || c == '>' || c == '*' then none
    else (after? name p.after).bind afterAssignment?

/-- What remains after dropping any number of the leading characters that satisfy `p`. -/
def afterRuns (p : Char → Bool) : List Char → List (List Char)
  | [] => [[]]
  | c :: s => if p c then afterRuns p s ++ [c :: s] else [c :: s]

/-- Whether blanks, at least one star, blanks and then `name` as the end of a word stand at the
start of a text. -/
def startsStarred (name s : List Char) : Bool :=
  match trimStart s with
  | '*' :: s =>
    (afterRuns (· == '*') s).any fun rest =>
      (afterRuns isBlank rest).any fun rest => (closedWord? name rest).isSome
  | _ => false

/-- Whether a star before `name` is a dereference: it stands at the start of the line or after a
character that ends no operand. -/
def derefByStar (name code : List Char) : Bool :=
  startsStarred name code ||
    (places code).any fun p =>
      match p.after with
      | c :: rest => !(isWord c || c == ')' || c == ']' || isBlank c) && startsStarred name rest
      | [] => false

/-- Whether `name`, at the start of a word, is followed by an arrow. -/
def derefByArrow (name code : List Char) : Bool :=
  (places code).any fun p =>
    p.isOpen && ((after? name p.after).any fun rest =>
      (after? ['-', '>'] (trimStart rest)).isSome)

/-- Whether `name`, at the start of a word, is followed by an index. -/
def derefByIndex (name code : List Char) : Bool :=
  (places code).any fun p =>
    p.isOpen && ((after? name p.after).any fun rest => (afterBlanks? '[' rest).isSome)

/-- Whether a line dereferences `name`. -/
def dereferences (name code : List Char) : Bool :=
  derefByStar name code || derefByArrow name code || derefByIndex name code

end DefectScan
