import DefectScan.Text.Utf8
import DefectScan.Yaml.Token

/-!
# Anchors, tags and directives

Readers for the tokens that name things. A reader takes a place and returns what it read together
with the place after it, or a fault.
-/

namespace DefectScan.Yaml

/-- A reader of one thing. -/
abbrev Reader (α : Type) := Cursor → Except Fault (α × Cursor)

/-- A fault found while reading something that began at `start`. -/
def faultAt (context : String) (start : Mark) (problem : String) (c : Cursor) : Except Fault α :=
  .error (.misplaced (some context) (some start) problem c.mark)

/-- A fault about a character that should have been another one. -/
def unexpected (context : String) (start : Mark) (expected : String) (seen : Char) (c : Cursor) :
    Except Fault α :=
  faultAt context start ("expected " ++ expected ++ ", but found " ++ shownChar seen) c

/-! ### Anchors and aliases -/

/-- Read the sign and the name of an anchor or an alias. -/
def readReference (what : String) : Reader (List Char) := fun c =>
  let context := "while scanning an " ++ what
  let expected := "alphabetic or numeric character"
  let start := c.mark
  let (name, c) := c.next.span isNameChar
  if name.isEmpty then unexpected context start expected c.peek c
  else if isWideGap c.peek || "?:,]\x7d%@`".toList.contains c.peek then .ok (name, c)
  else unexpected context start expected c.peek c

/-! ### Tags -/

/-- A character of a tag. -/
def isTagChar (c : Char) : Bool := c.isAlphanum || "-;/?:@&=+$,_.!~*'()[]".toList.contains c

/-- Read escaped bytes of a tag: percent signs with two hexadecimal digits each. -/
def readEscapes (what : String) (start : Mark) : Nat → Reader (List UInt8)
  | 0, c => .ok ([], c)
  | n + 1, c =>
    if c.peek != '%' then .ok ([], c)
    else
      let c := c.next
      let context := "while scanning a " ++ what
      let expected := "URI escape sequence of 2 hexadecimal numbers"
      if !isHexDigit (c.peek 0) then unexpected context start expected (c.peek 0) c
      else if !isHexDigit (c.peek 1) then unexpected context start expected (c.peek 1) c
      else do
        let byte := (hexNumber [c.peek 0, c.peek 1]).toUInt8
        let (bytes, c) ← readEscapes what start n (c.advance 2)
        .ok (byte :: bytes, c)

/-- Read the characters of a tag, escapes included. -/
def readTagChars (what : String) (start : Mark) : Nat → Reader (List Char)
  | 0, c => .ok ([], c)
  | n + 1, c => do
    let (run, c) := c.span isTagChar
    if c.peek != '%' then .ok (run, c)
    else
      let (bytes, after) ← readEscapes what start c.left c
      match Text.firstDamage? 0 bytes with
      | some damage => faultAt ("while scanning a " ++ what) start damage.message c
      | none =>
        let (more, c) ← readTagChars what start n after
        .ok (run ++ Text.ofUtf8Lossy bytes ++ more, c)

/-- Read what a tag consists of, which is not nothing. -/
def readTagText (what : String) (start : Mark) : Reader (List Char) := fun c => do
  let (text, after) ← readTagChars what start (c.left + 1) c
  if text.isEmpty then unexpected ("while parsing a " ++ what) start "URI" c.peek c
  else .ok (text, after)

/-- Read a tag handle: an exclamation mark, or a name between two. -/
def readHandle (what : String) (start : Mark) : Reader (List Char) := fun c =>
  let context := "while scanning a " ++ what
  if c.peek != '!' then unexpected context start "'!'" c.peek c
  else if c.peek 1 == ' ' then .ok (['!'], c.next)
  else
    let (name, after) := c.next.span isNameChar
    if after.peek != '!' then unexpected context start "'!'" after.peek after
    else .ok ('!' :: name ++ ['!'], after.next)

/-- Read the handle and the rest of a tag. -/
def readTagParts (start : Mark) : Reader (Option (List Char) × List Char) := fun c =>
  if c.peek 1 == '<' then do
    let (suffix, c) ← readTagText "tag" start (c.advance 2)
    if c.peek != '>' then unexpected "while parsing a tag" start "'>'" c.peek c
    else .ok ((none, suffix), c.next)
  else if isWideGap (c.peek 1) then .ok ((none, ['!']), c.next)
  else do
    let word := (c.rest.drop 1).takeWhile (!isGap ·)
    let (handle, c) ←
      if word.contains '!' then readHandle "tag" start c else .ok (['!'], c.next)
    let (suffix, c) ← readTagText "tag" start c
    .ok ((some handle, suffix), c)

/-- Read a tag. -/
def readTag : Reader (Option (List Char) × List Char) := fun c => do
  let start := c.mark
  let (parts, c) ← readTagParts start c
  if isGap c.peek then .ok (parts, c)
  else unexpected "while scanning a tag" start "' '" c.peek c

/-! ### Directives -/

/-- The context of faults in a directive. -/
def directiveContext : String := "while scanning a directive"

/-- Read a number of a version. -/
def readVersionNumber (start : Mark) : Reader Nat := fun c =>
  let (digits, after) := c.span Char.isDigit
  if digits.isEmpty then unexpected directiveContext start "a digit" c.peek c
  else .ok (digits.foldl (fun n d => n * 10 + (d.toNat - '0'.toNat)) 0, after)

/-- Read a version. -/
def readVersion (start : Mark) : Reader Directive := fun c => do
  let (major, c) ← readVersionNumber start (c.skip (· == ' '))
  if c.peek != '.' then unexpected directiveContext start "a digit or '.'" c.peek c
  else
    let (minor, c) ← readVersionNumber start c.next
    if isGap c.peek then .ok (.version major minor, c)
    else unexpected directiveContext start "a digit or ' '" c.peek c

/-- Read a handle and what it stands for. -/
def readHandleMeaning (start : Mark) : Reader Directive := fun c => do
  let (handle, c) ← readHandle "directive" start (c.skip (· == ' '))
  if c.peek != ' ' then unexpected directiveContext start "' '" c.peek c
  else
    let (lead, c) ← readTagText "directive" start (c.skip (· == ' '))
    if isGap c.peek then .ok (.handle handle lead, c)
    else unexpected directiveContext start "' '" c.peek c

/-- Read the rest of a line, which may hold a comment. -/
def readLineRest (context : String) (start : Mark) : Reader Unit := fun c =>
  let c := (c.skip (· == ' ')).skipComment
  if isBreakOrEnd c.peek then .ok ((), c.lineBreak.2)
  else unexpected context start "a comment or a line break" c.peek c

/-- Read a directive to the end of its line: what it says and where that ends. -/
def readDirective : Reader (Directive × Mark) := fun c => do
  let start := c.mark
  let expected := "alphabetic or numeric character"
  let (name, c) := c.next.span isNameChar
  if name.isEmpty || !isGap c.peek then unexpected directiveContext start expected c.peek c
  else
    let (directive, after) ←
      if name = "YAML".toList then readVersion start c
      else if name = "TAG".toList then readHandleMeaning start c
      else .ok (.other, c)
    let stop := after.mark
    let line := if directive = .other then after.skip (!isBreakOrEnd ·) else after
    let (_, c) ← readLineRest directiveContext start line
    .ok ((directive, stop), c)

end DefectScan.Yaml
