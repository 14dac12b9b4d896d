import DefectScan.Yaml.Cursor

/-!
# Tags

A tag says what kind of value a node stands for. A plain scalar without a tag gets one from the
way it is written: numbers, truth values, dates and the empty scalar are recognised, and all else
is text.
-/

namespace DefectScan.Yaml

/-- What kind of value a node stands for. -/
inductive Tag where
  | null
  | bool
  | int
  | float
  | binary
  | timestamp
  | omap
  | pairs
  | set
  | str
  | seq
  | map
  /-- The key that merges other mappings. -/
  | merge
  /-- The key of a default value. -/
  | value
  /-- Any other kind. -/
  | other (text : List Char)
  deriving DecidableEq, Repr, Inhabited

namespace Tag

/-- Whether a key has a meaning of its own: it merges other mappings or gives a default value. -/
def isReserved (tag : Tag) : Bool := tag matches .merge | .value

/-- What the tags of the common kinds begin with. -/
def common : String := "tag:yaml.org,2002:"

/-- The tag as text. -/
def text : Tag → String
  | .null => common ++ "null"
  | .bool => common ++ "bool"
  | .int => common ++ "int"
  | .float => common ++ "float"
  | .binary => common ++ "binary"
  | .timestamp => common ++ "timestamp"
  | .omap => common ++ "omap"
  | .pairs => common ++ "pairs"
  | .set => common ++ "set"
  | .str => common ++ "str"
  | .seq => common ++ "seq"
  | .map => common ++ "map"
  | .merge => common ++ "merge"
  | .value => common ++ "value"
  | .other text => String.ofList text

/-- The common kinds. -/
def commonTags : List Tag :=
  [.null, .bool, .int, .float, .binary, .timestamp, .omap, .pairs, .set, .str, .seq, .map, .merge,
    .value]

/-- The tag with the given text. -/
def ofText (s : List Char) : Tag :=
  (commonTags.find? fun t => t.text.toList = s).getD (.other s)

/-! ### Ways of writing -/

/-- The words for truth values, in small letters. -/
def truthWords : List (String × Bool) :=
  [("yes", true), ("no", false), ("true", true), ("false", false), ("on", true), ("off", false)]

/-- Whether a word is written in small letters, in capitals, or with one capital. -/
def isInCase (word : String) (s : List Char) : Bool :=
  let small := word.toList
  let capital := small.map Char.toUpper
  s == small || s == capital || s == capital.take 1 ++ small.drop 1

/-- A word for a truth value. -/
def isTruthWord (s : List Char) : Bool := truthWords.any fun w => isInCase w.1 s

/-- A word for nothing. -/
def isNullWord (s : List Char) : Bool := s.isEmpty || s == ['~'] || isInCase "null" s

/-- A digit or an underscore. -/
def isLooseDigit (c : Char) : Bool := c.isDigit || c == '_'

/-- What follows a sign, if there is one. -/
def afterSign : List Char → List Char
  | '+' :: s => s
  | '-' :: s => s
  | s => s

/-- Sixtieths: colons, each with a number below sixty. What follows the last of them, if there is
at least one. -/
def afterSixtieths? : List Char → Option (List Char)
  | ':' :: a :: b :: s =>
    if '0' ≤ a && a ≤ '5' && b.isDigit then some ((afterSixtieths? s).getD s)
    else if a.isDigit then some ((afterSixtieths? (b :: s)).getD (b :: s))
    else none
  | [':', a] => if a.isDigit then some [] else none
  | _ => none
  termination_by s => s.length

/-- Whether the text is not empty and all its characters have the property. -/
def allOf (p : Char → Bool) (s : List Char) : Bool := !s.isEmpty && s.all p

/-- An integer: binary, octal, decimal, hexadecimal or in sixtieths. -/
def isInteger (text : List Char) : Bool :=
  match afterSign text with
  | ['0'] => true
  | '0' :: 'b' :: s => allOf (fun c => c == '0' || c == '1' || c == '_') s
  | '0' :: 'x' :: s => allOf (fun c => isHexDigit c || c == '_') s
  | '0' :: s => allOf (fun c => ('0' ≤ c && c ≤ '7') || c == '_') s
  | c :: s =>
    c.isDigit && (s.all isLooseDigit || afterSixtieths? (s.dropWhile isLooseDigit) == some [])
  | [] => false

/-- An exponent with its sign, or nothing. -/
def isExponent : List Char → Bool
  | [] => true
  | e :: sign :: s => (e == 'e' || e == 'E') && (sign == '+' || sign == '-') && allOf Char.isDigit s
  | _ => false

/-- A fraction after its point. -/
def isFraction (s : List Char) : Bool := isExponent (s.dropWhile isLooseDigit)

/-- A number with a point, or a word for one that has no digits. -/
def isReal (text : List Char) : Bool :=
  let unsigned := afterSign text
  let isInfinite :=
    match unsigned with
    | '.' :: s => ["inf", "Inf", "INF"].any (·.toList == s)
    | _ => false
  let isNaN := [".nan", ".NaN", ".NAN"].any (·.toList == text)
  let isPointFirst :=
    match text with
    | '.' :: c :: s => c.isDigit && isFraction s
    | _ => false
  let isDecimal :=
    match unsigned with
    | c :: s =>
      c.isDigit &&
        match s.dropWhile isLooseDigit with
        | '.' :: s => isFraction s
        | s =>
          match afterSixtieths? s with
          | some ('.' :: s) => s.all isLooseDigit
          | _ => false
    | [] => false
  isInfinite || isNaN || isPointFirst || isDecimal

end Tag

/-! ### Dates and times -/

/-- The parts of a written date, and of a time if there is one. -/
structure TimestampText where
  /-- Year, month and day. -/
  date : Nat × Nat × Nat
  /-- Hour, minute and second. -/
  time : Option (Nat × Nat × Nat) := none
  /-- The digits after the point of the second. -/
  fraction : List Char := []
  /-- The distance from universal time: whether it is negative, hours and minutes. -/
  zone : Option (Bool × Nat × Nat) := none
  deriving Repr, Inhabited

namespace TimestampText

/-- The value of decimal digits. -/
def number (digits : List Char) : Nat :=
  digits.foldl (fun n c => n * 10 + (c.toNat - '0'.toNat)) 0

/-- Read a number of at least `least` and at most `most` digits. -/
def digits? (least most : Nat) (s : List Char) : Option (Nat × List Char) :=
  let run := (s.take most).takeWhile Char.isDigit
  if run.length < least then none else some (number run, s.drop run.length)

/-- Read a sign. -/
def sign? (c : Char) : List Char → Option (List Char)
  | a :: s => if a = c then some s else none
  | [] => none

/-- Read the distance from universal time up to the end of the text, none if there is none. -/
def zone? (s : List Char) : Option (Option (Bool × Nat × Nat)) :=
  match s.dropWhile fun c => c == ' ' || c == '\t' with
  | [] => if s.isEmpty then some none else none
  | ['Z'] => some (some (false, 0, 0))
  | c :: s =>
    if c = '+' || c = '-' then do
      let (hours, s) ← digits? 1 2 s
      match s with
      | [] => some (some (c = '-', hours, 0))
      | _ =>
        let (minutes, s) ← digits? 2 2 (← sign? ':' s)
        if s.isEmpty then some (some (c = '-', hours, minutes)) else none
    else none

/-- Read the time that follows a date. -/
def time? (date : Nat × Nat × Nat) (s : List Char) : Option TimestampText := do
  let s ←
    match s with
    | 'T' :: s => some s
    | 't' :: s => some s
    | _ =>
      let after := s.dropWhile fun c => c == ' ' || c == '\t'
      if after.length < s.length then some after else none
  let (hour, s) ← digits? 1 2 s
  let (minute, s) ← digits? 2 2 (← sign? ':' s)
  let (second, s) ← digits? 2 2 (← sign? ':' s)
  let (fraction, s) :=
    match s with
    | '.' :: s => (s.takeWhile Char.isDigit, s.dropWhile Char.isDigit)
    | _ => ([], s)
  let zone ← zone? s
  some { date, time := some (hour, minute, second), fraction, zone }

/-- Read a date, with a time if there is one. -/
def read? (s : List Char) : Option TimestampText := do
  let (year, s) ← digits? 4 4 s
  let (month, s) ← digits? 1 2 (← sign? '-' s)
  let (day, s) ← digits? 1 2 (← sign? '-' s)
  if s.isEmpty then some { date := (year, month, day) }
  else time? (year, month, day) s

/-- Whether a plain scalar is a date. A date without a time needs two digits for the month and the
day. -/
def isWritten (s : List Char) : Bool :=
  match read? s with
  | some t => t.time.isSome || s.length == 10
  | none => false

end TimestampText

namespace Tag

/-- The text without a line end after it. -/
def withoutBreak (s : List Char) : List Char := if s.getLast? = some '\n' then s.dropLast else s

/-- The tag of a scalar that is known by nothing but its text. A line end after other text does not
count. -/
def ofPlain (text : List Char) : Tag :=
  let s := if text = ['\n'] then text else withoutBreak text
  if isTruthWord s then .bool
  else if isReal s then .float
  else if isInteger s then .int
  else if s == ['<', '<'] then .merge
  else if isNullWord s then .null
  else if TimestampText.isWritten s then .timestamp
  else if s == ['='] then .value
  else if s == ['!'] || s == ['&'] || s == ['*'] then .other (common ++ "yaml").toList
  else .str

end Tag

end DefectScan.Yaml
