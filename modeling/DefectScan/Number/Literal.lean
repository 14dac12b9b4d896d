import DefectScan.Number.Binary64
import DefectScan.Text.Digit
import DefectScan.Text.Glyph

/-!
# Written numbers

Integers and floating-point numbers as they are written: blanks around them do not count, a sign may
come first, the digits may be of any script, and an underscore may stand between two digits. An
integer whose base is no power of two may not have too many digits, neither read nor written.
-/

namespace DefectScan.Number

open Text (Glyph)

/-- A blank that may surround a number. -/
def isOuterBlank (c : Char) : Bool :=
  if c.toNat < 128 then c == ' ' || ('\t' ≤ c && c ≤ '\r') else Text.isBlank c

/-- The text without the blanks around it. -/
def withoutBlanks (s : List Char) : List Char :=
  ((s.dropWhile isOuterBlank).reverse.dropWhile isOuterBlank).reverse

/-- The sign of a number and what follows it. -/
def readSign : List Char → Bool × List Char
  | '-' :: s => (true, s)
  | '+' :: s => (false, s)
  | s => (false, s)

/-- The value of a digit in a base. -/
def digitValue? (base : Nat) (c : Char) : Option Nat :=
  let value :=
    match Text.decimalValue? c with
    | some v => some v
    | none =>
      if 'a' ≤ c && c ≤ 'z' then some (c.toNat - 'a'.toNat + 10)
      else if 'A' ≤ c && c ≤ 'Z' then some (c.toNat - 'A'.toNat + 10)
      else none
  value.filter (· < base)

/-- The value of digits with single underscores between them, where `value` was read before and
`needsDigit` says that a digit has to follow. -/
def readDigits (base : Nat) (value : Nat) (needsDigit : Bool) : List Char → Option Nat
  | [] => if needsDigit then none else some value
  | c :: s =>
    if c = '_' then if needsDigit then none else readDigits base value true s
    else
      match digitValue? base c with
      | some v => readDigits base (value * base + v) false s
      | none => none

/-- Why a text stands for no integer. -/
inductive IntegerFault where
  /-- It is not written like one. -/
  | malformed
  /-- It has too many digits. -/
  | tooLong (digits : Nat)
  deriving DecidableEq, Repr, Inhabited

/-- The most digits that an integer may be written with. -/
def maxDigits : Nat := 4300

/-- The message about an integer with too many digits, where it is known how many there are. -/
def tooManyDigits (digits : Option Nat) : String :=
  "Exceeds the limit (" ++ toString maxDigits ++ " digits) for integer string conversion" ++
    ((digits.map fun n => ": value has " ++ toString n ++ " digits").getD "") ++
    "; use sys.set_int_max_str_digits() to increase the limit"

/-- The letter that marks the digits of a base. -/
def baseMark? : Nat → Option Char
  | 2 => some 'b'
  | 8 => some 'o'
  | 16 => some 'x'
  | _ => none

/-- What follows the mark of the base, if there is one. -/
def afterBaseMark (base : Nat) : List Char → List Char
  | '0' :: c :: s =>
    if (baseMark? base).any fun mark => c = mark || c = mark.toUpper then
      if s.head? = some '_' then s.drop 1 else s
    else '0' :: c :: s
  | s => s

/-- The integer that a text stands for. Too many digits are too many whatever follows them. -/
def integer (base : Nat) (text : List Char) : Except IntegerFault Int :=
  let (isNegative, s) := readSign (withoutBlanks text)
  let s := afterBaseMark base s
  let run := s.takeWhile fun c => c = '_' || (digitValue? base c).isSome
  let count := (run.filter (· ≠ '_')).length
  if (baseMark? base).isNone && maxDigits < count && (readDigits base 0 true run).isSome then
    .error (.tooLong count)
  else
    match readDigits base 0 true s with
    | some n => .ok (if isNegative then -(n : Int) else n)
    | none => .error .malformed

/-- How much of a text is shown when it is no integer. -/
def shownLimit : Nat := 200

/-- The message about a text that is no integer. -/
def IntegerFault.message (base : Nat) (shown : List Char) : IntegerFault → String
  | .malformed =>
    "invalid literal for int() with base " ++ toString base ++ ": " ++
      String.ofList (shown.take shownLimit)
  | .tooLong digits => tooManyDigits (some digits)

/-- The integer that a text stands for, or the message that it is none. -/
def readInteger (base : Nat) (text : List Glyph) : Except String Int :=
  (integer base (Glyph.toChars text)).mapError (IntegerFault.message base (Glyph.quoted text))

/-- An integer as it is written, if it has not too many digits. -/
def writtenInteger? (n : Int) : Option (List Char) :=
  let digits := Nat.toDigits 10 n.natAbs
  if maxDigits < digits.length then none else some (if n < 0 then '-' :: digits else digits)

/-! ### Floating-point numbers -/

/-- The decimal digits at the start of a text, and what follows them. -/
def spanDigits (s : List Char) : List Nat × List Char :=
  (s.takeWhile (Text.decimalValue? · |>.isSome) |>.filterMap Text.decimalValue?,
    s.dropWhile (Text.decimalValue? · |>.isSome))

/-- The integer with the given digits. -/
def ofDigits (digits : List Nat) : Nat := digits.foldl (fun n d => n * 10 + d) 0

/-- The exponent that a text stands for; no text stands for zero. -/
def readExponent? : List Char → Option Int
  | [] => some 0
  | c :: s =>
    if c = 'e' || c = 'E' then
      let (isNegative, s) := readSign s
      let (digits, rest) := spanDigits s
      if digits.isEmpty || !rest.isEmpty then none
      else some (if isNegative then -(ofDigits digits : Int) else ofDigits digits)
    else none

/-- The floating-point number that a text in small letters stands for. -/
def real? (text : List Char) : Option Binary64 :=
  let (isNegative, s) := readSign (withoutBlanks text)
  if s = "inf".toList || s = "infinity".toList then some (.infinite isNegative)
  else if s = "nan".toList then some .notANumber
  else
    let (whole, s) := spanDigits s
    let (fraction, s) :=
      match s with
      | '.' :: s => spanDigits s
      | _ => ([], s)
    if whole.isEmpty && fraction.isEmpty then none
    else
      (readExponent? s).map fun e =>
        .ofDecimal isNegative (ofDigits (whole ++ fraction)) (e - fraction.length)

/-- The floating-point number that a text in small letters stands for, or the message that it is
none. -/
def readReal (text : List Glyph) : Except String Binary64 :=
  match real? (Glyph.toChars text) with
  | some x => .ok x
  | none => .error ("could not convert string to float: " ++ String.ofList (Glyph.quoted text))

end DefectScan.Number
