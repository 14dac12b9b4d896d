/-!
# Binary floating-point numbers

Numbers with 53 binary digits and an exponent of eleven bits, as exact integers. A ratio is rounded
to the nearest of them, a tie to the even one, and every operation is that rounding of the exact
result. The shortest decimal of a number is found on the coarsest decimal grid on which one of its
two neighbours reads back as the number.
-/

namespace DefectScan.Number

/-- A floating-point number. -/
inductive Binary64 where
  /-- Zero or a finite number: the mantissa times two to the exponent. -/
  | finite (isNegative : Bool) (mantissa : Nat) (exponent : Int)
  | infinite (isNegative : Bool)
  | notANumber
  deriving DecidableEq, Repr, Inhabited

namespace Binary64

/-- The quotient rounded to the nearest integer, a tie to the even one. -/
def roundDiv (num den : Nat) : Nat :=
  let q := num / den
  let twice := 2 * (num % den)
  if twice < den then q
  else if den < twice then q + 1
  else q + q % 2

/-- The ratio divided by two to the exponent, as a ratio. -/
def scale (num den : Nat) (exponent : Int) : Nat × Nat :=
  if exponent < 0 then (num * Nat.pow 2 exponent.natAbs, den)
  else (num, den * Nat.pow 2 exponent.natAbs)

/-- The least exponent. -/
def minExponent : Int := -1074

/-- The greatest exponent. -/
def maxExponent : Int := 971

/-- The exponent with which the ratio has 53 binary digits, or the least one. -/
def exponentFor (num den : Nat) : Int :=
  let guess : Int := max ((Nat.log2 num : Int) - Nat.log2 den - 53) minExponent
  let (n, d) := scale num den guess
  if Nat.pow 2 53 ≤ n / d then guess + 1 else guess

/-- The number nearest to a ratio. -/
def ofRatio (isNegative : Bool) (num den : Nat) : Binary64 :=
  if num = 0 then .finite isNegative 0 minExponent
  else
    let e := exponentFor num den
    let (n, d) := scale num den e
    let m := roundDiv n d
    let (m, e) := if m = Nat.pow 2 53 then (Nat.pow 2 52, e + 1) else (m, e)
    if maxExponent < e then .infinite isNegative else .finite isNegative m e

/-- The number nearest to a decimal: the given digits, as an integer, times ten to the exponent. -/
def ofDecimal (isNegative : Bool) (digits : Nat) (exponent : Int) : Binary64 :=
  let size : Int := (Nat.toDigits 10 digits).length + exponent
  if digits = 0 || size < -400 then .finite isNegative 0 minExponent
  else if 400 < size then .infinite isNegative
  else if exponent < 0 then ofRatio isNegative digits (Nat.pow 10 exponent.natAbs)
  else ofRatio isNegative (digits * Nat.pow 10 exponent.natAbs) 1

/-- The mantissa and exponent as a ratio. -/
def ratio (mantissa : Nat) (exponent : Int) : Nat × Nat :=
  if exponent < 0 then (mantissa, Nat.pow 2 exponent.natAbs)
  else (mantissa * Nat.pow 2 exponent.natAbs, 1)

/-- The number with the other sign. -/
def neg : Binary64 → Binary64
  | .finite s m e => .finite (!s) m e
  | .infinite s => .infinite (!s)
  | .notANumber => .notANumber

/-- The number nearest to the sum of two. -/
def add : Binary64 → Binary64 → Binary64
  | .finite s m e, .finite s' m' e' =>
    let (a, b) := ratio m e
    let (c, d) := ratio m' e'
    let signed (isNegative : Bool) (n : Nat) : Int := if isNegative then -(n : Int) else n
    let sum := signed s (a * d) + signed s' (c * b)
    if sum = 0 then ofRatio (s && s') 0 1 else ofRatio (sum < 0) sum.natAbs (b * d)
  | .notANumber, _ | _, .notANumber => .notANumber
  | .infinite s, .infinite s' => if s = s' then .infinite s else .notANumber
  | .infinite s, _ | _, .infinite s => .infinite s

/-- The number nearest to the product of one and an integer, which is rounded to a number first. -/
def mulNat (x : Binary64) (n : Nat) : Binary64 :=
  match x, ofRatio false n 1 with
  | .finite s m e, .finite _ m' e' =>
    let (a, b) := ratio m e
    let (c, d) := ratio m' e'
    ofRatio s (a * c) (b * d)
  | .notANumber, _ => .notANumber
  | .finite s _ _, _ | .infinite s, _ => .infinite s

/-- The integer part of a finite number. -/
def truncate? : Binary64 → Option Int
  | .finite isNegative m e =>
    let (num, den) := ratio m e
    let n : Int := (num / den : Nat)
    some (if isNegative then -n else n)
  | _ => none

/-- The integer that a number is equal to. -/
def integer? : Binary64 → Option Int
  | .finite isNegative m e =>
    let (num, den) := ratio m e
    let n : Int := (num / den : Nat)
    if num % den = 0 then some (if isNegative then -n else n) else none
  | _ => none

/-! ### Shortest decimals -/

/-- A decimal: an integer times a power of ten. -/
structure Decimal where
  /-- The digits of the integer. -/
  digits : Nat
  /-- The exponent of ten. -/
  exponent : Int
  deriving DecidableEq, Repr, Inhabited

/-- How many digits of a positive ratio stand before the point; below one, the zeros after the
point count as negative. -/
def decimalExponent (num den : Nat) : Int :=
  if den ≤ num then (Nat.toDigits 10 (num / den)).length
  else
    match (List.range 400).find? fun k => den ≤ num * Nat.pow 10 (k + 1) with
    | some zeros => -(zeros : Int)
    | none => -400

/-- Whether a decimal on the grid with the given exponent reads back as the number. -/
def readsBack (x : Binary64) (digits : Nat) (exponent : Int) : Bool :=
  ofDecimal false digits exponent = x

/-- The decimal with the fewest digits that reads back as the positive number, and of those the
nearest to it, trying grids of `count` and more digits. -/
def shortestFrom (x : Binary64) (num den : Nat) (point : Int) : (count fuel : Nat) → Decimal
  | count, 0 => ⟨num / den, count⟩
  | count, fuel + 1 =>
    let e := point - count
    let (n, d) :=
      if e < 0 then (num * Nat.pow 10 e.natAbs, den) else (num, den * Nat.pow 10 e.natAbs)
    let low := n / d
    let isLowNear := 2 * (n % d) < d || (2 * (n % d) == d && low % 2 == 0)
    let near := if isLowNear then low else low + 1
    let far := if isLowNear then low + 1 else low
    if readsBack x near e then ⟨near, e⟩
    else if readsBack x far e then ⟨far, e⟩
    else shortestFrom x num den point (count + 1) fuel

/-- The shortest decimal of a positive number. -/
def shortest (mantissa : Nat) (exponent : Int) : Decimal :=
  let (num, den) := ratio mantissa exponent
  shortestFrom (.finite false mantissa exponent) num den (decimalExponent num den) 1 17

/-! ### Writing -/

/-- How numbers are written: positional as long as the point is not too far away, always with a
digit after the point, and otherwise with an exponent of at least two digits. -/
structure Format where
  /-- The least place of the point, counted from the first digit, for positional writing. -/
  lowest : Int
  /-- The greatest place of the point for positional writing. -/
  highest : Int
  /-- The fewest digits of an exponent. -/
  exponentDigits : Nat

/-- The format of messages. -/
def messageFormat : Format where
  lowest := -3
  highest := 16
  exponentDigits := 2

/-- The digits of an integer with zeros in front up to the width. -/
def padded (width n : Nat) : List Char :=
  let digits := Nat.toDigits 10 n
  List.replicate (width - digits.length) '0' ++ digits

/-- Digits written positionally, where `point` digits stand before the point. -/
def positional (digits : List Char) (point : Int) : List Char :=
  if point ≤ 0 then '0' :: '.' :: List.replicate point.natAbs '0' ++ digits
  else
    let n := point.toNat
    if digits.length ≤ n then digits ++ List.replicate (n - digits.length) '0' ++ ['.', '0']
    else digits.take n ++ '.' :: digits.drop n

/-- Digits written with an exponent, where `point` digits stand before the point. -/
def scientific (format : Format) (digits : List Char) (point : Int) : List Char :=
  let e := point - 1
  let fraction := if digits.length ≤ 1 then [] else '.' :: digits.drop 1
  digits.take 1 ++ fraction ++ 'e' :: (if e < 0 then '-' else '+') ::
    padded format.exponentDigits e.natAbs

/-- The number as text. -/
def write (format : Format) : Binary64 → List Char
  | .notANumber => "nan".toList
  | .infinite isNegative => (if isNegative then "-inf" else "inf").toList
  | .finite isNegative m e =>
    let text :=
      if m = 0 then "0.0".toList
      else
        let d := shortest m e
        let all := Nat.toDigits 10 d.digits
        let point := all.length + d.exponent
        let digits := (all.reverse.dropWhile (· == '0')).reverse
        if format.lowest ≤ point && point ≤ format.highest then positional digits point
        else scientific format digits point
    if isNegative then '-' :: text else text

end Binary64

end DefectScan.Number
