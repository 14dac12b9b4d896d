import DefectScan.Calendar
import DefectScan.Number.Literal
import DefectScan.Text.Utf8

/-!
# Values

What a document stands for, and how values are written in messages. Collections are numbered, and
a value refers to them by number: the same collection can occur at several places, also within
itself. Texts are quoted inside of other values and stand for themselves alone.
-/

namespace DefectScan.Yaml

open Text (Glyph)

/-- A value. -/
inductive Value where
  | null
  | bool (b : Bool)
  | int (n : Int)
  | real (x : Number.Binary64)
  /-- No number, as written by its own word or else at some node. -/
  | notANumber (origin : Option Nat)
  | text (s : List Glyph)
  | bytes (data : List UInt8)
  | date (d : Date)
  | moment (m : Moment)
  /-- One entry of an ordered mapping. -/
  | pair (key value : Value)
  /-- The collection of a number. -/
  | collection (n : Nat)
  deriving Inhabited

/-- Several values together. -/
inductive Collection where
  | list (items : List Value)
  /-- A mapping, its keys in the order in which they were first given. -/
  | mapping (pairs : List (Value × Value))
  | set (items : List Value)
  deriving Inhabited

/-- The value of a document, and the collections in it. -/
structure Data where
  /-- The value of the whole. -/
  root : Value
  /-- The collections, by number. -/
  collections : Array Collection := #[]
  deriving Inhabited

/-- The collection that a value refers to. -/
def Data.collection? (d : Data) : Value → Option Collection
  | .collection n => d.collections[n]?
  | _ => none

/-- Whether a value counts as nothing: none, false, zero and everything empty. -/
def Data.isBlank (d : Data) (v : Value) : Bool :=
  match v with
  | .null => true
  | .bool b => !b
  | .int n => n == 0
  | .real (.finite _ m _) => m == 0
  | .text s => s.isEmpty
  | .bytes data => data.isEmpty
  | _ =>
    match d.collection? v with
    | some (.list items) => items.isEmpty
    | some (.mapping pairs) => pairs.isEmpty
    | some (.set items) => items.isEmpty
    | none => false

namespace Value

/-- Whether a value can be a key. -/
def isKey : Value → Bool
  | .collection _ => false
  | _ => true

/-- The integer that a value is equal to. -/
def integer? : Value → Option Int
  | .bool b => some (if b then 1 else 0)
  | .int n => some n
  | .real x => x.integer?
  | _ => none

/-- Whether two keys are the same. Numbers are the same when they are equal, and truth values
count as zero and one. What is no number is the same only as itself. -/
def sameKey (a b : Value) : Bool :=
  match a.integer?, b.integer? with
  | some m, some n => m == n
  | none, none =>
    match a, b with
    | .null, .null => true
    | .real x, .real y => x == y
    | .notANumber m, .notANumber n => m == n
    | .text s, .text t => s == t
    | .bytes s, .bytes t => s == t
    | .date d, .date e => d == e
    | .moment m, .moment n => m.isSame n
    | _, _ => false
  | _, _ => false

/-- Put a pair into a mapping. A key that is there keeps its place and gets the new value. -/
def putPair (key value : Value) : List (Value × Value) → List (Value × Value)
  | [] => [(key, value)]
  | p :: ps => if sameKey p.1 key then (p.1, value) :: ps else p :: putPair key value ps

/-- The value of a key that is a text. -/
def field? (name : String) (pairs : List (Value × Value)) : Option Value :=
  (pairs.find? fun p => sameKey p.1 (.text (Glyph.ofChars name.toList))).map Prod.snd

/-! ### Written values -/

/-- How a byte is written between the given quotes. -/
def shownByte (quote : Char) (b : UInt8) : List Char :=
  let c := Char.ofNat b.toNat
  if c = quote || c = '\\' || (' ' ≤ c && c ≤ '~') || c = '\n' || c = '\r' || c = '\t' then
    Text.escaped quote c
  else Text.codeEscape c

/-- Bytes between quotes, after a `b`. -/
def shownBytes (data : List UInt8) : List Char :=
  let quote := Text.quoteFor (data.map fun b => Char.ofNat b.toNat)
  'b' :: quote :: data.flatMap (shownByte quote) ++ [quote]

/-- Texts with a comma and a space between them. -/
def commas (texts : List (List Char)) : List Char := [',', ' '].intercalate texts

end Value

/-- Why a value cannot be written. -/
inductive WriteFault where
  /-- It has an integer with too many digits. -/
  | tooManyDigits
  /-- Values lie too deeply within each other. -/
  | tooDeep
  deriving DecidableEq, Repr, Inhabited

/-- How deeply values may lie within each other to be written. -/
def maxWrittenDepth : Nat := 993

namespace Data

/-- A value as it is written inside of the given collections, with so many levels left. A
collection inside of itself is not written again. -/
def shownIn (d : Data) : Nat → List Nat → Value → Except WriteFault (List Char)
  | 0, _, _ => .error .tooDeep
  | levels + 1, around, v =>
    match v with
    | .null => .ok "None".toList
    | .bool b => .ok (if b then "True" else "False").toList
    | .int n => (Number.writtenInteger? n).elim (.error .tooManyDigits) .ok
    | .real x => .ok (x.write Number.Binary64.messageFormat)
    | .notANumber _ => .ok (Number.Binary64.notANumber.write Number.Binary64.messageFormat)
    | .text s => .ok (Glyph.quoted s)
    | .bytes data => .ok (Value.shownBytes data)
    | .date day => .ok day.shown.toList
    | .moment m => .ok m.shown.toList
    | .pair key value => do
      let key ← shownIn d levels around key
      let value ← shownIn d levels around value
      .ok ('(' :: key ++ ',' :: ' ' :: value ++ [')'])
    | .collection n =>
      let isInside := around.contains n
      match d.collections.getD n (.list []) with
      | .list items =>
        if isInside then .ok "[...]".toList
        else do
          let texts ← items.mapM (shownIn d levels (n :: around))
          .ok ('[' :: Value.commas texts ++ [']'])
      | .mapping pairs =>
        if isInside then .ok "\x7b...\x7d".toList
        else do
          let texts ← pairs.mapM fun p => do
            let key ← shownIn d levels (n :: around) p.1
            let value ← shownIn d levels (n :: around) p.2
            .ok (key ++ ':' :: ' ' :: value)
          .ok ('{' :: Value.commas texts ++ ['}'])
      | .set items =>
        if items.isEmpty then .ok "set()".toList
        else do
          let texts ← items.mapM (shownIn d levels (n :: around))
          .ok ('{' :: Value.commas texts ++ ['}'])

/-- A value as it is written inside of others. -/
def shown (d : Data) (v : Value) : Except WriteFault (List Char) :=
  d.shownIn maxWrittenDepth [] v

/-- A value as it is written alone. -/
def plain (d : Data) : Value → Except WriteFault (List Char)
  | .text s => .ok (Glyph.toChars s)
  | .date day => .ok day.text.toList
  | .moment m => .ok m.text.toList
  | v => d.shown v

end Data

end DefectScan.Yaml
