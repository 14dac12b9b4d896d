/-!
# Texts as bytes

Encoding a text in UTF-8, and decoding bytes that may be damaged. A damaged sequence is as long as
it could still have been the beginning of a character; the lossy decoder writes a replacement
character for it, the strict one refuses.
-/

namespace DefectScan.Text

/-- The UTF-8 bytes of a text. -/
def utf8 (s : List Char) : List UInt8 := s.flatMap String.utf8EncodeChar

/-- How many bytes follow a lead byte, if it is one. -/
def followers? (lead : UInt8) : Option Nat :=
  if lead < 0x80 then some 0
  else if lead < 0xC2 then none
  else if lead < 0xE0 then some 1
  else if lead < 0xF0 then some 2
  else if lead < 0xF5 then some 3
  else none

/-- Whether a byte can follow a lead byte directly. The bounds leave out overlong forms,
surrogates and code points that are too large. -/
def isSecond (lead b : UInt8) : Bool :=
  (if lead = 0xE0 then 0xA0 else if lead = 0xF0 then 0x90 else 0x80) ≤ b &&
    b ≤ if lead = 0xED then 0x9F else if lead = 0xF4 then 0x8F else 0xBF

/-- Whether a byte can continue a character. -/
def isContinuation (b : UInt8) : Bool := 0x80 ≤ b && b ≤ 0xBF

/-- The bytes, at most `count`, that continue the character of a lead byte. -/
def continuation (lead : UInt8) (count : Nat) : List UInt8 → List UInt8
  | [] => []
  | b :: bytes =>
    if count = 0 || !isSecond lead b then []
    else b :: (bytes.take (count - 1)).takeWhile isContinuation

/-- The payload bits of a lead byte with the given number of followers. -/
def leadBits (lead : UInt8) (count : Nat) : Nat :=
  match count with
  | 0 => lead.toNat
  | 1 => lead.toNat % 0x20
  | 2 => lead.toNat % 0x10
  | _ => lead.toNat % 0x08

/-- The character at a lead byte, none if the sequence is damaged, and how many bytes after the
lead byte belong to it. -/
def decodeFirst (lead : UInt8) (bytes : List UInt8) : Option Char × Nat :=
  match followers? lead with
  | none => (none, 0)
  | some count =>
    let more := continuation lead count bytes
    if more.length = count then
      (some (Char.ofNat (more.foldl (fun n b => n * 0x40 + b.toNat % 0x40) (leadBits lead count))),
        count)
    else (none, more.length)

/-- The characters of a byte sequence in order, none for each damaged part. -/
def decoded : List UInt8 → List (Option Char)
  | [] => []
  | lead :: bytes =>
    let first := decodeFirst lead bytes
    first.1 :: decoded (bytes.drop first.2)
  termination_by bytes => bytes.length

/-- The text of a byte sequence, with a replacement character for each damaged part. -/
def ofUtf8Lossy (bytes : List UInt8) : List Char :=
  (decoded bytes).map fun c => c.getD '\uFFFD'

/-! ### Damage -/

/-- What is wrong with a damaged part. -/
inductive DamageKind where
  /-- It begins with a byte that begins no character. -/
  | badStart
  /-- A byte follows that does not continue the character. -/
  | badContinuation
  /-- The bytes end within a character. -/
  | truncated
  deriving DecidableEq, Repr, Inhabited

/-- A part of a byte sequence that is no text. -/
structure Damage where
  /-- How many bytes stand before it. -/
  position : Nat
  /-- Its first byte. -/
  lead : UInt8
  /-- How many bytes follow the first one in it. -/
  more : Nat
  /-- What is wrong with it. -/
  kind : DamageKind
  deriving DecidableEq, Repr, Inhabited

/-- What is wrong with a damaged part that begins with `lead`, of which `bytes` follow. -/
def damageKind (lead : UInt8) (bytes : List UInt8) : DamageKind :=
  match followers? lead with
  | none => .badStart
  | some count =>
    if (continuation lead count bytes).length = bytes.length then .truncated else .badContinuation

/-- The first damaged part, where `position` bytes were read before. -/
def firstDamage? (position : Nat) : List UInt8 → Option Damage
  | [] => none
  | lead :: bytes =>
    let first := decodeFirst lead bytes
    if first.1.isNone then some ⟨position, lead, first.2, damageKind lead bytes⟩
    else firstDamage? (position + 1 + first.2) (bytes.drop first.2)
  termination_by bytes => bytes.length

/-- The text of a byte sequence, or its first damaged part. -/
def ofUtf8 (bytes : List UInt8) : Except Damage (List Char) :=
  match firstDamage? 0 bytes with
  | some damage => .error damage
  | none => .ok (ofUtf8Lossy bytes)

/-- Two hexadecimal digits. -/
def hexByte (b : UInt8) : String :=
  let digits := Nat.toDigits 16 b.toNat
  if b < 16 then "0" ++ String.ofList digits else String.ofList digits

/-- The reason given for a damaged part. -/
def DamageKind.reason : DamageKind → String
  | .badStart => "invalid start byte"
  | .badContinuation => "invalid continuation byte"
  | .truncated => "unexpected end of data"

/-- The message about a damaged part. -/
def Damage.message (d : Damage) : String :=
  let place :=
    if d.more = 0 then "byte 0x" ++ hexByte d.lead ++ " in position " ++ toString d.position
    else "bytes in position " ++ toString d.position ++ "-" ++ toString (d.position + d.more)
  "'utf-8' codec can't decode " ++ place ++ ": " ++ d.kind.reason

end DefectScan.Text
