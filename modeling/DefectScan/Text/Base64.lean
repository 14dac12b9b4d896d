/-!
# Bytes written in sixty-four characters

Four characters stand for three bytes. Characters outside of the alphabet are passed over, and
equals signs fill up the last four.
-/

namespace DefectScan.Text

/-- The value of a character of the alphabet. -/
def base64Value? (c : Char) : Option Nat :=
  if 'A' ≤ c && c ≤ 'Z' then some (c.toNat - 'A'.toNat)
  else if 'a' ≤ c && c ≤ 'z' then some (c.toNat - 'a'.toNat + 26)
  else if c.isDigit then some (c.toNat - '0'.toNat + 52)
  else if c = '+' then some 62
  else if c = '/' then some 63
  else none

/-- The message about characters that stand for no bytes, after `count` whole bytes and `position`
characters of the next four. -/
def base64Fault (position count : Nat) : String :=
  if position = 1 then
    "Invalid base64-encoded string: number of data characters (" ++ toString (count / 3 * 4 + 1) ++
      ") cannot be 1 more than a multiple of 4"
  else "Incorrect padding"

/-- The bytes that characters stand for. `position` characters of the current four were read, whose
bits not yet used are `left`; `pads` equals signs followed them, and `count` bytes are whole. -/
def base64Bytes (position left pads count : Nat) : List Char → Except String (List UInt8)
  | [] => if position = 0 then .ok [] else .error (base64Fault position count)
  | c :: s =>
    if c = '=' then
      if 2 ≤ position && 4 ≤ position + (pads + 1) then .ok []
      else base64Bytes position left (if 2 ≤ position then pads + 1 else pads) count s
    else
      match base64Value? c with
      | none => base64Bytes position left pads count s
      | some v =>
        match position with
        | 0 => base64Bytes 1 v 0 count s
        | 1 => (base64Bytes 2 (v % 16) 0 (count + 1) s).map ((left * 4 + v / 16).toUInt8 :: ·)
        | 2 => (base64Bytes 3 (v % 4) 0 (count + 1) s).map ((left * 16 + v / 4).toUInt8 :: ·)
        | _ => (base64Bytes 0 0 0 (count + 1) s).map ((left * 64 + v).toUInt8 :: ·)

/-- The bytes that a text stands for. -/
def ofBase64 (s : List Char) : Except String (List UInt8) := base64Bytes 0 0 0 0 s

end DefectScan.Text
