import DefectScan.Text.Quoted

/-!
# Glyphs

A text can be written by the codes of its characters. Some codes are meant to be used in pairs,
and one of them alone stands for no character. A glyph is a character or such a half of a pair.
-/

namespace DefectScan.Text

/-- A character, or one half of a pair that only together stands for a character. -/
inductive Glyph where
  | char (c : Char)
  | half (code : Nat)
  deriving DecidableEq, Repr, Inhabited

namespace Glyph

/-- The glyph with a code. -/
def ofCode (code : Nat) : Glyph :=
  if 0xD800 ≤ code && code ≤ 0xDFFF then .half code else .char (Char.ofNat code)

/-- A text without halves. -/
def ofChars (s : List Char) : List Glyph := s.map .char

/-- The character of a glyph; a half is replaced by a character that is never part of a word or a
number. -/
def toChar : Glyph → Char
  | .char c => c
  | .half _ => '\ufffd'

/-- The characters of a text, with replacements for its halves. -/
def toChars (s : List Glyph) : List Char := s.map toChar

/-- A glyph by its code. -/
def codeEscape : Glyph → List Char
  | .char c => Text.codeEscape c
  | .half code => '\\' :: 'u' :: hexDigits 4 code

/-- How a glyph is written between the given quotes. -/
def escaped (quote : Char) : Glyph → List Char
  | .char c => Text.escaped quote c
  | .half code => codeEscape (.half code)

/-- The text between quotes. -/
def quoted (s : List Glyph) : List Char :=
  let quote := quoteFor (toChars s)
  quote :: s.flatMap (escaped quote) ++ [quote]

end Glyph

end DefectScan.Text
