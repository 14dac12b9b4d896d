import DefectScan.Text.Glyph
import DefectScan.Yaml.Cursor

/-!
# Tokens of rule files

The tokens that a text is cut into. Block structure, which the text shows by indentation, appears
as tokens that open and close a block.
-/

namespace DefectScan.Yaml

/-- An instruction before a document. -/
inductive Directive where
  /-- The version of the format. -/
  | version (major minor : Nat)
  /-- What a tag handle stands for. -/
  | handle (handle lead : List Char)
  /-- Anything else. -/
  | other
  deriving DecidableEq, Repr, Inhabited

/-- What a token is. -/
inductive TokenKind where
  | streamEnd
  | directive (d : Directive)
  | documentStart
  | documentEnd
  | blockSequenceStart
  | blockMappingStart
  | blockEnd
  | flowSequenceStart
  | flowSequenceEnd
  | flowMappingStart
  | flowMappingEnd
  | flowEntry
  | blockEntry
  | key
  | value
  | alias (name : List Char)
  | anchor (name : List Char)
  | tag (handle : Option (List Char)) (suffix : List Char)
  | scalar (text : List Text.Glyph) (isPlain : Bool)
  deriving DecidableEq, Repr, Inhabited

/-- A token. -/
structure Token where
  /-- What it is. -/
  kind : TokenKind
  /-- Where it begins. -/
  start : Mark
  /-- Where it ends. -/
  stop : Mark
  deriving DecidableEq, Repr, Inhabited

/-- How a token is called in messages. -/
def TokenKind.label : TokenKind → String
  | .streamEnd => "<stream end>"
  | .directive _ => "<directive>"
  | .documentStart => "<document start>"
  | .documentEnd => "<document end>"
  | .blockSequenceStart => "<block sequence start>"
  | .blockMappingStart => "<block mapping start>"
  | .blockEnd => "<block end>"
  | .flowSequenceStart => "["
  | .flowSequenceEnd => "]"
  | .flowMappingStart => "\x7b"
  | .flowMappingEnd => "\x7d"
  | .flowEntry => ","
  | .blockEntry => "-"
  | .key => "?"
  | .value => ":"
  | .alias _ => "<alias>"
  | .anchor _ => "<anchor>"
  | .tag _ _ => "<tag>"
  | .scalar _ _ => "<scalar>"

/-- The name of a token between quotes. -/
def Token.shown (t : Token) : String := "'" ++ t.kind.label ++ "'"

end DefectScan.Yaml
