import DefectScan.Grammar.Pattern
import DefectScan.Grammar.Shape

/-!
# Classes of tokens and grammars

Besides its marks a grammar has classes of tokens, given by a pattern or as a list of words. Where
the tokens of several classes begin at one place, the class of higher rank is taken, and among
equals the longest token. A grammar puts the classes of tokens and the rules together.
-/

namespace DefectScan.Grammar

/-- Where the tokens of a class are looked for. -/
inductive Reach where
  /-- Wherever they may stand, also while searching for a place to go on after an error. -/
  | anywhere
  /-- Only where a rule asks for one. -/
  | asked
  /-- Only where a rule asks for one, right after the token before. -/
  | adjacent
  deriving DecidableEq, Repr, Inhabited

/-- A class of tokens. -/
structure Lexeme where
  /-- The name that shapes refer to. -/
  name : String
  /-- The kind of node it is shown as, if it is shown. -/
  kind : Option String := some name
  /-- Whether the node is more than punctuation. -/
  isNamed : Bool := true
  /-- The texts of its tokens. -/
  pattern : Pattern := .nothing
  /-- Words that belong to the class. -/
  words : List String := []
  /-- Its rank among classes that fit at one place. -/
  rank : Int := 0
  /-- Where its tokens are looked for. -/
  reach : Reach := .anywhere

/-- A grammar. -/
structure Rulebook where
  /-- The rule for a whole text. -/
  start : String
  /-- The class of names. A name that is spelled like a mark is that mark where the mark may
  stand. -/
  name : Lexeme
  /-- The comments, which may stand between any two tokens. -/
  comment : Lexeme
  /-- The other classes of tokens. -/
  lexemes : List Lexeme
  /-- Groups of tokens that begin alike, so that only what is asked for at a place tells them
  apart. -/
  lookalikes : List (List String)
  /-- The rules. -/
  rules : List Rule

end DefectScan.Grammar
