/-!
# Patterns of characters

A pattern says which texts a class of tokens has. What a pattern still asks for after one more
character is a pattern again, so the longest prefix of a text that fits is found by following the
text character by character until nothing can fit any more.
-/

namespace DefectScan.Grammar

/-- A set of texts. -/
inductive Pattern where
  /-- No text at all. -/
  | nothing
  /-- The empty text. -/
  | empty
  /-- One character of a class. -/
  | char (accepts : Char → Bool)
  /-- A text of the first pattern, then one of the second. -/
  | both (first second : Pattern)
  /-- A text of either pattern. -/
  | either (first second : Pattern)
  /-- Any number of texts of the pattern, one after the other. -/
  | many (part : Pattern)

namespace Pattern

/-- Whether the empty text fits. -/
def isOptional : Pattern → Bool
  | nothing => false
  | empty => true
  | char _ => false
  | both first second => first.isOptional && second.isOptional
  | either first second => first.isOptional || second.isOptional
  | many _ => true

/-- One pattern after the other, with nothing and the empty text taken out. -/
def join : Pattern → Pattern → Pattern
  | nothing, _ => nothing
  | empty, second => second
  | first, second => both first second

/-- Either pattern, with nothing taken out. -/
def union : Pattern → Pattern → Pattern
  | nothing, second => second
  | first, nothing => first
  | first, second => either first second

/-- What a pattern asks for after the given character. -/
def after (c : Char) : Pattern → Pattern
  | nothing => nothing
  | empty => nothing
  | char accepts => if accepts c then empty else nothing
  | both first second =>
    if first.isOptional then union (join (first.after c) second) (second.after c)
    else join (first.after c) second
  | either first second => union (first.after c) (second.after c)
  | many part => join (part.after c) (many part)

/-- The length of the longest prefix that fits, given how many characters were read before and the
best length so far. -/
def longestFrom (count : Nat) (best : Option Nat) (p : Pattern) : List Char → Option Nat
  | [] => if p.isOptional then some count else best
  | c :: s =>
    match p with
    | nothing => best
    | p => longestFrom (count + 1) (if p.isOptional then some count else best) (p.after c) s

/-- The length of the longest prefix of a text that fits. -/
def longest? (p : Pattern) (s : List Char) : Option Nat := longestFrom 0 none p s

/-! ### Common shapes -/

/-- Patterns one after the other. -/
def sequence (parts : List Pattern) : Pattern := parts.foldr both empty

/-- Any one of several patterns. -/
def oneOf (parts : List Pattern) : Pattern := parts.foldr either nothing

/-- A text of the pattern, or nothing. -/
def optional (part : Pattern) : Pattern := either part empty

/-- One or more texts of the pattern. -/
def oneOrMore (part : Pattern) : Pattern := both part (many part)

/-- A pattern a number of times. -/
def times (part : Pattern) : Nat → Pattern
  | 0 => empty
  | n + 1 => both part (part.times n)

/-- Exactly the given text. -/
def text (s : String) : Pattern := s.toList.foldr (fun c p => both (char (· == c)) p) empty

/-- One of the characters. -/
def oneOfChars (s : String) : Pattern := char fun c => s.toList.contains c

/-- Any character but these. -/
def noneOfChars (s : String) : Pattern := char fun c => !s.toList.contains c

end Pattern

end DefectScan.Grammar
