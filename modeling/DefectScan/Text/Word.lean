import DefectScan.Text.Blank
import DefectScan.Text.WordTable

/-!
# Words and places in a text

A word is a maximal run of letters, numbers and underscores. Searching a text means looking at
its *places*: each place knows the character before it and the text after it, so that word
boundaries and look-behind conditions are properties of a single place.
-/

namespace DefectScan.Text

/-- An ASCII letter or an underscore: what an identifier may begin with. -/
def isNameStart (c : Char) : Bool := c.isAlpha || c == '_'

/-- A letter or number of any script. -/
def isLetterOrNumber (c : Char) : Bool :=
  if c.toNat < 128 then c.isAlphanum else inRanges wordRanges c

/-- A letter, a number or an underscore. -/
def isWord (c : Char) : Bool := isLetterOrNumber c || c == '_'

/-- The longest word at the start of a text, possibly empty. -/
def wordHead (s : List Char) : List Char := s.takeWhile isWord

/-- What follows the longest word at the start of a text. -/
def afterWord (s : List Char) : List Char := s.dropWhile isWord

/-- Whether a text begins with a word character. -/
def startsWord (s : List Char) : Bool := s.head?.any isWord

/-- What is left of `s` when it begins with `w`. -/
def after? : (w s : List Char) → Option (List Char)
  | [], s => some s
  | _ :: _, [] => none
  | a :: w, b :: s => if a = b then after? w s else none

/-- The rest after `w` is what has to be appended to `w` to get the text. -/
theorem after?_eq_some_iff {w s r : List Char} : after? w s = some r ↔ s = w ++ r := by
  induction w generalizing s with
  | nil => simp [after?, eq_comm]
  | cons a w ih =>
    cases s with
    | nil => simp [after?]
    | cons b s =>
      by_cases h : a = b
      · simp [after?, h, ih]
      · simp [after?, h, Ne.symm h]

/-- What is left of `s` when it begins with one of the words, the first that fits. -/
def afterOneOf? (ws : List String) (s : List Char) : Option (List Char) :=
  ws.findSome? fun w => after? w.toList s

/-- The characters `w` at the start of a text, not followed by another word character. -/
def closedWord? (w s : List Char) : Option (List Char) :=
  (after? w s).filter fun r => !startsWord r

/-- One of the words at the start of a text, not followed by another word character. -/
def closedOneOf? (ws : List String) (s : List Char) : Option (List Char) :=
  ws.findSome? fun w => closedWord? w.toList s

/-- What follows the blanks at the start of a text, if then `c` comes next: the text after it. -/
def afterBlanks? (c : Char) (s : List Char) : Option (List Char) :=
  match trimStart s with
  | d :: r => if d = c then some r else none
  | [] => none

/-- A place in a text: how many characters come before it, the last of these, and all that
comes after it. -/
structure Place where
  /-- The number of characters before the place. -/
  column : Nat
  /-- The character right before the place, none at the start of the text. -/
  before : Option Char
  /-- The text from the place on. -/
  after : List Char
  deriving DecidableEq, Repr

/-- The places of a text that starts at the given column after the given character. -/
def placesFrom (column : Nat) (before : Option Char) : List Char → List Place
  | [] => [⟨column, before, []⟩]
  | c :: s => ⟨column, before, c :: s⟩ :: placesFrom (column + 1) (some c) s

/-- Every place of a text from left to right, the one at its end included. -/
def places (s : List Char) : List Place := placesFrom 0 none s

/-- A text has one more place than characters. -/
theorem length_placesFrom (column : Nat) (before : Option Char) (s : List Char) :
    (placesFrom column before s).length = s.length + 1 := by
  induction s generalizing column before with
  | nil => rfl
  | cons c s ih => simp [placesFrom, ih]

/-- A place after which no word character stands before it: a word that starts here is whole on
its left side. -/
def Place.isOpen (p : Place) : Bool := !p.before.any isWord

/-- The rest after `w` at a place where `w` is a whole word. -/
def Place.word? (p : Place) (w : List Char) : Option (List Char) :=
  if p.isOpen then closedWord? w p.after else none

/-- The rest after one of the words at a place where it is a whole word. -/
def Place.oneOf? (p : Place) (ws : List String) : Option (List Char) :=
  if p.isOpen then closedOneOf? ws p.after else none

/-- Whether a text contains another one. -/
def containsText (part s : List Char) : Bool :=
  (places s).any fun p => (after? part p.after).isSome

/-- Whether `word` occurs in a text as a word of its own. -/
def hasWord (word s : List Char) : Bool :=
  (places s).any fun p => (p.word? word).isSome

/-- The text without those of its words that are listed. -/
def dropWords (listed : List String) : List Char → List Char
  | [] => []
  | c :: s =>
    if isWord c then
      let w := c :: wordHead s
      (if listed.contains (String.ofList w) then [] else w) ++ dropWords listed (afterWord s)
    else c :: dropWords listed s
  termination_by s => s.length
  decreasing_by
    · have h := (List.dropWhile_suffix isWord (l := s)).length_le
      simp [afterWord]
      omega
    · simp

/-- The text with each occurrence of `part`, taken from the left, removed. -/
def removeAll (part : List Char) : List Char → List Char
  | [] => []
  | c :: s =>
    match after? part (c :: s) with
    | some r => if r.length ≤ s.length then removeAll part r else c :: removeAll part s
    | none => c :: removeAll part s
  termination_by s => s.length

end DefectScan.Text
