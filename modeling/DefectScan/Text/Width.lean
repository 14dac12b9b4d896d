import DefectScan.Text.Blank
import DefectScan.Text.WidthTable

/-!
# Columns of a text

How many columns a text takes on a terminal, and tabs written out as the spaces up to the next
tab stop. Two invisible signs change what stands beside them: a joiner draws the character after
it into the one before, and a selector asks for the pictogram form of the character before it,
which may be wider. So the columns of a text are not the sum over its characters.
-/

namespace DefectScan.Text

/-- How many columns a character takes when it stands alone. -/
def charWidth (c : Char) : Nat :=
  if ' ' ≤ c && c ≤ '~' then 1
  else if inRanges zeroWidthRanges c then 0
  else if inRanges doubleWidthRanges c then 2
  else 1

/-- The sign that draws the character after it into the one before. -/
def joiner : Char := '\u200d'

/-- The sign that asks for the pictogram form of the character before it. -/
def formSelector : Char := '\ufe0f'

/-- The columns that the pictogram form of a character takes beyond its own. -/
def extraColumns (last : Option Char) : Nat :=
  if last.any (inRanges widenedRanges) then 1 else 0

/-- How many columns a text takes after `last`, the last character that took columns and was not
turned into a pictogram. -/
def widthAfter (last : Option Char) : List Char → Nat
  | [] => 0
  | c :: s =>
    if c = joiner then
      match s with
      | [] => 0
      | _ :: rest => widthAfter last rest
    else if c = formSelector then extraColumns last + widthAfter none s
    else if charWidth c = 0 then widthAfter last s
    else charWidth c + widthAfter (some c) s

/-- How many columns a text takes. -/
def width (s : List Char) : Nat := widthAfter none s

/-- Without joiners and selectors the columns of the characters add up. -/
theorem width_eq_sum (s : List Char) (h : joiner ∉ s ∧ formSelector ∉ s) :
    width s = (s.map charWidth).foldr (· + ·) 0 := by
  have hafter : ∀ last, widthAfter last s = (s.map charWidth).foldr (· + ·) 0 := by
    induction s with
    | nil => simp [widthAfter]
    | cons c s ih =>
      intro last
      simp only [List.mem_cons, not_or] at h
      have hs := ih ⟨h.1.2, h.2.2⟩
      unfold widthAfter
      simp only [Ne.symm h.1.1, Ne.symm h.2.1, if_false]
      split
      next hzero => simp [hzero, hs]
      next => simp [hs]
  exact hafter none

/-- How far tab stops are apart. -/
def tabStop : Nat := 8

/-- The text with spaces for tabs up to the next tab stop. `part` is what stands after the last tab,
last character first. -/
def expandTabsFrom (column : Nat) (part : List Char) : List Char → List Char
  | [] => part.reverse
  | c :: s =>
    if c = '\t' then
      let spaced := (' ' :: part).reverse
      let ending := column + width spaced
      let spaces := (tabStop - ending % tabStop) % tabStop
      spaced ++ List.replicate spaces ' ' ++ expandTabsFrom (ending + spaces) [] s
    else expandTabsFrom column (c :: part) s

/-- The text with spaces for tabs. -/
def expandTabs (s : List Char) : List Char := expandTabsFrom 0 [] s

end DefectScan.Text
