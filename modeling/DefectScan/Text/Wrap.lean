import DefectScan.Text.Cluster

/-!
# Wrapped lines

A text that is wider than the page is broken in front of the words that do not fit. The blanks
between two words belong to the first of them and stay at the end of its line. A word that is
wider than the page is cut into pieces as wide as the page.
-/

namespace DefectScan.Text

/-- The text cut into words with the blanks after them; blanks at the start belong to the first
word. A text of blanks has no words. -/
def spacedWords (s : List Char) : List (List Char) :=
  if _h : s.dropWhile isBlank = [] then []
  else
    let lead := s.takeWhile isBlank
    let body := s.dropWhile isBlank
    let word := body.takeWhile (!isBlank ·)
    let rest := body.dropWhile (!isBlank ·)
    (lead ++ word ++ rest.takeWhile isBlank) :: spacedWords (rest.dropWhile isBlank)
  termination_by s.length
  decreasing_by
    have hbody := (List.dropWhile_suffix isBlank (l := s)).length_le
    have hrest := (List.dropWhile_suffix isBlank
      (l := (s.dropWhile isBlank).dropWhile (!isBlank ·))).length_le
    match hs : s.dropWhile isBlank with
    | [] => exact absurd hs _h
    | c :: t =>
      have hc : isBlank c = false := by
        have := List.head?_dropWhile_not isBlank s
        simpa [hs] using this
      rw [hs] at hbody hrest
      have ht := (List.dropWhile_suffix (!isBlank ·) (l := t)).length_le
      simp [hc] at hrest hbody ⊢
      omega

/-- The lines while words are laid out. -/
structure Layout where
  /-- The finished lines, last one first. -/
  done : List (List Char) := []
  /-- The line being filled. -/
  line : List Char := []
  /-- The columns that the words on the line take, each measured alone. -/
  used : Nat := 0
  deriving Repr, Inhabited

/-- End the line, unless nothing was laid out yet. -/
def Layout.endLine (l : Layout) : List (List Char) :=
  if l.done.isEmpty && l.line.isEmpty then [] else l.line :: l.done

/-- Lay out one more word: on the line if it fits, else on a line of its own; a word wider than
the page fills several lines. -/
def Layout.add (page : Nat) (l : Layout) (word : List Char) : Layout :=
  let needed := width (trimEnd word)
  if l.used + needed ≤ page then
    { l with line := l.line ++ word, used := l.used + width word }
  else if needed > page then
    match (chop page [] 0 (clusters word)).reverse with
    | [] => l
    | last :: before => { done := before ++ l.endLine, line := last, used := width last }
  else { done := l.endLine, line := word, used := width word }

/-- Take as many blanks off the end of a line as it has characters beyond the page. -/
def cropBlanks (page : Nat) (line : List Char) : List Char :=
  let blanks := (line.reverse.takeWhile isBlank).length
  line.take (line.length - min blanks (line.length - page))

/-- The lines on which the words of a text without line ends are laid out. -/
def laidOut (page : Nat) (s : List Char) : List (List Char) :=
  let words := spacedWords s
  if words.isEmpty then [s]
  else
    let l := words.foldl (Layout.add page) {}
    (l.line :: l.done).reverse

/-- The lines of a text without line ends, wrapped to the page. -/
def wrapLine (page : Nat) (s : List Char) : List (List Char) :=
  (laidOut page s).map fun line => cropColumns page (cropBlanks page line)

end DefectScan.Text
