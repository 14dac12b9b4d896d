/-!
# Blank characters

The blank characters are those that separate words: the ASCII blanks and separators, the
no-break and typographic spaces, and the line and paragraph separators. Trimming removes
blanks at the two ends, and `words` cuts a text at its runs of blanks.
-/

namespace DefectScan.Text

/-- Whether a character lies in one of the inclusive ranges of code points. -/
def inRanges (ranges : List (Nat × Nat)) (c : Char) : Bool :=
  ranges.any fun r => r.1 ≤ c.toNat && c.toNat ≤ r.2

/-- Inclusive ranges of the blank characters. -/
def blankRanges : List (Nat × Nat) :=
  [(0x09, 0x0D), (0x1C, 0x20), (0x85, 0x85), (0xA0, 0xA0), (0x1680, 0x1680), (0x2000, 0x200A),
    (0x2028, 0x2029), (0x202F, 0x202F), (0x205F, 0x205F), (0x3000, 0x3000)]

/-- A character that separates words. -/
def isBlank (c : Char) : Bool := inRanges blankRanges c

/-- A space is blank. -/
theorem isBlank_space : isBlank ' ' = true := by decide

/-- The text without the blanks at its start. -/
def trimStart (s : List Char) : List Char := s.dropWhile isBlank

/-- The text without the blanks at its end. -/
def trimEnd (s : List Char) : List Char := (s.reverse.dropWhile isBlank).reverse

/-- The text without the blanks at both ends. -/
def trim (s : List Char) : List Char := trimEnd (trimStart s)

/-- Blanks in front do not count. -/
theorem trimStart_append {blanks s : List Char} (h : ∀ c ∈ blanks, isBlank c = true) :
    trimStart (blanks ++ s) = trimStart s :=
  List.dropWhile_append_of_pos h

/-- Nothing is left of blanks. -/
theorem trimStart_of_blank {s : List Char} (h : ∀ c ∈ s, isBlank c = true) : trimStart s = [] := by
  rw [← List.append_nil s, trimStart_append h]
  rfl

/-- A text that begins with no blank keeps its start. -/
theorem trimStart_eq_self {s : List Char} (h : s.head?.any isBlank = false) :
    trimStart s = s := by
  cases s with
  | nil => rfl
  | cons c s => exact List.dropWhile_cons_of_neg (by simpa using h)

/-- Blanks behind do not count. -/
theorem trimEnd_append {s blanks : List Char} (h : ∀ c ∈ blanks, isBlank c = true) :
    trimEnd (s ++ blanks) = trimEnd s := by
  rw [trimEnd, trimEnd, List.reverse_append, List.dropWhile_append_of_pos (by simpa using h)]

/-- A text that ends with no blank keeps its end. -/
theorem trimEnd_eq_self {s : List Char} (h : s.getLast?.any isBlank = false) :
    trimEnd s = s := by
  have hreverse : trimStart s.reverse = s.reverse :=
    trimStart_eq_self (by rwa [List.head?_reverse])
  rw [trimEnd, ← trimStart, hreverse, List.reverse_reverse]

/-- What trimming takes away are blanks. -/
theorem exists_eq_append_trim (s : List Char) :
    ∃ front back, s = front ++ (trim s ++ back) ∧ (∀ c ∈ front, isBlank c = true) ∧
      ∀ c ∈ back, isBlank c = true := by
  refine ⟨s.takeWhile isBlank, ((trimStart s).reverse.takeWhile isBlank).reverse, ?_, ?_, ?_⟩
  · rw [trim, trimEnd, ← List.reverse_append, List.takeWhile_append_dropWhile,
      List.reverse_reverse, trimStart, List.takeWhile_append_dropWhile]
  · exact List.all_eq_true.1 List.all_takeWhile
  · intro c hc
    exact List.all_eq_true.1 List.all_takeWhile c (List.mem_reverse.1 hc)

/-- Nothing is left of a text of blanks, and of no other text. -/
theorem trim_eq_nil_iff {s : List Char} : trim s = [] ↔ ∀ c ∈ s, isBlank c = true := by
  constructor
  · intro h
    obtain ⟨front, back, hs, hfront, hback⟩ := exists_eq_append_trim s
    rw [hs, h]
    intro c hc
    rcases List.mem_append.1 hc with hc | hc
    · exact hfront c hc
    · exact hback c hc
  · intro h
    rw [trim, trimStart_of_blank h]
    rfl

/-- Blanks at both ends do not count. -/
theorem trim_append_append {front s back : List Char} (hfront : ∀ c ∈ front, isBlank c = true)
    (hback : ∀ c ∈ back, isBlank c = true) : trim (front ++ (s ++ back)) = trim s := by
  rw [trim, trimStart_append hfront, trim, trimStart, List.dropWhile_append]
  split
  · have hnil : trimStart s = [] := List.isEmpty_iff.1 ‹_›
    rw [hnil, ← trimStart, trimStart_of_blank hback]
  · exact trimEnd_append hback

theorem trim_trim (s : List Char) : trim (trim s) = trim s := by
  obtain ⟨front, back, hs, hfront, hback⟩ := exists_eq_append_trim s
  have htrim := congrArg trim hs
  rw [trim_append_append hfront hback] at htrim
  exact htrim.symm

/-- The text without those characters at its start that are among `chars`. -/
def dropLeading (chars : List Char) (s : List Char) : List Char := s.dropWhile chars.contains

/-- The text without those characters at both ends that are among `chars`. -/
def trimOf (chars : List Char) (s : List Char) : List Char :=
  ((s.dropWhile chars.contains).reverse.dropWhile chars.contains).reverse

/-- The maximal blank-free pieces of a text, in order. -/
def words : List Char → List (List Char)
  | [] => []
  | c :: s =>
    if isBlank c then words s
    else (c :: s.takeWhile (!isBlank ·)) :: words (s.dropWhile (!isBlank ·))
  termination_by s => s.length
  decreasing_by
    · simp
    · have h := (List.dropWhile_suffix (!isBlank ·) (l := s)).length_le
      simp
      omega

/-- The words of a text, one space between each two. -/
def joinWords (s : List Char) : List Char := [' '].intercalate (words s)

end DefectScan.Text
