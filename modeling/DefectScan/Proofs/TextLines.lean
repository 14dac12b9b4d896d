import DefectScan.Text.Lines
import Mathlib.Data.List.Induction

/-!
# Lines and line feeds

The lines of a text are what stands between its line feeds. A carriage return right before a line
feed belongs to the line end and is left out with it; one anywhere else, also at the end of the last
line, is an ordinary character. Row by row this fixes every line, and nothing but line ends is lost:
joined with line feeds, the lines are the text with its two-character line ends made short.
-/

namespace DefectScan.Text

/-! ### Cutting at line feeds -/

/-- A text has one line more than line feeds. -/
theorem length_splitLines (s : List Char) : (splitLines s).length = s.count '\n' + 1 := by
  fun_induction splitLines s with
  | case1 => rfl
  | case2 s ih => simp [ih]
  | case3 s ih => simp [ih]
  | case4 c s hc hr ih =>
    have hc : c ≠ '\n' := hc
    obtain ⟨l, ls, hl⟩ := List.exists_cons_of_ne_nil (List.ne_nil_of_length_eq_add_one ih)
    rw [hl] at ih ⊢
    simpa [consFirst, List.count_cons, hc] using ih

theorem splitLines_eq_cons (s : List Char) :
    splitLines s = (splitLines s).headD [] :: (splitLines s).tail := by
  obtain ⟨l, ls, h⟩ := List.exists_cons_of_ne_nil
    (List.ne_nil_of_length_eq_add_one (length_splitLines s))
  rw [h]
  rfl

theorem splitLines_cons {c : Char} {s : List Char} (hc : c ≠ '\n')
    (hend : c = '\r' → s.head? ≠ some '\n') :
    splitLines (c :: s) = (c :: (splitLines s).headD []) :: (splitLines s).tail := by
  have hpair : ∀ t, c = '\r' → s = '\n' :: t → False := by
    rintro t hr rfl
    exact hend hr rfl
  rw [splitLines.eq_4 c s hc hpair, splitLines_eq_cons s]
  rfl

/-- What follows a line feed starts a new line. -/
theorem drop_splitLines (s rest : List Char) :
    (splitLines (s ++ '\n' :: rest)).drop (s.count '\n' + 1) = splitLines rest := by
  fun_induction splitLines s with
  | case1 => rfl
  | case2 s ih => simpa [splitLines] using ih
  | case3 s ih => simpa [splitLines] using ih
  | case4 c s hc hpair ih =>
    have hcount : (c :: s).count '\n' = s.count '\n' := List.count_cons_of_ne hc
    rw [hcount, List.cons_append]
    by_cases hr : c = '\r' ∧ s = []
    · obtain ⟨rfl, rfl⟩ := hr
      rfl
    · have hend : c = '\r' → (s ++ '\n' :: rest).head? ≠ some '\n' := by
        rintro rfl hhead
        cases s with
        | nil => exact hr ⟨rfl, rfl⟩
        | cons d s =>
          obtain rfl : d = '\n' := by simpa using hhead
          exact hpair s rfl rfl
      rw [splitLines_cons hc hend, List.drop_succ_cons, List.drop_tail, ih]

/-- A line goes on with the next characters, unless a carriage return at its end meets a line
feed. -/
theorem splitLines_append {l rest : List Char} (hl : '\n' ∉ l)
    (hend : l.getLast? = some '\r' → rest.head? ≠ some '\n') :
    splitLines (l ++ rest) = (l ++ (splitLines rest).headD []) :: (splitLines rest).tail := by
  induction l with
  | nil => exact splitLines_eq_cons rest
  | cons c l ih =>
    obtain ⟨hc, hl⟩ : c ≠ '\n' ∧ '\n' ∉ l := by simpa [eq_comm] using hl
    cases l with
    | nil => exact splitLines_cons hc fun hr => hend (by simp [hr])
    | cons d l =>
      have hd : d ≠ '\n' := fun h => hl (by simp [h])
      have hrest := ih hl fun h => hend (by simpa [List.getLast?_cons] using h)
      rw [List.cons_append, splitLines_cons hc (by simp [hd]), hrest]
      rfl

/-- The first line is a beginning of the text. -/
theorem headD_splitLines_prefix (s : List Char) : (splitLines s).headD [] <+: s := by
  fun_induction splitLines s with
  | case1 => exact List.nil_prefix
  | case2 s => exact List.nil_prefix
  | case3 s => exact List.nil_prefix
  | case4 c s hc hpair ih =>
    rw [splitLines_eq_cons s]
    exact List.cons_prefix_cons.2 ⟨rfl, ih⟩

/-- A text that is empty or ends with a line feed. -/
def EndsLine (s : List Char) : Prop := s = [] ∨ ∃ t, s = t ++ ['\n']

/-- A text consists of whole lines and of the beginning of one more. -/
theorem exists_endsLine_append (s : List Char) :
    ∃ above tail, s = above ++ tail ∧ EndsLine above ∧ '\n' ∉ tail := by
  induction s using List.reverseRecOn with
  | nil => exact ⟨[], [], rfl, .inl rfl, by simp⟩
  | append_singleton s c ih =>
    by_cases hc : c = '\n'
    · subst hc
      exact ⟨s ++ ['\n'], [], by simp, .inr ⟨s, rfl⟩, by simp⟩
    · obtain ⟨above, tail, rfl, habove, htail⟩ := ih
      exact ⟨above, tail ++ [c], by simp, habove, by simp [htail, Ne.symm hc]⟩

/-- The line that begins after whole lines. -/
theorem getElem?_splitLines_append {above : List Char} (habove : EndsLine above)
    (rest : List Char) :
    (splitLines (above ++ rest))[above.count '\n']? = some ((splitLines rest).headD []) := by
  have hfirst : (splitLines rest)[0]? = some ((splitLines rest).headD []) := by
    rw [splitLines_eq_cons rest]
    rfl
  obtain rfl | ⟨t, rfl⟩ := habove
  · exact hfirst
  · have hdrop := drop_splitLines t rest
    rw [List.append_assoc, List.singleton_append, List.count_append, List.count_singleton_self]
    rw [← hfirst, ← hdrop, List.getElem?_drop, Nat.add_zero]

/-! ### Stretches between line feeds -/

/-- The text with one carriage return at its end left out. -/
def dropReturn (s : List Char) : List Char :=
  if s.getLast? = some '\r' then s.dropLast else s

theorem mem_of_mem_dropReturn {c : Char} {s : List Char} (h : c ∈ dropReturn s) : c ∈ s := by
  unfold dropReturn at h
  split at h
  · exact List.dropLast_subset s h
  · exact h

/-- A stretch of a text from its start or a line feed to the next line feed or its end. -/
structure Stretch (text : List Char) where
  /-- What stands before the stretch, up to a line feed. -/
  above : List Char
  /-- The stretch itself. -/
  part : List Char
  /-- What stands behind it, from a line feed on. -/
  below : List Char
  /-- Together they are the text. -/
  text_eq : text = above ++ (part ++ below)
  /-- The stretch begins where a line begins. -/
  above_endsLine : EndsLine above
  /-- It has no line feed of its own. -/
  feed_not_mem : '\n' ∉ part
  /-- It ends where a line ends. -/
  below_eq : below = [] ∨ ∃ rest, below = '\n' :: rest

namespace Stretch

variable {text : List Char}

/-- The number of line feeds before the stretch. -/
def row (p : Stretch text) : Nat := p.above.count '\n'

/-- The line that the stretch shows: when a line feed follows, without a carriage return at its
end. -/
def line (p : Stretch text) : List Char :=
  if p.below = [] then p.part else dropReturn p.part

/-- Behind whole lines a stretch begins. -/
theorem exists_above_eq {above s : List Char} (htext : text = above ++ s)
    (habove : EndsLine above) : ∃ p : Stretch text, p.above = above := by
  refine ⟨⟨above, s.takeWhile (· != '\n'), s.dropWhile (· != '\n'), ?_, habove, ?_, ?_⟩, rfl⟩
  · rw [List.takeWhile_append_dropWhile, htext]
  · intro hmem
    simpa using List.all_eq_true.1 List.all_takeWhile _ hmem
  · cases hrest : s.dropWhile (· != '\n') with
    | nil => exact .inl rfl
    | cons c rest =>
      have hc := List.head?_dropWhile_not (· != '\n') s
      rw [hrest] at hc
      obtain rfl : c = '\n' := by simpa using hc
      exact .inr ⟨rest, rfl⟩

/-- The line feeds of a text are those before a stretch and those behind it. -/
theorem count_text (p : Stretch text) : text.count '\n' = p.row + p.below.count '\n' := by
  conv_lhs => rw [p.text_eq]
  rw [List.count_append, List.count_append, List.count_eq_zero.2 p.feed_not_mem, Nat.zero_add, row]

/-- A stretch that a line feed follows is followed by another stretch on the next row. -/
theorem exists_next (p : Stretch text) (h : p.row < text.count '\n') :
    ∃ q : Stretch text, q.row = p.row + 1 := by
  obtain hend | ⟨rest, hrest⟩ := p.below_eq
  · rw [p.count_text, hend, List.count_nil] at h
    omega
  · have htext : text = (p.above ++ p.part ++ ['\n']) ++ rest := by
      conv_lhs => rw [p.text_eq, hrest]
      simp only [List.append_assoc, List.singleton_append]
    obtain ⟨q, hq⟩ := exists_above_eq htext (.inr ⟨p.above ++ p.part, rfl⟩)
    refine ⟨q, ?_⟩
    rw [row, hq, List.count_append, List.count_append, List.count_eq_zero.2 p.feed_not_mem,
      List.count_singleton_self, row, Nat.add_zero]

/-- A text has a stretch on every row up to the number of its line feeds. -/
theorem exists_row_eq {r : Nat} (h : r ≤ text.count '\n') : ∃ p : Stretch text, p.row = r := by
  induction r with
  | zero =>
    obtain ⟨p, hp⟩ := exists_above_eq (List.nil_append text).symm (.inl rfl)
    exact ⟨p, by rw [row, hp, List.count_nil]⟩
  | succ r ih =>
    obtain ⟨p, rfl⟩ := ih (Nat.le_of_succ_le h)
    exact p.exists_next h

end Stretch

/-! ### Lines row by row -/

/-- A text without a line feed is a line. -/
theorem headD_splitLines_of_not_mem {part : List Char} (h : '\n' ∉ part) :
    (splitLines part).headD [] = part := by
  have happend : splitLines (part ++ []) = [part ++ []] := splitLines_append h fun _ => by simp
  rw [List.append_nil] at happend
  rw [happend]
  rfl

/-- The line before a line feed ends before the carriage return that belongs to the line end. -/
theorem headD_splitLines_before_feed {part : List Char} (h : '\n' ∉ part) (rest : List Char) :
    (splitLines (part ++ '\n' :: rest)).headD [] = dropReturn part := by
  by_cases hreturn : part.getLast? = some '\r'
  · obtain ⟨l, rfl⟩ : ∃ l, part = l ++ ['\r'] := List.getLast?_eq_some_iff.1 hreturn
    have hl : '\n' ∉ l := fun hmem => h (List.mem_append_left _ hmem)
    rw [dropReturn, if_pos hreturn, List.dropLast_concat, List.append_assoc, List.singleton_append,
      splitLines_append hl fun _ => by simp]
    exact List.append_nil l
  · rw [dropReturn, if_neg hreturn, splitLines_append h fun hlast => absurd hlast hreturn]
    exact List.append_nil part

/-- The line on the row of a stretch is the one that the stretch shows. -/
theorem Stretch.getElem?_splitLines {text : List Char} (p : Stretch text) :
    (splitLines text)[p.row]? = some p.line := by
  have hfirst : (splitLines (p.part ++ p.below)).headD [] = p.line := by
    obtain hend | ⟨rest, hrest⟩ := p.below_eq
    · rw [line, if_pos hend, hend, List.append_nil, headD_splitLines_of_not_mem p.feed_not_mem]
    · have hne : p.below ≠ [] := by simp [hrest]
      rw [line, if_neg hne, hrest, headD_splitLines_before_feed p.feed_not_mem]
  have hline := getElem?_splitLines_append p.above_endsLine (p.part ++ p.below)
  rwa [← p.text_eq, hfirst] at hline

/-- The lines of a text, row by row. -/
theorem getElem?_splitLines_eq_some_iff {text line : List Char} {r : Nat} :
    (splitLines text)[r]? = some line ↔ ∃ p : Stretch text, p.row = r ∧ p.line = line := by
  constructor
  · intro h
    have hlt := (List.getElem?_eq_some_iff.1 h).1
    rw [length_splitLines] at hlt
    obtain ⟨p, rfl⟩ := Stretch.exists_row_eq (Nat.le_of_lt_succ hlt)
    rw [p.getElem?_splitLines, Option.some.injEq] at h
    exact ⟨p, rfl, h⟩
  · rintro ⟨p, rfl, rfl⟩
    exact p.getElem?_splitLines

theorem Stretch.feed_not_mem_line {text : List Char} (p : Stretch text) : '\n' ∉ p.line := by
  unfold line
  split
  · exact p.feed_not_mem
  · exact fun h => p.feed_not_mem (mem_of_mem_dropReturn h)

/-! ### Lines joined -/

/-- The text with every carriage return and line feed in a row written as a line feed. -/
def shortLineEnds : List Char → List Char
  | [] => []
  | '\r' :: '\n' :: s => '\n' :: shortLineEnds s
  | c :: s => c :: shortLineEnds s

/-- Joining the lines with line feeds makes the line ends of the text short. -/
theorem intercalate_splitLines (text : List Char) :
    ['\n'].intercalate (splitLines text) = shortLineEnds text := by
  have hjoin : ∀ (l s : List Char), ['\n'].intercalate (l :: splitLines s) =
      l ++ '\n' :: ['\n'].intercalate (splitLines s) := by
    intro l s
    have hne : splitLines s ≠ [] := List.ne_nil_of_length_eq_add_one (length_splitLines s)
    rw [List.intercalate_cons_of_ne_nil hne, List.append_assoc, List.singleton_append]
  fun_induction splitLines text with
  | case1 => rfl
  | case2 s ih =>
    rw [hjoin, ih]
    rfl
  | case3 s ih =>
    rw [hjoin, ih]
    rfl
  | case4 c s hc hpair ih =>
    rw [shortLineEnds.eq_3 c s hpair, ← ih, splitLines_eq_cons s, consFirst,
      List.intercalate_cons_cons_left]

/-- A line is what stands between two line feeds less a carriage return at its end, so only line
ends are lost. -/
theorem splitLines_loses_only_lineEnds (text : List Char) :
    (splitLines text).length = text.count '\n' + 1 ∧
      (∀ line ∈ splitLines text, '\n' ∉ line) ∧
      ['\n'].intercalate (splitLines text) = shortLineEnds text ∧
      ∀ r line, (splitLines text)[r]? = some line ↔
        ∃ p : Stretch text, p.row = r ∧ p.line = line := by
  refine ⟨length_splitLines text, ?_, intercalate_splitLines text,
    fun r line => getElem?_splitLines_eq_some_iff⟩
  intro line hline
  obtain ⟨r, hr⟩ := List.mem_iff_getElem?.1 hline
  obtain ⟨p, -, rfl⟩ := getElem?_splitLines_eq_some_iff.1 hr
  exact p.feed_not_mem_line

/-- Of two carriage returns before a line feed the first stays in the line, and so does one at the
end of the text. -/
theorem splitLines_loses_only_lineEnds_returns :
    let text := "a\r\r\n\r\nb\r".toList
    splitLines text = ["a\r".toList, [], "b\r".toList] ∧ '\n' ∉ "a\r".toList ∧
      ∃ p : Stretch text, p.row = 2 ∧ p.line = "b\r".toList := by
  intro text
  have hlines : splitLines text = ["a\r".toList, [], "b\r".toList] := by decide
  obtain ⟨-, hfeed, -, hrow⟩ := splitLines_loses_only_lineEnds text
  refine ⟨hlines, hfeed _ (by simp [hlines]), (hrow 2 _).1 (by rw [hlines]; rfl)⟩

end DefectScan.Text
