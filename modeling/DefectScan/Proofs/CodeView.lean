import DefectScan.CodeView

/-!
# Lines and their code views

A code view is as long as its line, the scanned lines carry the numbers and the texts of the lines
they were made from, and each is seen from the state in which the lines before it leave the
scanner. After a line that does not end with a backslash the scanner is in code or in a block
comment.
-/

namespace DefectScan

namespace Lexical

section Moves

variable {state next : Lexical} {region : Region} {c d : Char} {s : List Char}

theorem regions_of_one (h : state.move c s.head? = .one region next) :
    state.regions (c :: s) = (region :: (next.regions s).1, (next.regions s).2) := by
  rw [regions, h]

theorem regions_of_two_nil (h : state.move c none = .two region next) :
    state.regions [c] = ([region], next) := by
  rw [regions, List.head?_nil, h]

theorem regions_of_two (h : state.move c (some d) = .two region next) :
    state.regions (c :: d :: s) =
      (region :: region :: (next.regions s).1, (next.regions s).2) := by
  rw [regions, List.head?_cons, h]

theorem view_of_one (h : state.move c s.head? = .one region next) :
    state.view (c :: s) = region.show c :: next.view s := by
  simp [view, regions_of_one h]

theorem view_of_two_nil (h : state.move c none = .two region next) :
    state.view [c] = [region.show c] := by
  simp [view, regions_of_two_nil h]

theorem view_of_two (h : state.move c (some d) = .two region next) :
    state.view (c :: d :: s) = region.show c :: region.show d :: next.view s := by
  simp [view, regions_of_two h]

end Moves

/-- Every character of a line has a region. -/
@[simp] theorem length_regions (state : Lexical) (s : List Char) :
    (state.regions s).1.length = s.length := by
  fun_induction regions state s with
  | case1 state => rfl
  | case2 state c s region next hmove rest ih => simpa [rest] using ih
  | case3 state c region next hmove => rfl
  | case4 state c region next d s rest hmove ih => simpa [rest] using ih

/-- A code view is as long as its line. -/
@[simp] theorem length_view (state : Lexical) (s : List Char) :
    (state.view s).length = s.length := by
  simp [view]

/-- The state at the start of the next line, for a line that starts in the given state. -/
def afterLine (state : Lexical) (raw : List Char) : Lexical :=
  (state.regions raw).2.endLine raw

/-- The state after several lines. -/
def afterLines (state : Lexical) (lines : List (List Char)) : Lexical :=
  lines.foldl afterLine state

@[simp] theorem afterLines_nil (state : Lexical) : state.afterLines [] = state := rfl

@[simp] theorem afterLines_cons (state : Lexical) (raw : List Char) (lines : List (List Char)) :
    state.afterLines (raw :: lines) = (state.afterLine raw).afterLines lines := rfl

theorem afterLines_append (state : Lexical) (lines lines' : List (List Char)) :
    state.afterLines (lines ++ lines') = (state.afterLines lines).afterLines lines' :=
  List.foldl_append

/-- Only a backslash at its end carries a literal over the end of a line. -/
theorem afterLine_of_getLast?_ne (state : Lexical) {raw : List Char}
    (h : raw.getLast? ≠ some '\\') :
    state.afterLine raw = .code ∨ state.afterLine raw = .blockComment := by
  unfold afterLine
  cases (state.regions raw).2 with
  | code => exact .inl rfl
  | lineComment => exact .inl rfl
  | blockComment => exact .inr rfl
  | literal quote => exact .inl (if_neg h)

end Lexical

theorem scanFrom_cons (state : Lexical) (row : Nat) (raw : List Char)
    (lines : List (List Char)) :
    scanFrom state row (raw :: lines) =
      ⟨row, raw, state.view raw⟩ :: scanFrom (state.afterLine raw) (row + 1) lines := rfl

/-- Each scanned line is its line, numbered, and seen from the state after the lines before it. -/
theorem getElem?_scanFrom (state : Lexical) (row : Nat) {lines : List (List Char)} {k : Nat}
    {raw : List Char} (h : lines[k]? = some raw) :
    (scanFrom state row lines)[k]? =
      some ⟨row + k, raw, (state.afterLines (lines.take k)).view raw⟩ := by
  induction lines generalizing state row k with
  | nil => simp at h
  | cons first lines ih =>
    rw [scanFrom_cons]
    cases k with
    | zero =>
      cases h
      simp
    | succ k =>
      have hk : lines[k]? = some raw := by simpa using h
      simp only [List.getElem?_cons_succ, List.take_succ_cons, Lexical.afterLines_cons,
        ih (state.afterLine first) (row + 1) hk]
      congr 2
      omega

/-- A scanned line carries its number, and its code view is that of its text, seen from the state
after the lines before it. -/
theorem eq_of_getElem?_scanLines {lines : List (List Char)} {k : Nat} {line : CodeLine}
    (h : (scanLines lines)[k]? = some line) :
    line = ⟨k, line.raw, (Lexical.code.afterLines (lines.take k)).view line.raw⟩ := by
  have hk : k < lines.length := by
    rw [← length_scanFrom .code 0 lines]
    exact (List.getElem?_eq_some_iff.1 h).1
  have hline := getElem?_scanFrom .code 0 (List.getElem?_eq_getElem hk)
  rw [show scanFrom .code 0 lines = scanLines lines from rfl, h, Nat.zero_add] at hline
  cases hline
  rfl

theorem row_of_getElem?_scanLines {lines : List (List Char)} {k : Nat} {line : CodeLine}
    (h : (scanLines lines)[k]? = some line) : line.row = k :=
  congrArg CodeLine.row (eq_of_getElem?_scanLines h)

/-- A scanned line stands at its row. -/
theorem getElem?_row_of_mem_scanLines {lines : List (List Char)} {line : CodeLine}
    (h : line ∈ scanLines lines) : (scanLines lines)[line.row]? = some line := by
  obtain ⟨k, hk⟩ := List.mem_iff_getElem?.1 h
  rwa [row_of_getElem?_scanLines hk]

/-- The code view of a scanned line, found by its row. -/
theorem code_of_mem_scanLines {lines : List (List Char)} {line : CodeLine}
    (h : line ∈ scanLines lines) :
    line.code = (Lexical.code.afterLines (lines.take line.row)).view line.raw :=
  congrArg CodeLine.code (eq_of_getElem?_scanLines (getElem?_row_of_mem_scanLines h))

/-- The rows of the scanned lines increase. -/
theorem pairwise_row_scanLines (lines : List (List Char)) :
    (scanLines lines).Pairwise fun a b => a.row < b.row := by
  rw [List.pairwise_iff_getElem]
  intro i j hi hj hij
  rw [row_of_getElem?_scanLines (List.getElem?_eq_getElem hi),
    row_of_getElem?_scanLines (List.getElem?_eq_getElem hj)]
  exact hij

end DefectScan
