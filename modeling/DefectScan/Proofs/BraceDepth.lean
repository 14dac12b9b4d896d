import DefectScan.Proofs.Braces
import DefectScan.Proofs.CodeView

/-!
# The brace depth of a file

The brace depth goes up by one at an opening brace and down by one at a closing brace, but not
below zero. The tracker of bodies reads every line, the scope check leaves out blank lines and
directives, and both keep a stack of their own. The main statement is that after every row both
stacks are as deep as the braces of the code views say, directives aside.
-/

namespace DefectScan

open Text

/-- The depth after one more character; a closing brace at depth zero closes nothing. -/
def stepDepth (depth : Nat) (c : Char) : Nat :=
  if c = '{' then depth + 1 else if c = '}' then depth - 1 else depth

/-- The brace depth after some lines, the braces of directives left out. -/
def braceDepth (lines : List CodeLine) : Nat :=
  ((lines.filter fun line => !line.isDirective).flatMap CodeLine.code).foldl stepDepth 0

/-! ### Open braces -/

theorem length_openOnLine (above : Option CodeLine) (line : CodeLine) (column : Nat)
    (stack : List Brace) (s : List Char) :
    (openOnLine above line column stack s).length = s.foldl stepDepth stack.length := by
  induction s generalizing column stack with
  | nil => rfl
  | cons c s ih =>
    rw [openOnLine, List.foldl_cons, stepDepth]
    by_cases hopen : c = '{'
    · rw [if_pos hopen, if_pos hopen, ih, List.length_cons]
    · rw [if_neg hopen, if_neg hopen]
      by_cases hclose : c = '}'
      · rw [if_pos hclose, if_pos hclose, ih, List.length_tail]
      · rw [if_neg hclose, if_neg hclose, ih]

/-- There are as many open braces as the depth says. -/
theorem length_openAfter (above : Option CodeLine) (stack : List Brace) (lines : List CodeLine) :
    (openAfter above stack lines).length =
      (lines.flatMap CodeLine.code).foldl stepDepth stack.length := by
  induction lines generalizing above stack with
  | nil => rfl
  | cons line lines ih =>
    rw [openAfter, ih, length_openOnLine, List.flatMap_cons, List.foldl_append]

private theorem foldl_stepDepth_of_blank {s : List Char} (h : ∀ c ∈ s, isBlank c = true)
    (depth : Nat) : s.foldl stepDepth depth = depth := by
  induction s with
  | nil => rfl
  | cons c s ih =>
    obtain ⟨hc, hs⟩ := List.forall_mem_cons.1 h
    have hopen : c ≠ '{' := by
      rintro rfl
      exact absurd hc (by decide)
    have hclose : c ≠ '}' := by
      rintro rfl
      exact absurd hc (by decide)
    rw [List.foldl_cons, stepDepth, if_neg hopen, if_neg hclose, ih hs]

/-- Blank lines do not change the depth. -/
theorem foldl_stepDepth_filter_isBlank (lines : List CodeLine) (depth : Nat) :
    ((lines.filter fun line => !line.isBlank).flatMap CodeLine.code).foldl stepDepth depth =
      (lines.flatMap CodeLine.code).foldl stepDepth depth := by
  induction lines generalizing depth with
  | nil => rfl
  | cons line lines ih =>
    rw [List.flatMap_cons, List.foldl_append]
    cases hblank : line.isBlank with
    | true =>
      rw [List.filter_cons_of_neg (by simp [hblank]), ih,
        foldl_stepDepth_of_blank (List.all_eq_true.1 hblank)]
    | false =>
      rw [List.filter_cons_of_pos (by simp [hblank]), List.flatMap_cons, List.foldl_append, ih]

/-- The braces that are open in the checked ones of some lines are as many as the depth says. -/
theorem length_openAfter_filter_isChecked (lines : List CodeLine) :
    (openAfter none [] (lines.filter CodeLine.isChecked)).length = braceDepth lines := by
  have hfilter : lines.filter CodeLine.isChecked =
      (lines.filter fun line => !line.isDirective).filter fun line => !line.isBlank := by
    rw [List.filter_filter]
    rfl
  rw [length_openAfter, hfilter, foldl_stepDepth_filter_isBlank]
  rfl

/-! ### The scope after a row -/

/-- The scope that the scope check has reached when all rows below the given one are read: that of
its last step there. -/
def scopeBelow (flow : Bool) (lines : List (List Char)) (row : Nat) : Scope :=
  (((scopeSteps flow lines).takeWhile fun step => step.row < row).getLast?.map
    ScopeStep.scope).getD {}

private theorem scope_getLast?_scopeStepsFrom (flow : Bool) (scope : Scope) (row : Nat)
    (lines : List CodeLine) :
    (((scopeStepsFrom flow scope lines).takeWhile fun step => step.row < row).getLast?.map
        ScopeStep.scope).getD scope =
      scope.afterLines flow (lines.takeWhile fun line => line.row < row) := by
  induction lines generalizing scope with
  | nil => rfl
  | cons line lines ih =>
    rw [scopeStepsFrom]
    by_cases hline : line.row < row
    · rw [List.takeWhile_cons_of_pos (by simpa using hline),
        List.takeWhile_cons_of_pos (by simpa using hline), List.getLast?_cons, Scope.afterLines,
        List.foldl_cons, ← Scope.afterLines, ← ih (scope.afterLine flow line)]
      cases ((scopeStepsFrom flow (scope.afterLine flow line) lines).takeWhile
        fun step => step.row < row).getLast? <;> rfl
    · rw [List.takeWhile_cons_of_neg (by simpa using hline),
        List.takeWhile_cons_of_neg (by simpa using hline)]
      rfl

/-- The checked lines up to a row are the checked ones of the lines up to it. -/
private theorem takeWhile_row_lt_filter_isChecked (lines : List (List Char)) (row : Nat) :
    (((scanLines lines).filter CodeLine.isChecked).takeWhile fun line => line.row < row) =
      ((scanLines lines).take row).filter CodeLine.isChecked := by
  have habove : ∀ line ∈ ((scanLines lines).take row).filter CodeLine.isChecked,
      decide (line.row < row) = true := by
    intro line hline
    obtain ⟨k, hk⟩ := List.mem_iff_getElem?.1 (List.mem_filter.1 hline).1
    rw [List.getElem?_take] at hk
    split at hk
    · next hlt => simpa [row_of_getElem?_scanLines hk] using hlt
    · cases hk
  have hbelow : ∀ line ∈ ((scanLines lines).drop row).filter CodeLine.isChecked,
      ¬decide (line.row < row) = true := by
    intro line hline
    obtain ⟨k, hk⟩ := List.mem_iff_getElem?.1 (List.mem_filter.1 hline).1
    rw [List.getElem?_drop] at hk
    simp [row_of_getElem?_scanLines hk]
  calc (((scanLines lines).filter CodeLine.isChecked).takeWhile fun line => line.row < row)
      = ((((scanLines lines).take row).filter CodeLine.isChecked ++
          ((scanLines lines).drop row).filter CodeLine.isChecked).takeWhile
            fun line => line.row < row) := by
        rw [← List.filter_append, List.take_append_drop]
    _ = ((scanLines lines).take row).filter CodeLine.isChecked := by
        rw [List.takeWhile_append_of_pos habove]
        cases hlines : ((scanLines lines).drop row).filter CodeLine.isChecked with
        | nil => simp
        | cons line later =>
          rw [List.takeWhile_cons, if_neg (hbelow line (by simp [hlines])), List.append_nil]

/-- The scope below a row is the one after the checked lines up to it. -/
theorem scopeBelow_eq_afterLines (flow : Bool) (lines : List (List Char)) (row : Nat) :
    scopeBelow flow lines row =
      Scope.afterLines flow {} (((scanLines lines).take row).filter CodeLine.isChecked) := by
  rw [scopeBelow, scopeSteps, scope_getLast?_scopeStepsFrom, takeWhile_row_lt_filter_isChecked]

/-- After every row the tracker of bodies and the scope check are both as deep as the braces say. -/
theorem stack_depths_eq_braceDepth (flow : Bool) (lines : List (List Char)) (row : Nat) :
    let seen := (scanLines lines).take row
    (Bodies.readLines {} seen).stack.length = (scopeBelow flow lines row).depth ∧
      (scopeBelow flow lines row).depth = braceDepth seen := by
  intro seen
  have hbodies : (Bodies.readLines {} seen).stack.length = braceDepth seen := by
    rw [← length_openAfter_filter_isChecked]
    exact Bodies.length_stack_readLines rfl none seen
  have hscope : (scopeBelow flow lines row).depth = braceDepth seen := by
    have hflags := congrArg List.length
      (Scope.map_isStruct_afterLines flow (seen.filter CodeLine.isChecked))
    rw [List.length_map, List.length_map, length_openAfter_filter_isChecked] at hflags
    rw [scopeBelow_eq_afterLines]
    exact hflags
  exact ⟨hbodies.trans hscope.symm, hscope⟩

example :
    let lines := ["\x7d int f(void) \x7b", "#define OPEN \x7b", "", "s = \"\x7b\"; \x7b"]
    braceDepth (scanLines (lines.map String.toList)) = 2 := by
  decide +kernel

end DefectScan
