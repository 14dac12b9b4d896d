import DefectScan.Proofs.TreeFlow
import Mathlib.Data.List.Forall2

/-!
# Checking the variables twice

The variable check marks the declarations that it saw being written and changes nothing else of
them. The mark is read by the check itself: a marked variable is no candidate any more. A second
check of the same declarations therefore leaves out what the first one reported of the variables it
marked, as unset or as wild pointers, and reports all else once more.
-/

namespace DefectScan

/-- A declaration that may turn out to be read without a value: nothing gives it one, and it is
neither an array nor defined elsewhere. -/
theorem Declaration.isCandidate_iff (d : Declaration) :
    d.isCandidate = true ↔ d.isInitialized = false ∧ d.isParameter = false ∧ d.isArray = false ∧
      d.storage ≠ some "extern".toList := by
  simp [isCandidate, and_assoc]

/-! ### Marks -/

namespace SyntaxTree

/-- Whether a declared name is assigned below the row of its declaration, other than through its
value. -/
def IsAssignedBelow (tree : SyntaxTree) (d : Declaration) : Prop :=
  ∃ p ∈ tree.usages d.name, d.position.row < p.row ∧ p ∉ tree.dereferences d.name ∧
    isAssignmentTarget ((tree.lines[p.row]?).getD []) d.name p.column = true

/-- How a check leaves a declaration: unchanged but for the mark, which a candidate gets that is
assigned below. -/
structure ChecksTo (tree : SyntaxTree) (d d' : Declaration) : Prop where
  /-- All but the mark is kept. -/
  eq_marked : d' = { d with isInitialized := d'.isInitialized }
  /-- Who is marked. -/
  isInitialized_iff : d'.isInitialized = true ↔
    d.isInitialized = true ∨
      (d.isInitialized = false ∧ d.isParameter = false ∧ d.isArray = false ∧
        d.storage ≠ some "extern".toList) ∧ tree.IsAssignedBelow d

/-- Whether a check gives a declaration the mark that it did not have. -/
def flips (tree : SyntaxTree) (d : Declaration) : Bool :=
  !d.isInitialized && (tree.afterCheck d).isInitialized

section Marks

variable (tree : SyntaxTree) (d : Declaration)

/-- A write among the uses is an assignment below the declaration. -/
theorem any_isWrite_usesOf_iff :
    (tree.usesOf d).any Use.isWrite = true ↔ tree.IsAssignedBelow d := by
  simp only [usesOf, List.any_map, List.any_eq_true, List.mem_filter, Function.comp_apply,
    decide_eq_true_iff, Bool.and_eq_true, Bool.not_eq_true', List.contains_eq_mem,
    decide_eq_false_iff_not, IsAssignedBelow, and_assoc]

theorem checksTo_afterCheck : tree.ChecksTo d (tree.afterCheck d) := by
  rw [afterCheck]
  split
  · next h =>
    obtain ⟨hcandidate, hwrite⟩ := Bool.and_eq_true_iff.1 h
    refine ⟨rfl, iff_of_true rfl (.inr ⟨d.isCandidate_iff.1 hcandidate, ?_⟩)⟩
    exact (tree.any_isWrite_usesOf_iff d).1 hwrite
  · next h =>
    refine ⟨rfl, .inl, ?_⟩
    rintro (hmarked | ⟨hcandidate, hassigned⟩)
    · exact hmarked
    · refine absurd (Bool.and_eq_true_iff.2 ⟨d.isCandidate_iff.2 hcandidate, ?_⟩) h
      exact (tree.any_isWrite_usesOf_iff d).2 hassigned

variable {tree d}

theorem afterCheck_of_flips (h : tree.flips d = true) :
    tree.afterCheck d = { d with isInitialized := true } := by
  rw [(tree.checksTo_afterCheck d).eq_marked, (Bool.and_eq_true_iff.1 h).2]

theorem afterCheck_of_not_flips (h : tree.flips d = false) : tree.afterCheck d = d := by
  have hmark : (tree.afterCheck d).isInitialized = d.isInitialized := by
    cases hd : d.isInitialized with
    | true => exact (tree.checksTo_afterCheck d).isInitialized_iff.2 (.inl hd)
    | false => simpa [flips, hd] using h
  rw [(tree.checksTo_afterCheck d).eq_marked, hmark]

variable (tree d)

theorem scope_afterCheck : (tree.afterCheck d).scope = d.scope := by
  rw [(tree.checksTo_afterCheck d).eq_marked]

/-- What the check has marked, it marks no more. -/
theorem afterCheck_afterCheck : tree.afterCheck (tree.afterCheck d) = tree.afterCheck d := by
  cases h : tree.flips d with
  | true =>
    rw [afterCheck_of_flips h]
    exact afterCheck_of_not_flips rfl
  | false => rw [afterCheck_of_not_flips h, afterCheck_of_not_flips h]

/-- Of a variable that was marked nothing is reported the next time, of any other the same. -/
theorem useSightings_afterCheck (flow : Bool) :
    tree.useSightings flow (tree.afterCheck d) =
      if tree.flips d then [] else tree.useSightings flow d := by
  split
  · next h =>
    rw [afterCheck_of_flips h]
    rfl
  · next h => rw [afterCheck_of_not_flips (Bool.eq_false_iff.2 h)]

theorem nullSightings_afterCheck (flow : Bool) :
    tree.nullSightings flow (tree.afterCheck d) = tree.nullSightings flow d := by
  rw [afterCheck_eq_marked tree flow, nullSightings_marked]

end Marks

end SyntaxTree

/-- Declarations that keep their scopes are grouped alike. -/
theorem groupByScope_map {f : Declaration → Declaration} (hf : ∀ d, (f d).scope = d.scope)
    (ds : List Declaration) :
    groupByScope (ds.map f) = (groupByScope ds).map fun g => (g.1, g.2.map f) := by
  have hscopes : (ds.map f).map Declaration.scope = ds.map Declaration.scope := by
    rw [List.map_map]
    exact List.map_congr_left fun d _ => hf d
  rw [groupByScope, groupByScope, hscopes, List.map_map]
  refine List.map_congr_left fun scope _ => ?_
  simp only [Function.comp_apply, List.filter_map, hf, Function.comp_def]

/-! ### Reports -/

namespace SyntaxTree

/-- What the check finds, each report with the declaration that it is about. -/
def reports (tree : SyntaxTree) (flow : Bool) (ds : List Declaration) :
    List (Declaration × Sighting) :=
  (groupByScope ds).flatMap
      (fun g => g.2.flatMap fun d => (tree.useSightings flow d).map (Prod.mk d)) ++
    ds.flatMap fun d => (tree.nullSightings flow d).map (Prod.mk d)

/-- Whether a report is about a variable that the check marks, as unset or as a wild pointer. -/
def isSettled (tree : SyntaxTree) (r : Declaration × Sighting) : Bool :=
  tree.flips r.1 &&
    (r.2.defect.category == .uninitialized || r.2.defect.category == .wildPointer)

section Reports

variable (tree : SyntaxTree) (flow : Bool)

theorem map_snd_reports (ds : List Declaration) :
    (tree.reports flow ds).map Prod.snd = tree.variableCheck flow ds := by
  simp only [reports, variableCheck, List.map_append, List.map_flatMap, List.map_map,
    Function.comp_def, List.map_id']

/-- The reports of uses of a variable that are left the next time. -/
theorem map_snd_filter_useSightings (d : Declaration) :
    (((tree.useSightings flow d).map (Prod.mk d)).filter fun r => !tree.isSettled r).map Prod.snd =
      tree.useSightings flow (tree.afterCheck d) := by
  have hsettled : ∀ s ∈ tree.useSightings flow d, tree.isSettled (d, s) = tree.flips d := by
    intro s hs
    rw [useSightings_eq, List.mem_append] at hs
    rcases hs with hs | hs
    · simp [isSettled, (of_mem_unsetReports hs).1]
    · simp [isSettled, (of_mem_wildReports hs).1]
  rw [List.filter_map, List.map_map, useSightings_afterCheck]
  have hkept : ((fun r => !tree.isSettled r) ∘ Prod.mk d) = fun s => !tree.isSettled (d, s) := rfl
  rw [hkept, List.filter_congr fun s hs => congrArg not (hsettled s hs)]
  cases tree.flips d <;> simp [Function.comp_def]

/-- The reports of null pointers are all left the next time. -/
theorem map_snd_filter_nullSightings (d : Declaration) :
    (((tree.nullSightings flow d).map (Prod.mk d)).filter
        fun r => !tree.isSettled r).map Prod.snd =
      tree.nullSightings flow (tree.afterCheck d) := by
  have hkept : ∀ s ∈ tree.nullSightings flow d, tree.isSettled (d, s) = false := by
    intro s hs
    simp [isSettled, (of_mem_nullSightings hs).1]
  rw [List.filter_map, List.map_map, nullSightings_afterCheck, List.filter_eq_self.2]
  · simp [Function.comp_def]
  · intro s hs
    simp [hkept s hs]

/-- A second check of the same declarations reports what is not settled. -/
theorem variableCheck_map_afterCheck (ds : List Declaration) :
    tree.variableCheck flow (ds.map tree.afterCheck) =
      ((tree.reports flow ds).filter fun r => !tree.isSettled r).map Prod.snd := by
  rw [variableCheck, groupByScope_map tree.scope_afterCheck]
  simp only [reports, List.filter_append, List.map_append, List.filter_flatMap, List.map_flatMap,
    List.flatMap_map, map_snd_filter_useSightings, map_snd_filter_nullSightings]

end Reports

end SyntaxTree

/-- The check only marks candidates assigned below; a second one finds the same but the unset
variables and wild pointers of marked ones. -/
theorem variableCheck_twice (path : String) (tree : SyntaxTree) (ds : List Declaration)
    (flow : Bool) :
    let run (ds : List Declaration) : CheckRun :=
      (variableCheck flow).run path { tree := some tree, declarations := ds }
    let checked := (run ds).declarations
    List.Forall₂ tree.ChecksTo ds checked ∧
      (run ds).found = .ok ((tree.reports flow ds).map Prod.snd) ∧
      (run checked).found =
        .ok (((tree.reports flow ds).filter fun r => !tree.isSettled r).map Prod.snd) ∧
      (run checked).declarations = checked := by
  intro run checked
  refine ⟨?_, ?_, ?_, ?_⟩
  · exact List.forall₂_map_right_iff.2 (List.forall₂_same.2 fun d _ => tree.checksTo_afterCheck d)
  · exact congrArg Except.ok (tree.map_snd_reports flow ds).symm
  · exact congrArg Except.ok (tree.variableCheck_map_afterCheck flow ds)
  · have htwice : (ds.map tree.afterCheck).map tree.afterCheck = ds.map tree.afterCheck := by
      rw [List.map_map]
      exact List.map_congr_left fun d _ => tree.afterCheck_afterCheck d
    exact htwice

end DefectScan
