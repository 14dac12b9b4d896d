import DefectScan.Proofs.Rows

/-!
# The variable check with and without flow

The variable check goes once over the uses of a declared variable: a write marks the variable and
the first one gives its row, a read is reported. With `flow` reads are reported until the mark is
set only. The reports of the check are those of such passes. Two passes over the same uses, one
with `flow` and one without, stay in step: they mark alike, and until the mark is set they report
alike. From this follows how the two checks compare, declaration by declaration.
-/

namespace DefectScan

/-! ### Passes over uses -/

/-- What is known of a variable in the middle of a pass over its uses. -/
structure UsePass where
  /-- Whether a write was seen. -/
  isInitialized : Bool := false
  /-- The row of the first write. -/
  firstWrite : Option Nat := none
  /-- The reads to report. -/
  reads : List Use := []

namespace UsePass

/-- The pass over one more use. With `flow` a read of a marked variable does not count. -/
def step (flow : Bool) (pass : UsePass) (u : Use) : UsePass :=
  if u.isWrite then
    { pass with
      isInitialized := true
      firstWrite := pass.firstWrite.or (some u.position.row) }
  else if flow && pass.isInitialized then pass
  else { pass with reads := pass.reads ++ [u] }

section Step

variable {flow : Bool} {pass : UsePass} {u : Use}

theorem step_of_isWrite (h : u.isWrite = true) :
    pass.step flow u =
      { pass with
        isInitialized := true
        firstWrite := pass.firstWrite.or (some u.position.row) } :=
  if_pos h

theorem step_of_read (h : u.isWrite = false) (hcounts : (flow && pass.isInitialized) = false) :
    pass.step flow u = { pass with reads := pass.reads ++ [u] } := by
  simp [step, h, hcounts]

theorem step_of_late (h : u.isWrite = false) (hmark : pass.isInitialized = true) :
    pass.step true u = pass := by
  simp [step, h, hmark]

end Step

/-- The pass over all uses. -/
def run (flow : Bool) (uses : List Use) : UsePass := uses.foldl (step flow) {}

/-- Passes over the same uses, with `flow` and by default: the same writes, and the same reads until
there is one. -/
structure InStep (pass pass' : UsePass) : Prop where
  /-- Both mark the variable or neither does. -/
  isInitialized_eq : pass.isInitialized = pass'.isInitialized
  /-- The first write is the same. -/
  firstWrite_eq : pass.firstWrite = pass'.firstWrite
  /-- The reads with `flow` come first. -/
  reads_prefix : pass.reads <+: pass'.reads
  /-- Without the mark there are no others. -/
  reads_eq : pass'.isInitialized = false → pass.reads = pass'.reads

/-- A use keeps the passes in step. -/
theorem InStep.step {pass pass' : UsePass} (h : InStep pass pass') (u : Use) :
    InStep (pass.step true u) (pass'.step false u) := by
  cases hwrite : u.isWrite with
  | true =>
    rw [step_of_isWrite hwrite, step_of_isWrite hwrite]
    exact
      { isInitialized_eq := rfl
        firstWrite_eq := congrArg (Option.or · _) h.firstWrite_eq
        reads_prefix := h.reads_prefix
        reads_eq := fun hunmarked => by cases hunmarked }
  | false =>
    rw [step_of_read hwrite (Bool.false_and _)]
    by_cases hmark : pass'.isInitialized = true
    · rw [step_of_late hwrite (h.isInitialized_eq.trans hmark)]
      exact
        { h with
          reads_prefix := h.reads_prefix.trans (List.prefix_append _ _)
          reads_eq := fun hunmarked => absurd hmark (Bool.eq_false_iff.1 hunmarked) }
    · have hunmarked := Bool.eq_false_iff.2 hmark
      have hcounts : (true && pass.isInitialized) = false := h.isInitialized_eq.trans hunmarked
      rw [step_of_read hwrite hcounts]
      have hreads : pass.reads ++ [u] = pass'.reads ++ [u] := by rw [h.reads_eq hunmarked]
      exact
        { h with
          reads_prefix := hreads ▸ List.prefix_refl _
          reads_eq := fun _ => hreads }

/-- Two passes over the same uses end in step. -/
theorem inStep_run (uses : List Use) : InStep (run true uses) (run false uses) := by
  have hfrom : ∀ (pass pass' : UsePass), InStep pass pass' →
      InStep (uses.foldl (step true) pass) (uses.foldl (step false) pass') := by
    induction uses with
    | nil => exact fun _ _ h => h
    | cons u uses ih => exact fun pass pass' h => ih _ _ (h.step u)
  exact hfrom {} {} ⟨rfl, rfl, List.prefix_refl _, fun _ => rfl⟩

/-- A pass that has begun goes on as the pass over the other uses, but with `flow` the mark ends
the reads. -/
theorem foldl_step (flow : Bool) (uses : List Use) (pass : UsePass) :
    uses.foldl (step flow) pass =
      { isInitialized := pass.isInitialized || uses.any Use.isWrite
        firstWrite := pass.firstWrite.or (SyntaxTree.firstWrite? uses)
        reads := pass.reads ++
          if flow && pass.isInitialized then [] else SyntaxTree.countedReads flow uses } := by
  induction uses generalizing pass with
  | nil => cases flow <;> simp [SyntaxTree.firstWrite?, SyntaxTree.countedReads]
  | cons u uses ih =>
    rw [List.foldl_cons, ih]
    cases hwrite : u.isWrite <;> cases flow <;> cases hmark : pass.isInitialized <;>
      simp [step, hwrite, hmark, SyntaxTree.firstWrite?, SyntaxTree.countedReads]

/-- A pass over uses notes whether there is a write, the first one, and the reads that count. -/
theorem run_eq (flow : Bool) (uses : List Use) :
    run flow uses =
      { isInitialized := uses.any Use.isWrite
        firstWrite := SyntaxTree.firstWrite? uses
        reads := SyntaxTree.countedReads flow uses } := by
  rw [run, foldl_step]
  simp

end UsePass

/-! ### The check as passes -/

namespace SyntaxTree

/-- The declaration as the pass over its uses leaves it. -/
def marked (tree : SyntaxTree) (flow : Bool) (d : Declaration) : Declaration :=
  if d.isCandidate then
    { d with isInitialized := (UsePass.run flow (tree.usesOf d)).isInitialized }
  else d

/-- The reads that the pass over the uses of a variable reports. -/
def unsetReports (tree : SyntaxTree) (flow : Bool) (d : Declaration) : List Sighting :=
  if d.isCandidate then
    (UsePass.run flow (tree.usesOf d)).reads.map fun u => ⟨u.position.row, .unsetUse d.name⟩
  else []

/-- The dereferences reported after a pass over a pointer's uses: those before the first write, by
default only without a write. -/
def wildReports (tree : SyntaxTree) (flow : Bool) (d : Declaration) : List Sighting :=
  let pass := UsePass.run flow (tree.usesOf d)
  if d.isCandidate && d.isPointer && (flow || !pass.isInitialized) then
    (tree.derefRows d pass.firstWrite).map fun row =>
      ⟨row, .wildPointer d.name
        (if pass.firstWrite.isNone then .neverInitialized else .notYetInitialized)⟩
  else []

theorem isSome_firstWrite? (uses : List Use) :
    (firstWrite? uses).isSome = uses.any Use.isWrite := by
  rw [firstWrite?, Option.isSome_map, Bool.eq_iff_iff, List.find?_isSome, List.any_eq_true]

/-- What is wrong with the uses of a variable is what the pass over them reports. -/
theorem useSightings_eq (tree : SyntaxTree) (flow : Bool) (d : Declaration) :
    tree.useSightings flow d = tree.unsetReports flow d ++ tree.wildReports flow d := by
  have hnone : (firstWrite? (tree.usesOf d)).isNone = !(tree.usesOf d).any Use.isWrite := by
    rw [← isSome_firstWrite?, Option.not_isSome]
  rw [useSightings, unsetReports, wildReports, UsePass.run_eq]
  dsimp only
  rw [hnone]
  cases d.isCandidate <;> rfl

/-- The check marks the declarations as its passes do, with `flow` or without. -/
theorem afterCheck_eq_marked (tree : SyntaxTree) (flow : Bool) (d : Declaration) :
    tree.afterCheck d = tree.marked flow d := by
  rw [afterCheck, marked, UsePass.run_eq]
  cases hcandidate : d.isCandidate with
  | false => rfl
  | true =>
    have hunset : d.isInitialized = false := by
      simp only [Declaration.isCandidate, Bool.and_eq_true, Bool.not_eq_true'] at hcandidate
      exact hcandidate.1.1.1
    cases hany : (tree.usesOf d).any Use.isWrite with
    | false =>
      have hsame : { d with isInitialized := false } = d := by rw [← hunset]
      exact hsame.symm
    | true => rfl

/-- The marks with `flow` are those by default. -/
theorem marked_eq (tree : SyntaxTree) (d : Declaration) :
    tree.marked true d = tree.marked false d := by
  rw [marked, marked, (UsePass.inStep_run (tree.usesOf d)).isInitialized_eq]

/-- The mark of a declaration does not change whether it is a null pointer. -/
theorem nullSightings_marked (tree : SyntaxTree) (flow : Bool) (d : Declaration) :
    tree.nullSightings flow (tree.marked flow d) = tree.nullSightings flow d := by
  unfold marked
  split <;> rfl

/-! ### Reports of one declaration -/

section Mem

variable {tree : SyntaxTree} {flow : Bool} {d : Declaration} {bound : Option Nat} {s : Sighting}

/-- Dereferences are looked for below the declaration. -/
theorem row_lt_of_mem_derefRows {row : Nat} (h : row ∈ tree.derefRows d bound) :
    d.position.row < row := by
  have hrow := (List.mem_filter.1 h).2
  rw [Bool.and_eq_true, decide_eq_true_iff] at hrow
  exact hrow.1

/-- Uses are looked for below the declaration. -/
theorem row_lt_of_mem_usesOf {u : Use} (h : u ∈ tree.usesOf d) :
    d.position.row < u.position.row := by
  obtain ⟨p, hp, rfl⟩ := List.mem_map.1 h
  exact of_decide_eq_true (List.mem_filter.1 hp).2

theorem of_mem_unsetReports (h : s ∈ tree.unsetReports flow d) :
    s.defect.category = .uninitialized ∧ d.position.row < s.row := by
  unfold unsetReports at h
  split at h
  · obtain ⟨u, hu, rfl⟩ := List.mem_map.1 h
    rw [UsePass.run_eq] at hu
    exact ⟨rfl, row_lt_of_mem_usesOf (mem_of_mem_countedReads hu)⟩
  · cases h

theorem of_mem_wildReports (h : s ∈ tree.wildReports flow d) :
    s.defect.category = .wildPointer ∧ d.position.row < s.row := by
  unfold wildReports at h
  dsimp only at h
  split at h
  · obtain ⟨row, hrow, rfl⟩ := List.mem_map.1 h
    exact ⟨rfl, row_lt_of_mem_derefRows hrow⟩
  · cases h

theorem of_mem_nullSightings (h : s ∈ tree.nullSightings flow d) :
    s.defect.category = .nullPointer ∧ d.position.row < s.row := by
  unfold nullSightings at h
  split at h
  · obtain ⟨row, hrow, rfl⟩ := List.mem_map.1 h
    exact ⟨rfl, row_lt_of_mem_derefRows hrow⟩
  · cases h

end Mem

/-- What the check reports of one declaration in one category. -/
def reportsOf (tree : SyntaxTree) (flow : Bool) (d : Declaration) (category : Category) :
    List Sighting :=
  (tree.useSightings flow d ++ tree.nullSightings flow d).filter
    fun s => s.defect.category == category

private theorem filter_category_eq {l : List Sighting} {c : Category}
    (h : ∀ s ∈ l, s.defect.category = c) (category : Category) :
    l.filter (fun s => s.defect.category == category) = if c = category then l else [] := by
  split
  · next hc => exact List.filter_eq_self.2 fun s hs => beq_iff_eq.2 ((h s hs).trans hc)
  · next hc =>
    refine List.filter_eq_nil_iff.2 fun s hs hcategory => hc ?_
    exact (h s hs).symm.trans (beq_iff_eq.1 hcategory)

theorem reportsOf_eq (tree : SyntaxTree) (flow : Bool) (d : Declaration) (category : Category) :
    tree.reportsOf flow d category =
      (if .uninitialized = category then tree.unsetReports flow d else []) ++
        (if .wildPointer = category then tree.wildReports flow d else []) ++
        if .nullPointer = category then tree.nullSightings flow d else [] := by
  rw [reportsOf, useSightings_eq, List.filter_append, List.filter_append,
    filter_category_eq fun s hs => (of_mem_unsetReports hs).1,
    filter_category_eq fun s hs => (of_mem_wildReports hs).1,
    filter_category_eq fun s hs => (of_mem_nullSightings hs).1]

theorem reportsOf_uninitialized (tree : SyntaxTree) (flow : Bool) (d : Declaration) :
    tree.reportsOf flow d .uninitialized = tree.unsetReports flow d := by
  simp [reportsOf_eq]

theorem reportsOf_wildPointer (tree : SyntaxTree) (flow : Bool) (d : Declaration) :
    tree.reportsOf flow d .wildPointer = tree.wildReports flow d := by
  simp [reportsOf_eq]

theorem reportsOf_nullPointer (tree : SyntaxTree) (flow : Bool) (d : Declaration) :
    tree.reportsOf flow d .nullPointer = tree.nullSightings flow d := by
  simp [reportsOf_eq]

/-! ### The comparison -/

/-- How the reports of a declaration with `flow` compare with those by default. -/
structure FlowCompared (tree : SyntaxTree) (d : Declaration) : Prop where
  /-- With `flow` the reads before the first write are reported. -/
  unset_eq : tree.reportsOf true d .uninitialized =
    if d.isCandidate then
      ((tree.usesOf d).takeWhile fun u => !u.isWrite).map
        fun u => ⟨u.position.row, .unsetUse d.name⟩
    else []
  /-- By default they are reported first. -/
  unset_prefix : tree.reportsOf true d .uninitialized <+: tree.reportsOf false d .uninitialized
  /-- By default no wild dereference is reported or all are. -/
  wild : tree.reportsOf false d .wildPointer = [] ∨
    tree.reportsOf false d .wildPointer = tree.reportsOf true d .wildPointer
  /-- Without a write below the declaration all are. -/
  wild_eq : (∀ u ∈ tree.usesOf d, u.isWrite = false) →
    tree.reportsOf false d .wildPointer = tree.reportsOf true d .wildPointer
  /-- With `flow` some dereferences of a null pointer are left out. -/
  null_sublist : (tree.reportsOf true d .nullPointer).Sublist (tree.reportsOf false d .nullPointer)
  /-- There are no other reports, and all are on rows below the declaration. -/
  below : ∀ flow, ∀ s ∈ tree.useSightings flow d ++ tree.nullSightings flow d,
    s.defect.category ∈ [.uninitialized, .wildPointer, .nullPointer] ∧ d.position.row < s.row

/-- A bound on the rows leaves some of them out. -/
theorem derefRows_sublist (tree : SyntaxTree) (d : Declaration) (bound : Option Nat) :
    (tree.derefRows d bound).Sublist (tree.derefRows d none) := by
  have hfilter : tree.derefRows d bound =
      (tree.derefRows d none).filter fun row => bound.all (row < ·) := by
    simp [derefRows, List.filter_filter, Bool.and_comm]
  rw [hfilter]
  exact List.filter_sublist

/-- Until a write is seen, what is reported of a pointer does not depend on `flow`. -/
theorem wildReports_eq (tree : SyntaxTree) (d : Declaration)
    (h : (UsePass.run false (tree.usesOf d)).isInitialized = false) :
    tree.wildReports false d = tree.wildReports true d := by
  have hstep := UsePass.inStep_run (tree.usesOf d)
  simp only [wildReports, hstep.firstWrite_eq, h, Bool.not_false, Bool.or_true,
    Bool.true_or]

theorem flowCompared (tree : SyntaxTree) (d : Declaration) : tree.FlowCompared d := by
  have hstep := UsePass.inStep_run (tree.usesOf d)
  constructor
  case unset_eq =>
    rw [reportsOf_uninitialized, unsetReports, UsePass.run_eq]
    rfl
  case unset_prefix =>
    rw [reportsOf_uninitialized, reportsOf_uninitialized, unsetReports, unsetReports]
    split
    · exact hstep.reads_prefix.map _
    · exact List.prefix_refl []
  case wild =>
    rw [reportsOf_wildPointer, reportsOf_wildPointer]
    cases hmark : (UsePass.run false (tree.usesOf d)).isInitialized with
    | true => simp [wildReports, hmark]
    | false => exact .inr (wildReports_eq tree d hmark)
  case wild_eq =>
    intro hwrites
    rw [reportsOf_wildPointer, reportsOf_wildPointer]
    apply wildReports_eq
    rw [UsePass.run_eq]
    exact List.any_eq_false.2 fun u hu => by simp [hwrites u hu]
  case null_sublist =>
    rw [reportsOf_nullPointer, reportsOf_nullPointer, nullSightings, nullSightings]
    split
    · exact (derefRows_sublist tree d _).map _
    · exact List.nil_sublist _
  case below =>
    intro flow s hs
    rw [useSightings_eq, List.mem_append, List.mem_append] at hs
    rcases hs with (hs | hs) | hs
    · obtain ⟨hcategory, hrow⟩ := of_mem_unsetReports hs
      exact ⟨by simp [hcategory], hrow⟩
    · obtain ⟨hcategory, hrow⟩ := of_mem_wildReports hs
      exact ⟨by simp [hcategory], hrow⟩
    · obtain ⟨hcategory, hrow⟩ := of_mem_nullSightings hs
      exact ⟨by simp [hcategory], hrow⟩

end SyntaxTree

/-- The check leaves the same marks with `flow` and by default, and the reports of each declaration
compare as stated. -/
theorem variableCheck_flow_compared (path : String) (tree : SyntaxTree) (ds : List Declaration) :
    let run (flow : Bool) : CheckRun :=
      (variableCheck flow).run path { tree := some tree, declarations := ds }
    (∀ flow,
      (run flow).found = .ok
        ((groupByScope ds).flatMap (fun g => g.2.flatMap (tree.useSightings flow)) ++
          (run flow).declarations.flatMap (tree.nullSightings flow)) ∧
      (run flow).declarations = ds.map (tree.marked flow)) ∧
    (run true).declarations.map Declaration.isInitialized =
      (run false).declarations.map Declaration.isInitialized ∧
    ∀ d ∈ ds, tree.FlowCompared d := by
  intro run
  have hmarked : ∀ flow, (run flow).declarations = ds.map (tree.marked flow) := by
    intro flow
    exact List.map_congr_left fun d _ => tree.afterCheck_eq_marked flow d
  refine ⟨fun flow => ⟨?_, hmarked flow⟩, ?_, fun d _ => tree.flowCompared d⟩
  · have hnull : (ds.map (tree.marked flow)).flatMap (tree.nullSightings flow) =
        ds.flatMap (tree.nullSightings flow) := by
      simp only [List.flatMap_map, SyntaxTree.nullSightings_marked]
    rw [hmarked flow, hnull]
    rfl
  · have hsame : tree.marked true = tree.marked false := funext tree.marked_eq
    rw [hmarked true, hmarked false, hsame]

/-- A tree over `int *p;`, `*p;`, `p = 0;` and `*p;` on four lines. -/
private def lateWriteTree : SyntaxTree where
  root :=
    .mk ⟨"translation_unit", none, 0, 22, true, false, false⟩
      [.mk ⟨"declaration", none, 0, 7, true, false, false⟩
        [.mk ⟨"pointer_declarator", some "declarator", 4, 6, true, false, false⟩
          [.mk ⟨"identifier", some "declarator", 5, 6, true, false, false⟩ []]],
      .mk ⟨"pointer_expression", none, 8, 10, true, false, false⟩
        [.mk ⟨"*", some "operator", 8, 9, false, false, false⟩ [],
        .mk ⟨"identifier", some "argument", 9, 10, true, false, false⟩ []],
      .mk ⟨"assignment_expression", none, 12, 17, true, false, false⟩
        [.mk ⟨"identifier", some "left", 12, 13, true, false, false⟩ [],
        .mk ⟨"number_literal", some "right", 16, 17, true, false, false⟩ []],
      .mk ⟨"pointer_expression", none, 19, 21, true, false, false⟩
        [.mk ⟨"*", some "operator", 19, 20, false, false, false⟩ [],
        .mk ⟨"identifier", some "argument", 20, 21, true, false, false⟩ []]]
  bytes := (Text.utf8 "int *p;\n*p;\np = 0;\n*p;".toList).toArray
  lines := Text.splitLines "int *p;\n*p;\np = 0;\n*p;".toList

/-- With a write on the third line, both reads are reported by default; with `flow` the first read
and the first dereference are. -/
theorem variableCheck_flow_compared_lateWrite :
    let d : Declaration :=
      { name := ['p'], declaredType := "int".toList, position := ⟨0, 5⟩, isPointer := true }
    let tree := lateWriteTree
    tree.declarations = .ok [d] ∧
      tree.reportsOf true d .uninitialized = [⟨1, .unsetUse ['p']⟩] ∧
      tree.reportsOf false d .uninitialized = [⟨1, .unsetUse ['p']⟩, ⟨3, .unsetUse ['p']⟩] ∧
      tree.reportsOf true d .wildPointer = [⟨1, .wildPointer ['p'] .notYetInitialized⟩] ∧
      tree.reportsOf false d .wildPointer = [] ∧ tree.FlowCompared d := by
  intro d tree
  have hds : tree.declarations = .ok [d] := by decide +kernel
  have hcompared := (variableCheck_flow_compared "a.c" tree [d]).2.2 d List.mem_cons_self
  refine ⟨hds, ?_, ?_, ?_, ?_, hcompared⟩
  · decide +kernel
  · decide +kernel
  · decide +kernel
  · decide +kernel

end DefectScan
