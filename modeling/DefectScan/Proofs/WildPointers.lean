import DefectScan.Proofs.PrunedTrees
import DefectScan.Proofs.TreeFlow

/-!
# Wild pointers are unset variables

Reads of unset variables and dereferences of wild pointers are looked for in two searches of the
tree, and each is cut off in its own way: the reads by a mark that the first write sets, the
dereferences by the row of that write. Where the rows of the identifiers never go back, the two
cuts agree on what stands above the first write, and a dereferenced name that is not declared there
is a use of the name and no write. So every wild pointer is reported as an unset variable too.
-/

namespace DefectScan

/-! ### Reads above the first write -/

namespace UsePass

/-- What a pass knows of the uses it went over. -/
structure Covers (pass : UsePass) (seen : List Use) : Prop where
  /-- The mark is set when the first write is known. -/
  isInitialized_eq : pass.isInitialized = pass.firstWrite.isSome
  /-- The first write is on the row of a use. -/
  exists_firstWrite : ∀ row ∈ pass.firstWrite, ∃ w ∈ seen, w.position.row = row
  /-- The reads above the row of the first write are reported. -/
  mem_reads : ∀ u ∈ seen, u.isWrite = false →
    (∀ row ∈ pass.firstWrite, u.position.row < row) → u ∈ pass.reads

/-- One more use, on the row of the last one or below, is covered as well. -/
theorem Covers.step {pass : UsePass} {seen : List Use} (h : pass.Covers seen) (flow : Bool)
    {u : Use} (hrows : ∀ w ∈ seen, w.position.row ≤ u.position.row) :
    (pass.step flow u).Covers (seen ++ [u]) := by
  have hkept : ∀ row ∈ pass.firstWrite, ∃ w ∈ seen ++ [u], w.position.row = row := by
    intro row hrow
    obtain ⟨w, hw, hrow⟩ := h.exists_firstWrite row hrow
    exact ⟨w, List.mem_append_left _ hw, hrow⟩
  cases hwrite : u.isWrite with
  | true =>
    rw [step_of_isWrite hwrite]
    refine ⟨by simp, ?_, ?_⟩
    · intro row hrow
      cases hfirst : pass.firstWrite with
      | none =>
        rw [hfirst, Option.none_or, Option.mem_some_iff] at hrow
        exact ⟨u, by simp, hrow⟩
      | some first =>
        rw [hfirst, Option.some_or] at hrow
        exact hkept row (hfirst ▸ hrow)
    · intro w hw hread habove
      rcases List.mem_append.1 hw with hw | hw
      · refine h.mem_reads w hw hread fun row hrow => habove row ?_
        rw [Option.mem_def.1 hrow]
        exact Option.mem_some_self row
      · rw [List.mem_singleton.1 hw, hwrite] at hread
        cases hread
  | false =>
    by_cases hlate : flow = true ∧ pass.isInitialized = true
    · obtain ⟨rfl, hmark⟩ := hlate
      rw [step_of_late hwrite hmark]
      refine ⟨h.isInitialized_eq, hkept, ?_⟩
      intro w hw hread habove
      rcases List.mem_append.1 hw with hw | hw
      · exact h.mem_reads w hw hread habove
      · rw [h.isInitialized_eq, Option.isSome_iff_exists] at hmark
        obtain ⟨row, hrow⟩ := hmark
        obtain ⟨first, hfirst, rfl⟩ := h.exists_firstWrite row hrow
        have hlt := habove _ hrow
        rw [List.mem_singleton.1 hw] at hlt
        exact absurd (hrows first hfirst) (Nat.not_le.2 hlt)
    · have hcounts : (flow && pass.isInitialized) = false := by simpa using hlate
      rw [step_of_read hwrite hcounts]
      refine ⟨h.isInitialized_eq, hkept, ?_⟩
      intro w hw hread habove
      rcases List.mem_append.1 hw with hw | hw
      · exact List.mem_append_left _ (h.mem_reads w hw hread habove)
      · exact List.mem_append_right _ hw

/-- A pass over uses whose rows never go back reports the reads above the first write. -/
theorem covers_run (flow : Bool) {uses : List Use}
    (hrows : uses.Pairwise fun u w => u.position.row ≤ w.position.row) :
    (run flow uses).Covers uses := by
  have hfrom : ∀ (rest seen : List Use) (pass : UsePass), pass.Covers seen →
      (seen ++ rest).Pairwise (fun u w => u.position.row ≤ w.position.row) →
      (rest.foldl (UsePass.step flow) pass).Covers (seen ++ rest) := by
    intro rest
    induction rest with
    | nil =>
      intro seen pass h _
      rwa [List.append_nil]
    | cons u rest ih =>
      intro seen pass h hpairwise
      have habove : ∀ w ∈ seen, w.position.row ≤ u.position.row := fun w hw =>
        (List.pairwise_append.1 hpairwise).2.2 w hw u List.mem_cons_self
      have hrest := ih (seen ++ [u]) (pass.step flow u) (h.step flow habove)
      rw [List.append_assoc, List.singleton_append] at hrest
      exact hrest hpairwise
  exact hfrom uses [] {} ⟨rfl, nofun, nofun⟩ hrows

end UsePass

namespace SyntaxTree

/-! ### Dereferences are uses -/

/-- The rows of the identifiers never go back in document order. -/
def RowsAscend (tree : SyntaxTree) : Prop :=
  (tree.root.walk.filter fun n => n.kind == "identifier").Pairwise
    fun n m => tree.row n ≤ tree.row m

instance (tree : SyntaxTree) : Decidable tree.RowsAscend :=
  inferInstanceAs (Decidable (List.Pairwise _ _))

/-- No identifier that is dereferenced is a name that is declared there. -/
def DereferencesOnlyUses (tree : SyntaxTree) : Prop :=
  ∀ n ∈ tree.root.walk, ∀ argument ∈ dereferenced? n,
    argument.kind = "identifier" → argument.start ∉ tree.declaredStarts

instance (tree : SyntaxTree) : Decidable tree.DereferencesOnlyUses :=
  inferInstanceAs (Decidable (∀ n ∈ tree.root.walk, ∀ argument ∈ dereferenced? n, _ → _))

section Dereferences

variable {tree : SyntaxTree} {name : List Char} {d : Declaration}

theorem mem_children_of_dereferenced? {n argument : Node} (h : dereferenced? n = some argument) :
    argument ∈ n.children := by
  unfold dereferenced? at h
  split at h
  · exact List.mem_of_find?_eq_some h
  · cases h

/-- Where a name is dereferenced, it is used. -/
theorem DereferencesOnlyUses.mem_usages (h : tree.DereferencesOnlyUses) {p : Position}
    (hp : p ∈ tree.dereferences name) : p ∈ tree.usages name := by
  simp only [dereferences, List.mem_filterMap, Option.bind_eq_bind, Option.bind_eq_some_iff] at hp
  obtain ⟨n, hn, argument, hargument, _, hguard, hposition⟩ := hp
  have hname : tree.isName name argument = true := by
    by_contra hname
    rw [guard, if_neg hname] at hguard
    cases hguard
  have hwalk : argument ∈ tree.root.walk := by
    refine Node.mem_walkFrom_of_mem_walk hn ?_
    refine Node.mem_walk_of_mem_children (mem_children_of_dereferenced? hargument) ?_
    rw [Node.walk_eq]
    exact List.mem_cons_self
  have hundeclared : argument.start ∉ tree.declaredStarts := by
    refine h n hn argument hargument ?_
    exact beq_iff_eq.1 (Bool.and_eq_true_iff.1 hname).1
  refine List.mem_map.2 ⟨argument, List.mem_filter.2 ⟨hwalk, ?_⟩, Option.some.inj hposition⟩
  simp [hname, hundeclared]

/-- A row on which a variable is dereferenced is the row of a read of it. -/
theorem DereferencesOnlyUses.exists_read (h : tree.DereferencesOnlyUses) {bound : Option Nat}
    {row : Nat} (hrow : row ∈ tree.derefRows d bound) :
    ∃ u ∈ tree.usesOf d, u.isWrite = false ∧ u.position.row = row ∧ ∀ b ∈ bound, row < b := by
  obtain ⟨hmem, hcut⟩ := List.mem_filter.1 hrow
  obtain ⟨p, hp, rfl⟩ := List.mem_map.1 hmem
  rw [Bool.and_eq_true, decide_eq_true_iff] at hcut
  refine ⟨_, List.mem_map_of_mem (List.mem_filter.2 ⟨h.mem_usages hp, decide_eq_true hcut.1⟩),
    ?_, rfl, ?_⟩
  · simp [hp]
  · intro b hb
    have hall := hcut.2
    rw [Option.mem_def.1 hb] at hall
    exact of_decide_eq_true hall

/-- The uses of a name are found in document order. -/
theorem RowsAscend.pairwise_usesOf (h : tree.RowsAscend) (d : Declaration) :
    (tree.usesOf d).Pairwise fun u w => u.position.row ≤ w.position.row := by
  have hnames : (tree.root.walk.filter fun n =>
      tree.isName d.name n && !tree.declaredStarts.contains n.start).Sublist
      (tree.root.walk.filter fun n => n.kind == "identifier") := by
    refine List.monotone_filter_right _ fun n hn => ?_
    rw [Bool.and_eq_true, isName, Bool.and_eq_true] at hn
    exact hn.1.1
  have husages : (tree.usages d.name).Pairwise fun p q => p.row ≤ q.row := by
    rw [usages, List.pairwise_map]
    exact h.sublist hnames
  rw [usesOf, List.pairwise_map]
  exact husages.sublist List.filter_sublist

end Dereferences

/-! ### The reports -/

/-- What is known of a report of a wild pointer. -/
theorem exists_of_mem_useSightings_wildPointer {tree : SyntaxTree} {flow : Bool} {d : Declaration}
    {s : Sighting} (hs : s ∈ tree.useSightings flow d) (hwild : s.defect.category = .wildPointer) :
    d.isCandidate = true ∧ (∃ state, s.defect = .wildPointer d.name state) ∧
      s.row ∈ tree.derefRows d (UsePass.run flow (tree.usesOf d)).firstWrite := by
  rw [useSightings_eq, List.mem_append] at hs
  rcases hs with hs | hs
  · rw [(of_mem_unsetReports hs).1] at hwild
    cases hwild
  · unfold wildReports at hs
    dsimp only at hs
    split at hs
    · next hreported =>
      obtain ⟨row, hrow, rfl⟩ := List.mem_map.1 hs
      rw [Bool.and_eq_true, Bool.and_eq_true] at hreported
      exact ⟨hreported.1.1, ⟨_, rfl⟩, hrow⟩
    · cases hs

/-- Where a pointer is reported as wild, it is reported as unset. -/
theorem unsetUse_mem_of_wildPointer {tree : SyntaxTree} (hrows : tree.RowsAscend)
    (hderefs : tree.DereferencesOnlyUses) {flow : Bool} {d : Declaration} {s : Sighting}
    (hs : s ∈ tree.useSightings flow d) (hwild : s.defect.category = .wildPointer) :
    ⟨s.row, .unsetUse d.name⟩ ∈ tree.useSightings flow d := by
  obtain ⟨hcandidate, -, hrow⟩ := exists_of_mem_useSightings_wildPointer hs hwild
  obtain ⟨u, hu, hread, hurow, habove⟩ := hderefs.exists_read hrow
  have hcovers := UsePass.covers_run flow (hrows.pairwise_usesOf d)
  have hcounted : u ∈ (UsePass.run flow (tree.usesOf d)).reads :=
    hcovers.mem_reads u hu hread (hurow ▸ habove)
  rw [useSightings_eq, unsetReports, if_pos hcandidate]
  exact List.mem_append_left _ (List.mem_map.2 ⟨u, hcounted, by rw [hurow]⟩)

end SyntaxTree

/-- If the rows of identifiers never go back, every wild pointer is also reported as an unset
variable on its line. -/
theorem wildPointers_reported_unset (path : String) (tree : SyntaxTree) (hrows : tree.RowsAscend)
    (hderefs : tree.DereferencesOnlyUses) (flow : Bool) (ds : List Declaration) :
    (∀ d ∈ ds,
      let issues := (tree.useSightings flow d).map (Sighting.issue path)
      ∀ issue ∈ issues, issue.category = .wildPointer →
        ∃ row state, issue = Sighting.issue path ⟨row, .wildPointer d.name state⟩ ∧
          Sighting.issue path ⟨row, .unsetUse d.name⟩ ∈ issues) ∧
    let issues := (tree.variableCheck flow ds).map (Sighting.issue path)
    ∀ issue ∈ issues, issue.category = .wildPointer →
      ∃ d ∈ ds, ∃ row state, issue = Sighting.issue path ⟨row, .wildPointer d.name state⟩ ∧
        Sighting.issue path ⟨row, .unsetUse d.name⟩ ∈ issues := by
  constructor
  · intro d _ issues issue hissue hwild
    obtain ⟨⟨row, defect⟩, hs, rfl⟩ := List.mem_map.1 hissue
    obtain ⟨-, ⟨state, rfl⟩, -⟩ := SyntaxTree.exists_of_mem_useSightings_wildPointer hs hwild
    have hunset := SyntaxTree.unsetUse_mem_of_wildPointer hrows hderefs hs hwild
    exact ⟨row, state, rfl, List.mem_map_of_mem hunset⟩
  · intro issues issue hissue hwild
    obtain ⟨⟨row, defect⟩, hs, rfl⟩ := List.mem_map.1 hissue
    rcases List.mem_append.1 hs with hs | hs
    · obtain ⟨g, hg, hgroup⟩ := List.mem_flatMap.1 hs
      obtain ⟨scope, -, rfl⟩ := List.mem_map.1 hg
      obtain ⟨d, hd, hs⟩ := List.mem_flatMap.1 hgroup
      obtain ⟨-, ⟨state, rfl⟩, -⟩ := SyntaxTree.exists_of_mem_useSightings_wildPointer hs hwild
      have hunset := SyntaxTree.unsetUse_mem_of_wildPointer hrows hderefs hs hwild
      refine ⟨d, (List.mem_filter.1 hd).1, row, state, rfl, List.mem_map_of_mem ?_⟩
      refine List.mem_append_left _ (List.mem_flatMap.2 ⟨_, hg, ?_⟩)
      exact List.mem_flatMap.2 ⟨d, hd, hunset⟩
    · obtain ⟨d, -, hs⟩ := List.mem_flatMap.1 hs
      have hnull := (SyntaxTree.of_mem_nullSightings hs).1
      exact absurd (hnull.symm.trans hwild) (by decide)

/-- A tree over `int *p;`, `*p = 1;`, `p = q;` and `*p = 2;` on four lines. -/
private def writtenThroughTree : SyntaxTree where
  root :=
    .mk ⟨"translation_unit", none, 0, 30, true, false, false⟩
      [.mk ⟨"declaration", none, 0, 7, true, false, false⟩
        [.mk ⟨"pointer_declarator", some "declarator", 4, 6, true, false, false⟩
          [.mk ⟨"identifier", some "declarator", 5, 6, true, false, false⟩ []]],
      .mk ⟨"assignment_expression", none, 8, 14, true, false, false⟩
        [.mk ⟨"pointer_expression", some "left", 8, 10, true, false, false⟩
          [.mk ⟨"*", some "operator", 8, 9, false, false, false⟩ [],
          .mk ⟨"identifier", some "argument", 9, 10, true, false, false⟩ []]],
      .mk ⟨"assignment_expression", none, 16, 21, true, false, false⟩
        [.mk ⟨"identifier", some "left", 16, 17, true, false, false⟩ [],
        .mk ⟨"identifier", some "right", 20, 21, true, false, false⟩ []],
      .mk ⟨"assignment_expression", none, 23, 29, true, false, false⟩
        [.mk ⟨"pointer_expression", some "left", 23, 25, true, false, false⟩
          [.mk ⟨"*", some "operator", 23, 24, false, false, false⟩ [],
          .mk ⟨"identifier", some "argument", 24, 25, true, false, false⟩ []]]]
  bytes := (Text.utf8 "int *p;\n*p = 1;\np = q;\n*p = 2;".toList).toArray
  lines := Text.splitLines "int *p;\n*p = 1;\np = q;\n*p = 2;".toList

/-- Writing through the pointer on the second line is a wild dereference and a read; after the
third line neither is reported with `flow`. -/
theorem wildPointers_reported_unset_writtenThrough :
    let d : Declaration :=
      { name := ['p'], declaredType := "int".toList, position := ⟨0, 5⟩, isPointer := true }
    let tree := writtenThroughTree
    let issues := (tree.useSightings true d).map (Sighting.issue "a.c")
    tree.RowsAscend ∧ tree.DereferencesOnlyUses ∧ tree.declarations = .ok [d] ∧
      Sighting.issue "a.c" ⟨1, .wildPointer ['p'] .notYetInitialized⟩ ∈ issues ∧
      Sighting.issue "a.c" ⟨1, .unsetUse ['p']⟩ ∈ issues ∧ issues.length = 2 := by
  intro d tree issues
  have hrows : tree.RowsAscend := by decide +kernel
  have hderefs : tree.DereferencesOnlyUses := by decide +kernel
  have hds : tree.declarations = .ok [d] := by decide +kernel
  have hwild : Sighting.issue "a.c" ⟨1, .wildPointer ['p'] .notYetInitialized⟩ ∈ issues := by
    decide +kernel
  obtain ⟨row, state, hissue, hunset⟩ :=
    (wildPointers_reported_unset "a.c" tree hrows hderefs true [d]).1 d List.mem_cons_self _ hwild
      rfl
  have hrow : row = 1 := by
    have hline := congrArg Issue.line hissue
    simp only [Sighting.issue, Issue.atRow] at hline
    omega
  rw [hrow] at hunset
  exact ⟨hrows, hderefs, hds, hwild, hunset, by decide +kernel⟩

end DefectScan
