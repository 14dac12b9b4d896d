import DefectScan.Proofs.DocumentOrder
import DefectScan.Tree.Basic
import Mathlib.Logic.Relation

/-!
# The first syntax error

A strict reader refuses a tree with errors and names the line of one of them. It looks for it by
going down from the root, always to the first child that has errors, until it stands on a broken
node. Every step leads to a smaller tree, so the descent ends. If a node has errors exactly when a
broken node is at or below it, then nothing before the child that is entered is broken, and the
descent ends at the first broken node of the whole tree in document order.
-/

namespace DefectScan

open Text

namespace Node

/-- A node that is an error, or stands for something that is missing. -/
def isBroken (n : Node) : Bool := n.kind == "ERROR" || n.info.isMissing

/-- The nodes of a tree have errors if and only if they are broken or stand above a broken node. -/
def HasExactFlags (root : Node) : Prop :=
  ∀ n ∈ root.preorder, n.hasError = true ↔ ∃ m ∈ n.preorder, m.isBroken = true

instance (root : Node) : Decidable root.HasExactFlags :=
  inferInstanceAs
    (Decidable (∀ n ∈ root.preorder, n.hasError = true ↔ ∃ m ∈ n.preorder, m.isBroken = true))

/-! ### Nodes below nodes -/

theorem mem_preorder_self (n : Node) : n ∈ n.preorder := by
  rw [preorder_eq]
  exact List.mem_cons_self

theorem mem_preorder_of_mem_children {c n m : Node} (hc : c ∈ n.children) (hm : m ∈ c.preorder) :
    m ∈ n.preorder := by
  rw [preorder_eq, preorderAll_eq_flatMap]
  exact List.mem_cons_of_mem _ (List.mem_flatMap.2 ⟨c, hc, hm⟩)

/-- What is below a node but not the node itself is at or below one of its children. -/
theorem exists_child_of_mem_preorder {n m : Node} (hm : m ∈ n.preorder) (hne : m ≠ n) :
    ∃ c ∈ n.children, m ∈ c.preorder := by
  rw [preorder_eq, List.mem_cons, preorderAll_eq_flatMap] at hm
  rcases hm with rfl | hm
  · exact absurd rfl hne
  · exact List.mem_flatMap.1 hm

namespace HasExactFlags

variable {n c : Node}

theorem of_mem_children (h : n.HasExactFlags) (hc : c ∈ n.children) : c.HasExactFlags :=
  fun m hm => h m (mem_preorder_of_mem_children hc hm)

/-- Nothing is broken in a tree without errors. -/
theorem isBroken_eq_false (h : n.HasExactFlags) (hn : n.hasError = false) {m : Node}
    (hm : m ∈ n.preorder) : m.isBroken = false := by
  rw [Bool.eq_false_iff]
  intro hbroken
  have herror : n.hasError = true := (h n n.mem_preorder_self).2 ⟨m, hm, hbroken⟩
  rw [hn] at herror
  cases herror

/-- A node with errors is broken or has a child with errors. -/
theorem exists_child (h : n.HasExactFlags) (hn : n.hasError = true)
    (hbroken : n.isBroken = false) : ∃ c ∈ n.children, c.hasError = true := by
  obtain ⟨m, hm, hm'⟩ := (h n n.mem_preorder_self).1 hn
  have hne : m ≠ n := by
    rintro rfl
    rw [hbroken] at hm'
    cases hm'
  obtain ⟨c, hc, hmc⟩ := exists_child_of_mem_preorder hm hne
  exact ⟨c, hc, (h.of_mem_children hc c c.mem_preorder_self).2 ⟨m, hmc, hm'⟩⟩

end HasExactFlags

/-! ### The descent -/

/-- One step of a descent along marked nodes: from a broken node nowhere, from any other node to
its first marked child. -/
def stepDown? (marked : Node → Bool) (n : Node) : Option Node :=
  if n.isBroken then none else n.children.find? marked

variable {marked : Node → Bool} {n c : Node}

/-- A step leads to a marked child before which no child is marked. -/
theorem exists_split_of_stepDown? (h : n.stepDown? marked = some c) :
    n.isBroken = false ∧ ∃ before after, n.children = before ++ c :: after ∧ marked c = true ∧
      ∀ b ∈ before, marked b = false := by
  unfold stepDown? at h
  split at h
  · cases h
  · next hbroken =>
    obtain ⟨hc, before, after, hchildren, hbefore⟩ := List.find?_eq_some_iff_append.1 h
    exact ⟨Bool.eq_false_iff.2 hbroken, before, after, hchildren, hc,
      fun b hb => by simpa using hbefore b hb⟩

/-- There is no step from a broken node and from one without marked children. -/
theorem stepDown?_eq_none_iff :
    n.stepDown? marked = none ↔ n.isBroken = true ∨ ∀ c ∈ n.children, marked c = false := by
  unfold stepDown?
  split
  · next hbroken => simp only [hbroken, true_or]
  · next hbroken => simp only [hbroken, Bool.false_eq_true, false_or, List.find?_eq_none,
      Bool.not_eq_true]

/-- However the nodes are marked, the descent does not go on for ever. -/
theorem wellFounded_stepDown? (marked : Node → Bool) :
    WellFounded fun c n : Node => n.stepDown? marked = some c := by
  refine Subrelation.wf ?_ (measure size).wf
  intro c n h
  obtain ⟨-, before, after, hchildren, -⟩ := exists_split_of_stepDown? h
  have hc : c ∈ n.children := by
    rw [hchildren]
    exact List.mem_append_right _ List.mem_cons_self
  exact size_lt_of_mem hc

/-- The node to blame is the one to blame after a step, and the node itself if there is none. -/
theorem firstError_eq (n : Node) :
    n.firstError = match n.stepDown? hasError with
      | some c => c.firstError
      | none => n := by
  rw [firstError, stepDown?, isBroken]
  split
  · rfl
  · split <;> next hfind => simp only [hfind]

/-- The descent along the nodes with errors ends at the node to blame. -/
theorem descends_to_firstError (n : Node) :
    Relation.ReflTransGen (fun n c => n.stepDown? hasError = some c) n n.firstError ∧
      n.firstError.stepDown? hasError = none := by
  induction n using (wellFounded_stepDown? hasError).induction with
  | h n ih =>
    rw [firstError_eq]
    cases hstep : n.stepDown? hasError with
    | none => exact ⟨.refl, hstep⟩
    | some c =>
      obtain ⟨hrun, hend⟩ := ih c hstep
      exact ⟨.head hstep hrun, hend⟩

/-- In a tree with exact flags the node to blame is the first broken one in document order. -/
theorem HasExactFlags.find?_preorder (h : n.HasExactFlags) (hn : n.hasError = true) :
    n.preorder.find? isBroken = some n.firstError := by
  induction n using (wellFounded_stepDown? hasError).induction with
  | h n ih =>
    rw [firstError_eq, preorder_eq]
    cases hstep : n.stepDown? hasError with
    | none =>
      rcases stepDown?_eq_none_iff.1 hstep with hbroken | hnone
      · exact List.find?_cons_of_pos hbroken
      · by_cases hbroken : n.isBroken = true
        · exact List.find?_cons_of_pos hbroken
        · obtain ⟨c, hc, herror⟩ := h.exists_child hn (Bool.eq_false_iff.2 hbroken)
          rw [hnone c hc] at herror
          cases herror
    | some c =>
      obtain ⟨hbroken, before, after, hchildren, hc, hbefore⟩ := exists_split_of_stepDown? hstep
      have hskip : (preorderAll before).find? isBroken = none := by
        rw [List.find?_eq_none, preorderAll_eq_flatMap]
        intro m hm
        obtain ⟨b, hb, hm⟩ := List.mem_flatMap.1 hm
        have hb' : b ∈ n.children := hchildren ▸ List.mem_append_left _ hb
        rw [(h.of_mem_children hb').isBroken_eq_false (hbefore b hb) hm]
        decide
      have hmem : c ∈ n.children := hchildren ▸ List.mem_append_right _ List.mem_cons_self
      have hfound := ih c hstep (h.of_mem_children hmem) hc
      rw [List.find?_cons_of_neg (by simp [hbroken]), hchildren, preorderAll_append, preorderAll,
        List.find?_append, hskip, Option.none_or, List.find?_append, hfound, Option.some_or]

end Node

/-- A strict reader refuses a tree with errors on the row of the node to blame. -/
theorem Parser.parse_of_hasError {grammar : Grammar} {source : List Char} {root : Node}
    (htree : grammar source = .tree root) (herror : root.hasError = true) :
    Parser.parse { grammar := some grammar, isStrict := true } source =
      .error (.syntaxError (((utf8 source).take root.firstError.start).count 10 + 1)) := by
  unfold Parser.parse
  simp [htree, herror, SyntaxTree.row, SyntaxTree.before]

/-- The descent to an error always ends; where marks are exact it finds the first broken node, whose
line a strict reader names. -/
theorem strict_parse_names_first_error :
    (∀ marked, WellFounded fun c n : Node => n.stepDown? marked = some c) ∧
      (∀ n : Node,
        Relation.ReflTransGen (fun n c => n.stepDown? Node.hasError = some c) n n.firstError ∧
          n.firstError.stepDown? Node.hasError = none) ∧
      ∀ (grammar : Grammar) (source : List Char) (root : Node), grammar source = .tree root →
        root.HasExactFlags → root.hasError = true →
          ∃ before m after failure, root.preorder = before ++ m :: after ∧ m.isBroken = true ∧
            (∀ b ∈ before, b.isBroken = false) ∧
            Parser.parse { grammar := some grammar, isStrict := true } source = .error failure ∧
            failure.message = "Syntax error near line " ++
              toString (((utf8 source).take m.start).count 10 + 1) := by
  refine ⟨Node.wellFounded_stepDown?, Node.descends_to_firstError, ?_⟩
  intro grammar source root htree hexact herror
  obtain ⟨hbroken, before, after, horder, hbefore⟩ :=
    List.find?_eq_some_iff_append.1 (hexact.find?_preorder herror)
  exact ⟨before, root.firstError, after, _, horder, hbroken,
    fun b hb => by simpa using hbefore b hb, Parser.parse_of_hasError htree herror, rfl⟩

/-- A tree over three lines: a declaration, one that lacks its value, and an error. -/
private def brokenRoot : Node :=
  .mk { kind := "translation_unit", start := 0, stop := 20 }
    [.mk { kind := "declaration", start := 0, stop := 7 }
      [.mk { kind := "identifier", start := 4, stop := 6 } []],
    .mk { kind := "declaration", start := 8, stop := 17 }
      [.mk { kind := "init_declarator", start := 12, stop := 16 }
        [.mk { kind := "identifier", start := 12, stop := 13 } [],
        .mk { kind := "identifier", start := 16, stop := 16, isMissing := true } []]],
    .mk { kind := "ERROR", start := 18, stop := 19 } []]

/-- The missing value is blamed, which stands deeper than the error but before it. -/
theorem strict_parse_names_first_error_missing :
    let source := "int é;\nint b = ;\n@\n".toList
    let grammar : Grammar := fun _ => .tree brokenRoot
    brokenRoot.HasExactFlags ∧ brokenRoot.hasError = true ∧
      (brokenRoot.preorder.filter Node.isBroken).map Node.start = [16, 18] ∧
      ∃ failure, Parser.parse { grammar := some grammar, isStrict := true } source =
        .error failure ∧ failure.message = "Syntax error near line 2" := by
  intro source grammar
  have hexact : brokenRoot.HasExactFlags := by decide +kernel
  have herror : brokenRoot.hasError = true := by decide +kernel
  have hstarts : (brokenRoot.preorder.filter Node.isBroken).map Node.start = [16, 18] := by
    decide +kernel
  obtain ⟨before, m, after, failure, horder, hbroken, hbefore, hparse, hmessage⟩ :=
    strict_parse_names_first_error.2.2 grammar source brokenRoot rfl hexact herror
  have hstart : m.start = 16 := by
    have hnone : before.filter Node.isBroken = [] := by
      rw [List.filter_eq_nil_iff]
      intro b hb
      simp [hbefore b hb]
    rw [horder, List.filter_append, hnone, List.nil_append, List.filter_cons_of_pos hbroken,
      List.map_cons, List.cons.injEq] at hstarts
    exact hstarts.1
  have hrow : ((utf8 source).take 16).count 10 = 1 := by decide +kernel
  rw [hstart, hrow] at hmessage
  exact ⟨hexact, herror, hstarts, failure, hparse, hmessage⟩

end DefectScan
