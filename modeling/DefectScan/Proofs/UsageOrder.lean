import DefectScan.Proofs.DocumentOrder
import DefectScan.Proofs.NestedDeclarations
import DefectScan.Proofs.NodePositions
import DefectScan.Proofs.PrunedTrees
import Mathlib.Data.List.Basic

/-!
# Declared names and uses in source order

Declarations are collected by a walk that enters functions through their bodies only, the starts of
declared names by a walk over all nodes. Every name of the first kind is among the second, so a use
is never at the place of a declaration: two nodes that begin at different bytes have different
positions, also on lines with characters of several bytes. In a tree whose nodes lie side by side
inside their parents, the uses of a name come in the order of their positions.
-/

namespace DefectScan

open Text

/-- One position comes before another: on an earlier row, or further left on the same row. -/
def Position.IsBefore (p q : Position) : Prop :=
  p.row < q.row ∨ p.row = q.row ∧ p.column < q.column

instance (p q : Position) : Decidable (p.IsBefore q) :=
  inferInstanceAs (Decidable (p.row < q.row ∨ p.row = q.row ∧ p.column < q.column))

theorem Position.IsBefore.ne {p q : Position} (h : p.IsBefore q) : p ≠ q := by
  rintro rfl
  rcases h with h | ⟨-, h⟩ <;> omega

namespace Node

/-! ### Nodes below nodes -/

theorem mem_walk_self (n : Node) : n ∈ n.walk := by
  rw [walk_eq]
  exact List.mem_cons_self

theorem mem_walk_of_mem {c n : Node} (h : c ∈ n.children) : c ∈ n.walk :=
  mem_walk_of_mem_children h c.mem_walk_self

theorem mem_walk_trans {a b c : Node} (hb : b ∈ a.walk) (hc : c ∈ b.walk) : c ∈ a.walk :=
  mem_walkFrom_of_mem_walk hb hc

theorem mem_walk_of_child? {c n : Node} {field : String} (h : n.child? field = some c) :
    c ∈ n.walk :=
  mem_walk_of_mem (List.mem_of_find?_eq_some h)

theorem walkFrom_eq_flatMap (ns : List Node) : walkFrom ns = ns.flatMap walk := by
  induction ns with
  | nil => rw [walkFrom, List.flatMap_nil]
  | cons n ns ih => rw [← List.singleton_append, walkFrom_append, ih, List.flatMap_append,
      List.flatMap_singleton, walk]

theorem mem_children_of_innerDeclarator? {n c : Node} (h : n.innerDeclarator? = some c) :
    c ∈ n.children := by
  rw [innerDeclarator?, Option.or_eq_some_iff] at h
  rcases h with h | ⟨-, h⟩
  · exact List.mem_of_find?_eq_some h
  · split at h
    · exact (List.mem_filter.1 (List.mem_of_find?_eq_some h)).1
    · cases h

/-- A declarator leads to a name at or below itself. -/
theorem name_mem_walk_of_declared? {n : Node} {d : Declared} (h : n.declared? = some d) :
    d.name ∈ n.walk := by
  fun_induction declared? n generalizing d with
  | case1 n hkind =>
    cases h
    exact mem_walk_self _
  | case2 n hkind hwrap inner hinner ih =>
    obtain ⟨e, he, rfl⟩ := Option.map_eq_some_iff.1 h
    have hname : e.name ∈ inner.walk := ih he
    exact mem_walk_of_mem_children (mem_children_of_innerDeclarator? hinner) hname
  | case3 => cases h
  | case4 => cases h

theorem mem_walk_of_functionDeclarator? {n f : Node} (h : n.functionDeclarator? = some f) :
    f ∈ n.walk := by
  fun_induction functionDeclarator? n with
  | case1 n hkind =>
    cases h
    exact mem_walk_self _
  | case2 n hkind inner hinner ih => exact mem_walk_trans (mem_walk_of_child? hinner) (ih h)
  | case3 => cases h

/-- The parameters of a function definition are below it. -/
theorem mem_walk_of_mem_parameterNodes {n p : Node} (h : p ∈ n.parameterNodes) :
    p ∈ n.walk ∧ p.kind = "parameter_declaration" := by
  unfold parameterNodes at h
  split at h
  · next list hlist =>
    obtain ⟨f, hf, hparameters⟩ := Option.bind_eq_some_iff.1 hlist
    obtain ⟨c, hc, hf⟩ := Option.bind_eq_some_iff.1 hf
    obtain ⟨hp, hkind⟩ := List.mem_filter.1 h
    have hsignature := mem_walk_trans (mem_walk_of_child? hc) (mem_walk_of_functionDeclarator? hf)
    have hlist := mem_walk_trans hsignature (mem_walk_of_child? hparameters)
    exact ⟨mem_walk_trans hlist (mem_walk_of_mem hp), beq_iff_eq.1 hkind⟩
  · cases h

theorem mem_children_of_mem_parts {n c : Node} (h : c ∈ n.parts) : c ∈ n.children := by
  unfold parts at h
  split at h
  · exact List.mem_of_find?_eq_some (Option.mem_toList.1 h)
  · exact h

/-! ### Declarators -/

/-- The declarators of a declaration or of a parameter. -/
def declarators (n : Node) : List Node :=
  if n.kind == "declaration" then n.childrenAt "declarator"
  else if n.kind == "parameter_declaration" then (n.child? "declarator").toList
  else []

theorem mem_children_of_mem_declarators {n c : Node} (h : c ∈ n.declarators) :
    c ∈ n.children := by
  unfold declarators at h
  split at h
  · exact (List.mem_filter.1 h).1
  · split at h
    · exact List.mem_of_find?_eq_some (Option.mem_toList.1 h)
    · cases h

end Node

namespace SyntaxTree

variable {tree : SyntaxTree}

/-- The starts of declared names are those that the declarators of all nodes lead to. -/
theorem mem_declaredStarts {n declarator : Node} {e : Node.Declared} (hn : n ∈ tree.root.walk)
    (hdeclarator : declarator ∈ n.declarators) (he : declarator.declared? = some e) :
    e.name.start ∈ tree.declaredStarts := by
  refine List.mem_flatMap.2 ⟨n, hn, ?_⟩
  unfold Node.declarators at hdeclarator
  split at hdeclarator
  · next hkind =>
    rw [if_pos hkind]
    exact List.mem_filterMap.2 ⟨declarator, hdeclarator, by rw [he, Option.map_some]⟩
  · next hkind =>
    rw [if_neg hkind]
    split at hdeclarator
    · next hparameter =>
      rw [if_pos hparameter, Option.mem_toList.1 hdeclarator, Option.bind_some, he]
      exact List.mem_cons_self
    · cases hdeclarator

/-- A declaration that is read off a declarator of a node. -/
structure IsDeclaredAt (tree : SyntaxTree) (d : Declaration) (n declarator : Node)
    (e : Node.Declared) : Prop where
  /-- The declarator is one of the node. -/
  declarator_mem : declarator ∈ n.declarators
  /-- The declarator leads to a name. -/
  leads : declarator.declared? = some e
  /-- The declaration is of that name. -/
  name_eq : tree.name e.name = .ok d.name
  /-- The declaration is where the name stands. -/
  position_eq : d.position = tree.position e.name

section Declared

variable {d : Declaration} {ds : List Declaration} {above : List Node} {n : Node} (hd : d ∈ ds)
include hd

theorem exists_isDeclaredAt_of_mem_parameterEntries (h : tree.parameterEntries n = .ok ds) :
    ∃ m ∈ n.walk, ∃ declarator e, tree.IsDeclaredAt d m declarator e := by
  obtain ⟨label, -, h⟩ := bind_eq_ok_iff.1 h
  obtain ⟨p, hp, hd⟩ := List.mem_filterMap.1 ((mem_iff_of_collect h).1 hd)
  obtain ⟨declarator, hdeclarator, hd⟩ := Option.bind_eq_some_iff.1 hd
  obtain ⟨e, he, hd⟩ := Option.map_eq_some_iff.1 hd
  obtain ⟨name, hname, rfl⟩ := map_eq_ok_iff.1 hd
  obtain ⟨hwalk, hkind⟩ := Node.mem_walk_of_mem_parameterNodes hp
  have hmem : declarator ∈ p.declarators := by
    rw [Node.declarators, hkind, if_neg (by decide), if_pos (by decide), hdeclarator]
    exact List.mem_cons_self
  exact ⟨p, hwalk, declarator, e, hmem, he, hname, rfl⟩

theorem exists_isDeclaredAt_of_mem_variableEntries (h : tree.variableEntries above n = .ok ds) :
    ∃ declarator e, tree.IsDeclaredAt d n declarator e := by
  unfold variableEntries at h
  split at h
  · next hkind =>
    obtain ⟨scope, -, h⟩ := bind_eq_ok_iff.1 h
    obtain ⟨storage, -, h⟩ := bind_eq_ok_iff.1 h
    obtain ⟨declarator, hdeclarator, hd⟩ := List.mem_filterMap.1 ((mem_iff_of_collect h).1 hd)
    obtain ⟨e, he, hd⟩ := Option.map_eq_some_iff.1 hd
    obtain ⟨name, hname, rfl⟩ := map_eq_ok_iff.1 hd
    exact ⟨declarator, e, by rwa [Node.declarators, if_pos hkind], he, hname, rfl⟩
  · cases h
    cases hd

/-- What is found below a node is declared at a node below it. -/
theorem exists_isDeclaredAt_of_mem_declarationsBelow
    (h : tree.declarationsBelow above n = .ok ds) :
    ∃ m ∈ n.walk, ∃ declarator e, tree.IsDeclaredAt d m declarator e := by
  induction n using Node.inductionOnChildren generalizing above ds with
  | step n ih =>
    rw [declarationsBelow_eq, bind_eq_ok_iff] at h
    obtain ⟨here, hhere, h⟩ := h
    obtain ⟨below, hbelow, rfl⟩ := map_eq_ok_iff.1 h
    rcases List.mem_append.1 hd with hd | hd
    · unfold entries at hhere
      split at hhere
      · exact exists_isDeclaredAt_of_mem_parameterEntries hd hhere
      · exact ⟨n, n.mem_walk_self, exists_isDeclaredAt_of_mem_variableEntries hd hhere⟩
    · obtain ⟨part, hpart, hd⟩ := List.mem_flatten.1 hd
      obtain ⟨c, hc, hpart⟩ := List.mem_map.1 ((mem_iff_of_collect hbelow).1 hpart)
      have hchild := Node.mem_children_of_mem_parts hc
      obtain ⟨m, hm, hdeclared⟩ := ih c hchild hd hpart
      exact ⟨m, Node.mem_walk_of_mem_children hchild hm, hdeclared⟩

theorem exists_isDeclaredAt_of_mem_declarations (h : tree.declarations = .ok ds) :
    ∃ n ∈ tree.root.walk, ∃ declarator e, tree.IsDeclaredAt d n declarator e := by
  have hroot : ({ node := tree.root } : Visit).IsBelow tree [] := ⟨rfl, rfl⟩
  rw [declarations, declarationsFrom_below hroot] at h
  exact exists_isDeclaredAt_of_mem_declarationsBelow hd h

end Declared

/-! ### Positions -/

/-- The bytes before a node that begins between two characters. -/
theorem IsOver.exists_before {text : List Char} (h : tree.IsOver text) {n : Node}
    (hn : IsBoundary text n.start) :
    ∃ k, tree.before n = utf8 (text.take k) ∧ (utf8 (text.take k)).length = n.start := by
  obtain ⟨k, hk⟩ := hn
  refine ⟨k, ?_, hk⟩
  have hbytes : utf8 text = utf8 (text.take k) ++ utf8 (text.drop k) := by
    rw [← utf8_append, List.take_append_drop]
  rw [before, h.bytes, ← hk, hbytes]
  simp

/-- A node that begins at an earlier byte has an earlier position. -/
theorem IsOver.isBefore_position {text : List Char} (h : tree.IsOver text) {n m : Node}
    (hn : IsBoundary text n.start) (hm : IsBoundary text m.start) (hlt : n.start < m.start) :
    (tree.position n).IsBefore (tree.position m) := by
  obtain ⟨i, hbefore, hi⟩ := h.exists_before hn
  obtain ⟨j, hbefore', hj⟩ := h.exists_before hm
  have hij : i < j := by
    by_contra hle
    have hprefix : text.take j <+: text.take i := List.take_prefix_take_left (by omega)
    obtain ⟨s, hs⟩ := hprefix
    rw [← hs, utf8_append, List.length_append] at hi
    omega
  obtain ⟨more, hmore⟩ : text.take i <+: text.take j := List.take_prefix_take_left hij.le
  have hne : more ≠ [] := by
    rintro rfl
    rw [List.append_nil] at hmore
    rw [hmore] at hi
    omega
  obtain ⟨above, tail, hparts, habove, htail⟩ := exists_endsLine_append (text.take i)
  rw [hparts] at hbefore hmore
  rw [← hmore, List.append_assoc] at hbefore'
  rw [position_eq hbefore habove htail]
  by_cases hfeed : '\n' ∈ more
  · refine .inl ?_
    have hrow : tree.row m = above.count '\n' + more.count '\n' := by
      rw [row, hbefore', count_utf8, List.count_append, List.count_append,
        List.count_eq_zero.2 htail, Nat.zero_add]
    have hpos := List.count_pos_iff.2 hfeed
    change above.count '\n' < tree.row m
    omega
  · have hsame : '\n' ∉ tail ++ more := by simp [htail, hfeed]
    rw [position_eq hbefore' habove hsame]
    have hlength := List.length_pos_iff.2 hne
    have hcolumn : tail.length < (tail ++ more).length := by
      rw [List.length_append]
      omega
    exact .inr ⟨rfl, hcolumn⟩

/-- Nodes at one position begin at one byte. -/
theorem IsOver.start_eq_of_position_eq {text : List Char} (h : tree.IsOver text) {n m : Node}
    (hn : IsBoundary text n.start) (hm : IsBoundary text m.start)
    (heq : tree.position n = tree.position m) : n.start = m.start := by
  rcases Nat.lt_trichotomy n.start m.start with hlt | hstart | hgt
  · exact absurd heq (h.isBefore_position hn hm hlt).ne
  · exact hstart
  · exact absurd heq.symm (h.isBefore_position hm hn hgt).ne

end SyntaxTree

/-! ### Trees in source order -/

namespace Node

/-- A tree whose nodes lie side by side inside their parents and whose names are leaves with a
text. -/
structure IsLaidOut (root : Node) : Prop where
  /-- Names have no children and are not empty. -/
  identifier_leaf : ∀ n ∈ root.walk, n.kind = "identifier" → n.children = [] ∧ n.start < n.stop
  /-- Children lie inside their parent. -/
  inside : ∀ n ∈ root.walk, ∀ c ∈ n.children, n.start ≤ c.start ∧ c.stop ≤ n.stop
  /-- Children lie side by side in their order. -/
  in_order : ∀ n ∈ root.walk, n.children.Pairwise fun a b => a.stop ≤ b.start

namespace IsLaidOut

variable {n m : Node}

theorem of_mem_children (h : n.IsLaidOut) (hm : m ∈ n.children) : m.IsLaidOut where
  identifier_leaf k hk := h.identifier_leaf k (mem_walk_of_mem_children hm hk)
  inside k hk := h.inside k (mem_walk_of_mem_children hm hk)
  in_order k hk := h.in_order k (mem_walk_of_mem_children hm hk)

/-- Everything below a node lies inside it. -/
theorem within (h : n.IsLaidOut) (hm : m ∈ n.walk) : n.start ≤ m.start ∧ m.stop ≤ n.stop := by
  induction n using inductionOnChildren with
  | step n ih =>
    rw [walk_eq, walkFrom_eq_flatMap] at hm
    rcases List.mem_cons.1 hm with rfl | hm
    · exact ⟨Nat.le_refl _, Nat.le_refl _⟩
    · obtain ⟨c, hc, hm⟩ := List.mem_flatMap.1 hm
      have hchild := h.inside n n.mem_walk_self c hc
      have hbelow := ih c hc (h.of_mem_children hc) hm
      omega

/-- The names of a tree begin one behind the other in document order. -/
theorem pairwise_start (h : n.IsLaidOut) :
    (n.walk.filter fun m => m.kind == "identifier").Pairwise fun a b => a.start < b.start := by
  induction n using inductionOnChildren with
  | step n ih =>
    rw [walk_eq, walkFrom_eq_flatMap]
    by_cases hkind : n.kind = "identifier"
    · obtain ⟨hleaf, -⟩ := h.identifier_leaf n n.mem_walk_self hkind
      rw [hleaf, List.flatMap_nil, List.filter_cons_of_pos (by simpa using hkind), List.filter_nil]
      exact List.pairwise_singleton _ _
    · rw [List.filter_cons_of_neg (by simpa using hkind), List.filter_flatMap,
        List.pairwise_flatMap]
      refine ⟨fun c hc => ?_, ?_⟩
      · exact ih c hc (h.of_mem_children hc)
      · refine (h.in_order n n.mem_walk_self).imp_of_mem fun {a b} ha hb hab x hx y hy => ?_
        obtain ⟨hxa, hname⟩ := List.mem_filter.1 hx
        obtain ⟨hyb, -⟩ := List.mem_filter.1 hy
        have hlaid := h.of_mem_children ha
        have hleft := hlaid.within hxa
        have hright := (h.of_mem_children hb).within hyb
        have hlength := (hlaid.identifier_leaf x hxa (beq_iff_eq.1 hname)).2
        omega

end IsLaidOut

end Node

namespace SyntaxTree

variable {tree : SyntaxTree} {text : List Char}

/-- The uses of a name come in the order of their positions. -/
theorem IsOver.pairwise_usages (h : tree.IsOver text)
    (hstarts : ∀ n ∈ tree.root.walk, IsBoundary text n.start) (hlaid : tree.root.IsLaidOut)
    (name : List Char) : (tree.usages name).Pairwise Position.IsBefore := by
  have hnames : (tree.root.walk.filter fun n => tree.isName name n &&
      !tree.declaredStarts.contains n.start).Pairwise fun a b => a.start < b.start := by
    refine hlaid.pairwise_start.sublist (List.monotone_filter_right _ fun n hn => ?_)
    simp only [isName, Bool.and_eq_true] at hn
    exact hn.1.1
  rw [usages, List.pairwise_map]
  refine hnames.imp_of_mem fun {a b} ha hb hab => ?_
  exact h.isBefore_position (hstarts a (List.mem_filter.1 ha).1)
    (hstarts b (List.mem_filter.1 hb).1) hab

/-- No use of a name stands where a name is declared. -/
theorem IsOver.position_not_mem_usages (h : tree.IsOver text)
    (hstarts : ∀ n ∈ tree.root.walk, IsBoundary text n.start) {n declarator : Node}
    {d : Declaration} {e : Node.Declared} (hn : n ∈ tree.root.walk)
    (hd : tree.IsDeclaredAt d n declarator e) (name : List Char) :
    d.position ∉ tree.usages name := by
  intro hmem
  obtain ⟨m, hm, hposition⟩ := List.mem_map.1 hmem
  obtain ⟨hwalk, huse⟩ := List.mem_filter.1 hm
  have hname : e.name ∈ tree.root.walk :=
    Node.mem_walk_trans (Node.mem_walk_trans hn (Node.mem_walk_of_mem
      (Node.mem_children_of_mem_declarators hd.declarator_mem)))
      (Node.name_mem_walk_of_declared? hd.leads)
  have hstart : m.start = e.name.start :=
    h.start_eq_of_position_eq (hstarts m hwalk) (hstarts e.name hname)
      (hposition.trans hd.position_eq)
  have hdeclared := mem_declaredStarts hn hd.declarator_mem hd.leads
  simp [hstart, hdeclared] at huse

end SyntaxTree

/-- No use of a name stands where something is declared, and in a tree with nodes side by side uses
come in order. -/
theorem usages_apart_and_ordered {tree : SyntaxTree} {text : List Char} (h : tree.IsOver text)
    (hstarts : ∀ n ∈ tree.root.walk, IsBoundary text n.start) :
    (∀ ds, tree.declarations = .ok ds → ∀ d ∈ ds,
        (∃ n ∈ tree.root.walk, ∃ declarator ∈ n.declarators, ∃ e,
          declarator.declared? = some e ∧ tree.name e.name = .ok d.name ∧
            d.position = tree.position e.name ∧ e.name.start ∈ tree.declaredStarts) ∧
        ∀ name, d.position ∉ tree.usages name) ∧
      (tree.root.IsLaidOut → ∀ name, (tree.usages name).Pairwise Position.IsBefore) := by
  refine ⟨fun ds hds d hd => ?_, fun hlaid name => h.pairwise_usages hstarts hlaid name⟩
  obtain ⟨n, hn, declarator, e, hat⟩ := SyntaxTree.exists_isDeclaredAt_of_mem_declarations hd hds
  refine ⟨⟨n, hn, declarator, hat.declarator_mem, e, hat.leads, hat.name_eq, hat.position_eq,
    SyntaxTree.mem_declaredStarts hn hat.declarator_mem hat.leads⟩, fun name => ?_⟩
  exact h.position_not_mem_usages hstarts hn hat name

/-- A tree over `/* ü */ int x;` and `x = /* é */ x;` on two lines. -/
private def wideUsesTree : SyntaxTree where
  root :=
    .mk ⟨"translation_unit", none, 0, 31, true, false, false⟩
      [.mk ⟨"comment", none, 0, 8, true, false, false⟩ [],
      .mk ⟨"declaration", none, 9, 15, true, false, false⟩
        [.mk ⟨"primitive_type", some "type", 9, 12, true, false, false⟩ [],
        .mk ⟨"identifier", some "declarator", 13, 14, true, false, false⟩ []],
      .mk ⟨"assignment_expression", none, 16, 30, true, false, false⟩
        [.mk ⟨"identifier", some "left", 16, 17, true, false, false⟩ [],
        .mk ⟨"comment", none, 20, 28, true, false, false⟩ [],
        .mk ⟨"identifier", some "right", 29, 30, true, false, false⟩ []]]
  bytes := (utf8 "/* ü */ int x;\nx = /* é */ x;".toList).toArray
  lines := splitLines "/* ü */ int x;\nx = /* é */ x;".toList

/-- The declared `x` is thirteen bytes into its line, in column 12; the other two are ordered uses,
one in the same column. -/
theorem usages_apart_and_ordered_wide :
    let text := "/* ü */ int x;\nx = /* é */ x;".toList
    let tree := wideUsesTree
    tree.IsOver text ∧ (∀ n ∈ tree.root.walk, IsBoundary text n.start) ∧ tree.root.IsLaidOut ∧
      (tree.declarations.map fun ds => ds.map Declaration.position) = .ok [⟨0, 12⟩] ∧
      tree.usages ['x'] = [⟨1, 0⟩, ⟨1, 12⟩] ∧ ⟨0, 12⟩ ∉ tree.usages ['x'] ∧
      (tree.usages ['x']).Pairwise Position.IsBefore := by
  intro text tree
  have hover : tree.IsOver text := ⟨rfl, rfl⟩
  have hbounded : ∀ n ∈ tree.root.walk, ∃ k < 32, (utf8 (text.take k)).length = n.start := by
    decide +kernel
  have hstarts : ∀ n ∈ tree.root.walk, IsBoundary text n.start := by
    intro n hn
    obtain ⟨k, -, hk⟩ := hbounded n hn
    exact ⟨k, hk⟩
  have hlaid : tree.root.IsLaidOut :=
    ⟨by decide +kernel, by decide +kernel, by decide +kernel⟩
  have hpositions : (tree.declarations.map fun ds => ds.map Declaration.position) =
      .ok [⟨0, 12⟩] := by decide +kernel
  obtain ⟨hapart, hordered⟩ := usages_apart_and_ordered hover hstarts
  obtain ⟨ds, hds, hmap⟩ := map_eq_ok_iff.1 hpositions
  obtain ⟨d, hd, hposition⟩ : ∃ d ∈ ds, d.position = ⟨0, 12⟩ :=
    List.mem_map.1 (hmap ▸ List.mem_singleton_self _)
  exact ⟨hover, hstarts, hlaid, hpositions, by decide +kernel,
    hposition ▸ (hapart ds hds d hd).2 ['x'], hordered hlaid ['x']⟩

end DefectScan
