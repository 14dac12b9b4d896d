import DefectScan.Tree.Extract
import Mathlib.Data.List.Basic

/-!
# Declarations by recursion over the tree

The declarations of a file are read off its tree in one walk that keeps a list of nodes to visit,
each with the function around it and a count of blocks. The module says the same without such a
list: the declarations at and below a node, given the nodes above it, are the entries of the node
itself and then those below its children, from left to right, and of a function definition those
below its body only. The scope of a variable is read off the nodes above its declaration.
-/

namespace DefectScan

open Text

namespace Node

/-- Whether a node defines a function. -/
def isFunction (n : Node) : Bool := n.kind == "function_definition"

/-- Whether a node is a block. -/
def isBlock (n : Node) : Bool := n.kind == "compound_statement"

/-- The parameters in the parameter list of a function definition. -/
def parameterNodes (n : Node) : List Node :=
  match n.signature?.bind fun f => f.child? "parameters" with
  | some list => list.children.filter fun p => p.kind == "parameter_declaration"
  | none => []

/-- The nodes in which the declarations below a node are looked for: the body of a function
definition, the children of any other node. -/
def parts (n : Node) : List Node := if n.isFunction then (n.child? "body").toList else n.children

theorem size_lt_of_mem_parts {c n : Node} (h : c ∈ n.parts) : c.size < n.size := by
  unfold parts at h
  split at h
  · exact size_lt_of_child? (Option.mem_toList.1 h)
  · exact size_lt_of_mem h

end Node

namespace SyntaxTree

/-! ### The recursion -/

/-- The scope below the given nodes, innermost first: the innermost function with the number of
blocks in it, or `global`. -/
def enclosingScope (tree : SyntaxTree) (above : List Node) : Except Damage (List Char) :=
  match above.find? Node.isFunction with
  | some f =>
    (tree.functionLabel f).map fun label =>
      label ++ ':' :: (toString ((above.takeWhile (!·.isFunction)).countP Node.isBlock)).toList
  | none => .ok "global".toList

/-- The entries of the parameters of a function definition whose declarators lead to a name. -/
def parameterEntries (tree : SyntaxTree) (f : Node) : Except Damage (List Declaration) := do
  let label ← tree.functionLabel f
  collect (f.parameterNodes.filterMap fun p =>
    (p.child? "declarator").bind fun declarator =>
      declarator.declared?.map fun d =>
        (tree.name d.name).map fun name =>
          { name
            declaredType := tree.declaredType p
            position := tree.position d.name
            isPointer := d.isPointer
            isInitialized := true
            isParameter := true
            isArray := d.isArray
            scope := label ++ [':', '1']
            storage := none
            initializer := tree.initializer? declarator })

/-- The entries of the declarators of a declaration that lead to a name, given the nodes above the
declaration. -/
def variableEntries (tree : SyntaxTree) (above : List Node) (n : Node) :
    Except Damage (List Declaration) :=
  if n.kind == "declaration" then do
    let scope ← tree.enclosingScope above
    let storage ← tree.storageClass? n
    collect ((n.childrenAt "declarator").filterMap fun declarator =>
      declarator.declared?.map fun d =>
        (tree.name d.name).map fun name =>
          { name
            declaredType := tree.declaredType n
            position := tree.position d.name
            isPointer := d.isPointer
            isInitialized := declarator.kind == "init_declarator"
            isParameter := false
            isArray := d.isArray
            scope
            storage
            initializer := tree.initializer? declarator })
  else .ok []

/-- The entries of a node itself. -/
def entries (tree : SyntaxTree) (above : List Node) (n : Node) : Except Damage (List Declaration) :=
  if n.isFunction then tree.parameterEntries n else tree.variableEntries above n

/-- The declarations at and below a node, given the nodes above it, innermost first. -/
def declarationsBelow (tree : SyntaxTree) (above : List Node) (n : Node) :
    Except Damage (List Declaration) := do
  let here ← tree.entries above n
  let below ← collect (n.parts.attach.map fun c => tree.declarationsBelow (n :: above) c.1)
  return here ++ below.flatten
  termination_by n.size
  decreasing_by exact Node.size_lt_of_mem_parts c.2

/-- The nodes at which declarations are looked for, each with the nodes above it. -/
inductive Reached (root : Node) : (above : List Node) → Node → Prop where
  | root : Reached root [] root
  | part {above : List Node} {n c : Node} :
      Reached root above n → c ∈ n.parts → Reached root (n :: above) c

/-- The recursion without the memberships that show its end. -/
theorem declarationsBelow_eq (tree : SyntaxTree) (above : List Node) (n : Node) :
    tree.declarationsBelow above n =
      tree.entries above n >>= fun here =>
        (collect (n.parts.map (tree.declarationsBelow (n :: above)))).map fun below =>
          here ++ below.flatten := by
  rw [declarationsBelow]
  refine bind_congr fun here => ?_
  rw [List.attach_map_val]
  cases collect (n.parts.map (tree.declarationsBelow (n :: above))) <;> rfl

/-! ### Visits -/

/-- A visit of a node below the given nodes knows enough of these to tell the scope. -/
structure Visit.IsBelow (tree : SyntaxTree) (above : List Node) (v : Visit) : Prop where
  /-- The innermost function definition, by its label. -/
  function : (above.find? Node.isFunction).mapM tree.functionLabel = .ok v.function
  /-- The blocks inside it. -/
  depth : v.depth = (above.takeWhile (!·.isFunction)).countP Node.isBlock

section Visits

variable {tree : SyntaxTree} {above : List Node} {v : Visit}

theorem Visit.IsBelow.enclosingScope_eq (h : v.IsBelow tree above) :
    tree.enclosingScope above = .ok (scopeLabel v.function v.depth) := by
  have hfunction := h.function
  rw [enclosingScope, h.depth]
  cases hfind : above.find? Node.isFunction with
  | none =>
    rw [hfind] at hfunction
    rw [← Except.ok.inj hfunction]
    rfl
  | some f =>
    rw [hfind, Option.mapM_some] at hfunction
    obtain ⟨label, hlabel, hv⟩ := map_eq_ok_iff.1 hfunction
    rw [← hv]
    exact map_eq_ok_iff.2 ⟨label, hlabel, rfl⟩

/-- A declaration is no block, so it is not counted itself. -/
theorem Visit.innerDepth_of_declaration (h : v.node.kind = "declaration") :
    v.innerDepth = v.depth := by
  rw [innerDepth, if_neg (by simp [h])]

/-- The entry of a declarator that leads to a name. -/
theorem declaration?_eq (declaredType scope : List Char) (storage : Option (List Char))
    (isParameter : Bool) (declarator : Node) :
    tree.declaration? declaredType scope storage isParameter declarator =
      declarator.declared?.map fun d =>
        (tree.name d.name).map fun name =>
          { name
            declaredType
            position := tree.position d.name
            isPointer := d.isPointer
            isInitialized := isParameter || declarator.kind == "init_declarator"
            isParameter
            isArray := d.isArray
            scope
            storage
            initializer := tree.initializer? declarator } := by
  have hinitializer : (tree.initializer? declarator).isSome =
      (declarator.kind == "init_declarator") := by
    rw [initializer?]
    split <;> simp [*]
  rw [declaration?, ← hinitializer]

theorem parameterEntries_eq (f : Node) :
    tree.parameterEntries f = tree.functionLabel f >>= fun label => tree.parameters label f := by
  refine bind_congr fun label => ?_
  have hscope : scopeLabel (some label) 1 = label ++ [':', '1'] := rfl
  rw [parameters, Node.parameterNodes, hscope]
  cases f.signature?.bind fun f => f.child? "parameters" with
  | none => rfl
  | some list =>
    refine congrArg collect (List.filterMap_congr fun p _ => ?_)
    refine Option.bind_congr fun declarator _ => ?_
    rw [declaration?_eq, Bool.true_or]

theorem Visit.found_of_isFunction (h : v.node.isFunction = true) :
    v.found tree = tree.functionLabel v.node >>= fun label =>
      (tree.parameters label v.node).map fun parameters =>
        ⟨parameters, ((v.node.child? "body").map fun body => ⟨body, some label, 0⟩).toList⟩ := by
  refine (if_pos h).trans (bind_congr fun label => ?_)
  cases tree.parameters label v.node <;> rfl

theorem Visit.found_of_not_isFunction (h : v.node.isFunction ≠ true) :
    v.found tree = (tree.declaredHere v.function v.innerDepth v.node).map fun here =>
      ⟨here, v.node.children.map fun c => ⟨c, v.function, v.innerDepth⟩⟩ := by
  refine (if_neg h).trans ?_
  cases tree.declaredHere v.function v.innerDepth v.node <;> rfl

theorem Visit.IsBelow.declaredHere_eq (h : v.IsBelow tree above) :
    tree.declaredHere v.function v.innerDepth v.node = tree.variableEntries above v.node := by
  rw [declaredHere, variableEntries]
  split
  · next hkind =>
    rw [innerDepth_of_declaration (eq_of_beq hkind), h.enclosingScope_eq]
    refine bind_congr fun storage => ?_
    simp only [declaration?_eq, Bool.false_or]
  · rfl

/-- What the walk finds at a node are the entries of the node. -/
theorem Visit.IsBelow.declarations_found (h : v.IsBelow tree above) :
    (v.found tree).map Found.declarations = tree.entries above v.node := by
  rw [entries]
  split
  · next hfunction =>
    rw [found_of_isFunction hfunction, parameterEntries_eq]
    cases tree.functionLabel v.node with
    | error damage => rfl
    | ok label =>
      cases h : tree.parameters label v.node <;> simp [h, bind, Except.bind, Except.map]
  · next hfunction =>
    rw [found_of_not_isFunction hfunction, h.declaredHere_eq]
    cases tree.variableEntries above v.node <;> rfl

/-- What the walk visits next are the parts of the node, below the node. -/
theorem Visit.IsBelow.next_found {found : Found} (h : v.IsBelow tree above)
    (hfound : v.found tree = .ok found) :
    found.next.map Visit.node = v.node.parts ∧
      ∀ w ∈ found.next, w.IsBelow tree (v.node :: above) := by
  by_cases hfunction : v.node.isFunction = true
  · rw [found_of_isFunction hfunction] at hfound
    obtain ⟨label, hlabel, hfound⟩ := bind_eq_ok_iff.1 hfound
    obtain ⟨parameters, -, rfl⟩ := map_eq_ok_iff.1 hfound
    refine ⟨?_, fun w hw => ?_⟩
    · rw [Node.parts, if_pos hfunction]
      cases v.node.child? "body" <;> rfl
    · obtain ⟨body, -, rfl⟩ := Option.map_eq_some_iff.1 (Option.mem_toList.1 hw)
      exact ⟨by simp [hfunction, hlabel], by simp [hfunction]⟩
  · rw [found_of_not_isFunction hfunction] at hfound
    obtain ⟨here, -, rfl⟩ := map_eq_ok_iff.1 hfound
    refine ⟨?_, fun w hw => ?_⟩
    · rw [Node.parts, if_neg hfunction, List.map_map]
      exact List.map_id _
    · obtain ⟨c, -, rfl⟩ := List.mem_map.1 hw
      have hdepth : v.innerDepth =
          (v.node :: above.takeWhile (!·.isFunction)).countP Node.isBlock := by
        rw [innerDepth, List.countP_cons, h.depth]
        change (if v.node.isBlock then _ else _) = _
        split <;> rfl
      exact ⟨by simpa [hfunction] using h.function, by simpa [hfunction] using hdepth⟩

end Visits

theorem declarationsFrom_cons (tree : SyntaxTree) (v : Visit) (waiting : List Visit) :
    tree.declarationsFrom (v :: waiting) = v.found tree >>= fun found =>
      (tree.declarationsFrom (found.next ++ waiting)).map (found.declarations ++ ·) := by
  rw [declarationsFrom]
  split <;> simp [*, bind, Except.bind]

/-- A walk over several nodes walks over one after another. -/
theorem declarationsFrom_append (tree : SyntaxTree) (vs ws : List Visit) :
    tree.declarationsFrom (vs ++ ws) = tree.declarationsFrom vs >>= fun ds =>
      (tree.declarationsFrom ws).map (ds ++ ·) := by
  fun_induction declarationsFrom tree vs with
  | case1 =>
    rw [List.nil_append]
    cases tree.declarationsFrom ws <;> rfl
  | case2 v waiting found hfound ih =>
    rw [List.append_assoc] at ih
    rw [List.cons_append, declarationsFrom_cons, hfound]
    simp only [bind, Except.bind] at ih ⊢
    rw [ih]
    cases tree.declarationsFrom (found.next ++ waiting) <;> cases tree.declarationsFrom ws <;>
      simp [Except.map]
  | case3 v waiting damage hfound =>
    rw [List.cons_append, declarationsFrom_cons, hfound]
    rfl

theorem declarationsFrom_eq_collect (tree : SyntaxTree) (vs : List Visit) :
    tree.declarationsFrom vs =
      (collect (vs.map fun v => tree.declarationsFrom [v])).map List.flatten := by
  induction vs with
  | nil => rw [declarationsFrom]; rfl
  | cons v vs ih =>
    rw [← List.singleton_append, declarationsFrom_append, ih, List.singleton_append, List.map_cons,
      collect]
    cases tree.declarationsFrom [v] with
    | error damage => rfl
    | ok ds => cases collect (vs.map fun v => tree.declarationsFrom [v]) <;> rfl

/-- The walk from a node finds the declarations at and below it. -/
theorem declarationsFrom_below {tree : SyntaxTree} {above : List Node} {v : Visit}
    (h : v.IsBelow tree above) :
    tree.declarationsFrom [v] = tree.declarationsBelow above v.node := by
  induction hsize : v.node.size using Nat.strongRecOn generalizing above v with
  | ind size ih =>
    rw [declarationsFrom_cons, declarationsBelow_eq, ← h.declarations_found]
    cases hfound : v.found tree with
    | error damage => rfl
    | ok found =>
      obtain ⟨hparts, hbelow⟩ := h.next_found hfound
      have hnext : (found.next.map fun w => tree.declarationsFrom [w]) =
          v.node.parts.map (tree.declarationsBelow (v.node :: above)) := by
        rw [← hparts, List.map_map]
        refine List.map_congr_left fun w hw => ?_
        have hpart : w.node ∈ v.node.parts := hparts ▸ List.mem_map_of_mem hw
        exact ih w.node.size (hsize ▸ Node.size_lt_of_mem_parts hpart) (hbelow w hw) rfl
      simp only [bind, Except.bind, Except.map]
      rw [List.append_nil, declarationsFrom_eq_collect, hnext]
      cases collect (v.node.parts.map (tree.declarationsBelow (v.node :: above))) <;> rfl

/-! ### Scopes -/

section Scopes

variable {tree : SyntaxTree} {above : List Node} {n : Node} {d : Declaration}
  {ds : List Declaration}

theorem isParameter_of_mem_parameterEntries (h : tree.parameterEntries n = .ok ds) (hd : d ∈ ds) :
    d.isParameter = true := by
  obtain ⟨label, -, h⟩ := bind_eq_ok_iff.1 h
  obtain ⟨p, -, hp⟩ := List.mem_filterMap.1 ((mem_iff_of_collect h).1 hd)
  obtain ⟨declarator, -, hp⟩ := Option.bind_eq_some_iff.1 hp
  obtain ⟨_, -, hp⟩ := Option.map_eq_some_iff.1 hp
  obtain ⟨_, -, rfl⟩ := map_eq_ok_iff.1 hp
  rfl

theorem enclosingScope_of_mem_variableEntries (h : tree.variableEntries above n = .ok ds)
    (hd : d ∈ ds) : tree.enclosingScope above = .ok d.scope := by
  unfold variableEntries at h
  split at h
  · obtain ⟨scope, hscope, h⟩ := bind_eq_ok_iff.1 h
    obtain ⟨storage, -, h⟩ := bind_eq_ok_iff.1 h
    obtain ⟨declarator, -, hd⟩ := List.mem_filterMap.1 ((mem_iff_of_collect h).1 hd)
    obtain ⟨_, -, hd⟩ := Option.map_eq_some_iff.1 hd
    obtain ⟨_, -, rfl⟩ := map_eq_ok_iff.1 hd
    exact hscope
  · cases h
    cases hd

/-- Outside of functions the scope is global, and nowhere else. -/
theorem eq_global_iff_of_enclosingScope {scope : List Char}
    (h : tree.enclosingScope above = .ok scope) :
    scope = "global".toList ↔ ∀ m ∈ above, m.isFunction = false := by
  rw [enclosingScope] at h
  cases hfind : above.find? Node.isFunction with
  | none =>
    rw [hfind] at h
    cases h
    simpa using List.find?_eq_none.1 hfind
  | some f =>
    rw [hfind] at h
    obtain ⟨label, -, rfl⟩ := map_eq_ok_iff.1 h
    refine iff_of_false ?_ ?_
    · intro hglobal
      have hcolon : ':' ∈ "global".toList := by simp [← hglobal]
      exact absurd hcolon (by decide)
    · intro hnone
      have hfalse := hnone f (List.mem_of_find?_eq_some hfind)
      rw [List.find?_some hfind] at hfalse
      cases hfalse

/-- Inside a function the scope tells the function and the number of blocks down from its body. -/
theorem enclosingScope_append {inner outer : List Node} {f : Node} (hf : f.isFunction = true)
    (hinner : ∀ m ∈ inner, m.isFunction = false) :
    tree.enclosingScope (inner ++ f :: outer) =
      (tree.functionLabel f).map fun label =>
        label ++ ':' :: (toString (inner.countP Node.isBlock)).toList := by
  have hfind : (inner ++ f :: outer).find? Node.isFunction = some f := by
    rw [List.find?_append, List.find?_eq_none.2 (by simpa using hinner), Option.none_or,
      List.find?_cons_of_pos hf]
  have htake : (inner ++ f :: outer).takeWhile (!·.isFunction) = inner := by
    rw [List.takeWhile_append_of_pos (by simpa using hinner),
      List.takeWhile_cons_of_neg (by simp [hf]), List.append_nil]
  rw [enclosingScope, hfind, htake]

/-- A variable that is found below a node is an entry of a node that is reached from there. -/
theorem Reached.exists_of_mem_declarationsBelow {root : Node} (hreached : Reached root above n)
    (h : tree.declarationsBelow above n = .ok ds) (hd : d ∈ ds)
    (hvariable : d.isParameter = false) :
    ∃ above m es, Reached root above m ∧ tree.variableEntries above m = .ok es ∧ d ∈ es := by
  induction hsize : n.size using Nat.strongRecOn generalizing above n ds with
  | ind size ih =>
    rw [declarationsBelow_eq, bind_eq_ok_iff] at h
    obtain ⟨here, hhere, h⟩ := h
    obtain ⟨below, hbelow, rfl⟩ := map_eq_ok_iff.1 h
    rcases List.mem_append.1 hd with hd | hd
    · unfold entries at hhere
      split at hhere
      · rw [isParameter_of_mem_parameterEntries hhere hd] at hvariable
        cases hvariable
      · exact ⟨above, n, here, hreached, hhere, hd⟩
    · obtain ⟨part, hpart, hd⟩ := List.mem_flatten.1 hd
      obtain ⟨c, hc, hpart⟩ := List.mem_map.1 ((mem_iff_of_collect hbelow).1 hpart)
      exact ih c.size (hsize ▸ Node.size_lt_of_mem_parts hc) (hreached.part hc) hpart hd rfl

end Scopes

end SyntaxTree

/-- The walk reads what the recursion reads or fails as it does, and a variable's scope is that of
its declaration node. -/
theorem declarations_eq_declarationsBelow (tree : SyntaxTree) :
    tree.declarations = tree.declarationsBelow [] tree.root ∧
      ∀ ds, tree.declarations = .ok ds → ∀ d ∈ ds, d.isParameter = false →
        ∃ above n entries, SyntaxTree.Reached tree.root above n ∧
          tree.variableEntries above n = .ok entries ∧ d ∈ entries ∧
          (d.scope = "global".toList ↔ ∀ m ∈ above, m.isFunction = false) ∧
          ∀ inner f outer, above = inner ++ f :: outer → f.isFunction = true →
            (∀ m ∈ inner, m.isFunction = false) →
            ∃ label, tree.functionLabel f = .ok label ∧
              d.scope = label ++ ':' :: (toString (inner.countP Node.isBlock)).toList := by
  have hroot : ({ node := tree.root } : SyntaxTree.Visit).IsBelow tree [] := ⟨rfl, rfl⟩
  have hwalk : tree.declarations = tree.declarationsBelow [] tree.root :=
    SyntaxTree.declarationsFrom_below hroot
  refine ⟨hwalk, fun ds hds d hd hvariable => ?_⟩
  rw [hwalk] at hds
  obtain ⟨above, n, entries, hreached, hentries, hentry⟩ :=
    SyntaxTree.Reached.root.exists_of_mem_declarationsBelow hds hd hvariable
  have hscope := SyntaxTree.enclosingScope_of_mem_variableEntries hentries hentry
  refine ⟨above, n, entries, hreached, hentries, hentry, ?_, ?_⟩
  · exact SyntaxTree.eq_global_iff_of_enclosingScope hscope
  · rintro inner f outer rfl hf hinner
    rw [SyntaxTree.enclosingScope_append hf hinner] at hscope
    obtain ⟨label, hlabel, hd⟩ := map_eq_ok_iff.1 hscope
    exact ⟨label, hlabel, hd.symm⟩

/-- A tree over `int g;`, `int f(int a) {`, `  { int x; }` and `}` on four lines. -/
private def nestedBlockTree : SyntaxTree where
  root :=
    .mk ⟨"translation_unit", none, 0, 36, true, false, false⟩
      [.mk ⟨"declaration", none, 0, 6, true, false, false⟩
        [.mk ⟨"primitive_type", some "type", 0, 3, true, false, false⟩ [],
        .mk ⟨"identifier", some "declarator", 4, 5, true, false, false⟩ []],
      .mk ⟨"function_definition", none, 7, 36, true, false, false⟩
        [.mk ⟨"primitive_type", some "type", 7, 10, true, false, false⟩ [],
        .mk ⟨"function_declarator", some "declarator", 11, 19, true, false, false⟩
          [.mk ⟨"identifier", some "declarator", 11, 12, true, false, false⟩ [],
          .mk ⟨"parameter_list", some "parameters", 12, 19, true, false, false⟩
            [.mk ⟨"parameter_declaration", none, 13, 18, true, false, false⟩
              [.mk ⟨"primitive_type", some "type", 13, 16, true, false, false⟩ [],
              .mk ⟨"identifier", some "declarator", 17, 18, true, false, false⟩ []]]],
        .mk ⟨"compound_statement", some "body", 20, 36, true, false, false⟩
          [.mk ⟨"compound_statement", none, 24, 34, true, false, false⟩
            [.mk ⟨"declaration", none, 26, 32, true, false, false⟩
              [.mk ⟨"primitive_type", some "type", 26, 29, true, false, false⟩ [],
              .mk ⟨"identifier", some "declarator", 30, 31, true, false, false⟩ []]]]]]
  bytes := (Text.utf8 "int g;\nint f(int a) \x7b\n  \x7b int x; \x7d\n\x7d".toList).toArray
  lines := Text.splitLines "int g;\nint f(int a) \x7b\n  \x7b int x; \x7d\n\x7d".toList

/-- The variable of the inner block is in the second block of its function; the global variable and
the parameter come before it. -/
theorem declarations_eq_declarationsBelow_nestedBlock :
    let tree := nestedBlockTree
    let g : Declaration := { name := ['g'], declaredType := "int".toList, position := ⟨0, 4⟩ }
    let a : Declaration :=
      { name := ['a'], declaredType := "int".toList, position := ⟨1, 10⟩, isInitialized := true,
        isParameter := true, scope := "f:1".toList }
    let x : Declaration :=
      { name := ['x'], declaredType := "int".toList, position := ⟨2, 8⟩, scope := "f:2".toList }
    tree.declarations = .ok [g, a, x] ∧ tree.declarationsBelow [] tree.root = .ok [g, a, x] ∧
      ∃ above n entries, SyntaxTree.Reached tree.root above n ∧
        tree.variableEntries above n = .ok entries ∧ x ∈ entries ∧
        ¬∀ m ∈ above, m.isFunction = false := by
  intro tree g a x
  have hds : tree.declarations = .ok [g, a, x] := by decide +kernel
  obtain ⟨hwalk, hscopes⟩ := declarations_eq_declarationsBelow tree
  obtain ⟨above, n, entries, hreached, hentries, hx, hglobal, -⟩ :=
    hscopes _ hds x (by simp) rfl
  have hfunction : ¬∀ m ∈ above, m.isFunction = false := fun hnone =>
    absurd (hglobal.2 hnone) (by decide)
  exact ⟨hds, hwalk ▸ hds, above, n, entries, hreached, hentries, hx, hfunction⟩

/-- A declared name that begins within a character is no text. -/
example :
    let tree : SyntaxTree :=
      { root :=
          .mk ⟨"declaration", none, 0, 7, true, false, false⟩
            [.mk ⟨"identifier", some "declarator", 5, 6, true, false, false⟩ []]
        bytes := (utf8 "int é;".toList).toArray
        lines := ["int é;".toList] }
    tree.declarations = .error ⟨0, 0xA9, 0, .badStart⟩ := by
  decide +kernel

end DefectScan
