import DefectScan.Tree.Extract
import Mathlib.Data.List.Basic

/-!
# Trees without comments

A comment can be an extra child of any node. Deleting all comments leaves the other nodes with
their kinds, fields and byte ranges. If comments are leaves and fill no field, as a grammar places
them, then a walk of the pruned tree visits the other nodes in the same order, a field leads to the
same child, and a declarator to the same name.
-/

namespace DefectScan

namespace Node

/-! ### Walks -/

/-- A walk of several trees walks one after another. -/
theorem walkFrom_append (ns ms : List Node) : walkFrom (ns ++ ms) = walkFrom ns ++ walkFrom ms := by
  fun_induction walkFrom ns with
  | case1 => rfl
  | case2 n waiting ih =>
    rw [List.append_assoc] at ih
    rw [List.cons_append, walkFrom, ih, List.cons_append]

/-- A walk of a tree begins at its root. -/
theorem walk_eq (n : Node) : n.walk = n :: walkFrom n.children := by
  rw [walk, walkFrom, List.append_nil]

/-- The walk of a child is part of the walk of its parent. -/
theorem mem_walk_of_mem_children {c n m : Node} (hc : c ∈ n.children) (hm : m ∈ c.walk) :
    m ∈ n.walk := by
  obtain ⟨before, after, hsplit⟩ := List.append_of_mem hc
  have hpart : walkFrom n.children = walkFrom before ++ (c.walk ++ walkFrom after) := by
    rw [hsplit, walkFrom_append, ← List.singleton_append, walkFrom_append, walk]
  rw [walk_eq, hpart]
  exact List.mem_cons_of_mem _ (List.mem_append_right _ (List.mem_append_left _ hm))

/-- A walk visits all that is below the nodes it visits. -/
theorem mem_walkFrom_of_mem_walk {ns : List Node} {n m : Node} (hn : n ∈ walkFrom ns)
    (hm : m ∈ n.walk) : m ∈ walkFrom ns := by
  fun_induction walkFrom ns with
  | case1 => cases hn
  | case2 first waiting ih =>
    rcases List.mem_cons.1 hn with rfl | hn
    · rw [walk_eq] at hm
      rw [walkFrom_append, ← List.cons_append]
      exact List.mem_append_left _ hm
    · exact List.mem_cons_of_mem _ (ih hn)

/-! ### Trees without comments -/

/-- Whether a node is a comment. -/
def isComment (n : Node) : Bool := n.kind == "comment"

mutual

/-- The tree without the comments below its root. -/
def withoutComments : Node → Node
  | mk info children => mk info (withoutCommentsAll children)

/-- The trees that are no comments, without the comments in them. -/
def withoutCommentsAll : List Node → List Node
  | [] => []
  | n :: ns =>
    if n.isComment then withoutCommentsAll ns else n.withoutComments :: withoutCommentsAll ns

end

/-- The trees without comments, as a filter and a map. -/
theorem withoutCommentsAll_eq (ns : List Node) :
    withoutCommentsAll ns = (ns.filter (!·.isComment)).map withoutComments := by
  induction ns with
  | nil => rfl
  | cons n ns ih =>
    rw [withoutCommentsAll, ih]
    cases hn : n.isComment <;> simp [hn]

@[simp] theorem info_withoutComments (n : Node) : n.withoutComments.info = n.info := by
  cases n
  rw [withoutComments, info, info]

@[simp] theorem kind_withoutComments (n : Node) : n.withoutComments.kind = n.kind := by
  rw [kind, info_withoutComments, kind]

@[simp] theorem start_withoutComments (n : Node) : n.withoutComments.start = n.start := by
  rw [start, info_withoutComments, start]

@[simp] theorem stop_withoutComments (n : Node) : n.withoutComments.stop = n.stop := by
  rw [stop, info_withoutComments, stop]

theorem children_withoutComments (n : Node) :
    n.withoutComments.children = (n.children.filter (!·.isComment)).map withoutComments := by
  cases n with
  | mk info children => rw [withoutComments, Node.children, Node.children, withoutCommentsAll_eq]

/-- A node of another kind than comments is none. -/
theorem isComment_eq_false {n : Node} {kind : String} (h : n.kind = kind)
    (hkind : kind ≠ "comment") : n.isComment = false := by
  rw [isComment, h]
  exact beq_false_of_ne hkind

/-- Children of one kind other than comments are the same without comments. -/
theorem filter_kind_withoutComments (n : Node) {kind : String} (hkind : kind ≠ "comment") :
    (n.withoutComments.children.filter fun c => c.kind == kind) =
      (n.children.filter fun c => c.kind == kind).map withoutComments := by
  rw [children_withoutComments, List.filter_map, List.filter_filter]
  congr 1
  apply List.filter_congr
  intro c _
  simp only [Function.comp_apply, kind_withoutComments]
  by_cases hc : c.kind = kind
  · rw [isComment_eq_false hc hkind]
    simp
  · simp [hc]

theorem namedChildren_withoutComments (n : Node) :
    n.withoutComments.namedChildren =
      (n.namedChildren.filter (!·.isComment)).map withoutComments := by
  rw [namedChildren, children_withoutComments, List.filter_map, namedChildren, List.filter_comm]
  simp only [Function.comp_def, info_withoutComments]

/-- Where comments are passed over, none is missed. -/
theorem filter_ne_comment_withoutComments (n : Node) :
    (n.withoutComments.namedChildren.filter fun c => c.kind != "comment") =
      (n.namedChildren.filter fun c => c.kind != "comment").map withoutComments := by
  rw [namedChildren_withoutComments, List.filter_map, List.filter_filter]
  simp only [Function.comp_def, kind_withoutComments, isComment, bne, Bool.and_self]

/-- Comments are leaves and fill no field. -/
def HasPlainComments (n : Node) : Prop :=
  ∀ m ∈ n.walk, m.isComment = true → m.children = [] ∧ m.info.field = none

instance (n : Node) : Decidable n.HasPlainComments :=
  inferInstanceAs
    (Decidable (∀ m ∈ n.walk, m.isComment = true → m.children = [] ∧ m.info.field = none))

namespace HasPlainComments

variable {n : Node}

theorem of_mem_children {c : Node} (h : n.HasPlainComments) (hc : c ∈ n.children) :
    c.HasPlainComments :=
  fun m hm => h m (mem_walk_of_mem_children hc hm)

theorem of_mem_walk {m : Node} (h : n.HasPlainComments) (hm : m ∈ n.walk) : m.HasPlainComments :=
  fun k hk => h k (mem_walkFrom_of_mem_walk hm hk)

theorem children_eq_nil (h : n.HasPlainComments) (hn : n.isComment = true) : n.children = [] :=
  (h n (walk_eq n ▸ List.mem_cons_self) hn).1

/-- A comment is the same without comments. -/
theorem withoutComments_eq (h : n.HasPlainComments) (hn : n.isComment = true) :
    n.withoutComments = n := by
  have hleaf := h.children_eq_nil hn
  cases n with
  | mk info children =>
    obtain rfl : children = [] := hleaf
    rfl

theorem of_child? {c : Node} {field : String} (h : n.HasPlainComments)
    (hc : n.child? field = some c) : c.HasPlainComments :=
  h.of_mem_children (List.mem_of_find?_eq_some hc)

/-- A child that fills a field is no comment. -/
theorem isComment_of_field {c : Node} {field : String} (h : n.HasPlainComments)
    (hc : c ∈ n.children) (hfield : c.info.field = some field) : c.isComment = false := by
  rw [Bool.eq_false_iff]
  intro hcomment
  have hnone := (h.of_mem_children hc c (walk_eq c ▸ List.mem_cons_self) hcomment).2
  rw [hnone] at hfield
  cases hfield

theorem isComment_of_child? {c : Node} {field : String} (h : n.HasPlainComments)
    (hc : n.child? field = some c) : c.isComment = false :=
  h.isComment_of_field (List.mem_of_find?_eq_some hc) (by simpa using List.find?_some hc)

/-- The children that fill a field are the same without comments. -/
theorem childrenAt_withoutComments (h : n.HasPlainComments) (field : String) :
    n.withoutComments.childrenAt field = (n.childrenAt field).map withoutComments := by
  rw [childrenAt, children_withoutComments, List.filter_map, List.filter_filter, childrenAt]
  congr 1
  apply List.filter_congr
  intro c hc
  rw [Function.comp_apply, info_withoutComments]
  by_cases hfield : c.info.field = some field
  · simp [h.isComment_of_field hc hfield]
  · simp [hfield]

/-- The child that fills a field is the same without comments. -/
theorem child?_withoutComments (h : n.HasPlainComments) (field : String) :
    n.withoutComments.child? field = (n.child? field).map withoutComments := by
  have hchildren := h.childrenAt_withoutComments field
  unfold childrenAt at hchildren
  rw [child?, child?, ← List.head?_filter, ← List.head?_filter, hchildren, List.head?_map]

end HasPlainComments

/-- Without comments a walk visits the other nodes in the same order. -/
theorem walkFrom_withoutComments (ns : List Node) (h : ∀ n ∈ ns, n.HasPlainComments) :
    walkFrom ((ns.filter (!·.isComment)).map withoutComments) =
      ((walkFrom ns).filter (!·.isComment)).map withoutComments := by
  fun_induction walkFrom ns with
  | case1 => simp [walkFrom]
  | case2 n waiting ih =>
    obtain ⟨hn, hwaiting⟩ := List.forall_mem_cons.1 h
    have hnext : ∀ m ∈ n.children ++ waiting, m.HasPlainComments := by
      intro m hm
      rcases List.mem_append.1 hm with hm | hm
      · exact hn.of_mem_children hm
      · exact hwaiting m hm
    cases hcomment : n.isComment with
    | true =>
      have hleaf := hn.children_eq_nil hcomment
      rw [hleaf, List.nil_append] at ih hnext
      rw [hleaf, List.nil_append, List.filter_cons_of_neg (by simp [hcomment]),
        List.filter_cons_of_neg (by simp [hcomment]), ih hnext]
    | false =>
      rw [List.filter_cons_of_pos (by simp [hcomment]),
        List.filter_cons_of_pos (by simp [hcomment]), List.map_cons, List.map_cons, walkFrom,
        children_withoutComments, ← List.map_append, ← List.filter_append, ih hnext]

/-- The walk of a tree without comments. -/
theorem HasPlainComments.walk_withoutComments {n : Node} (h : n.HasPlainComments)
    (hn : n.isComment = false) :
    n.withoutComments.walk = (n.walk.filter (!·.isComment)).map withoutComments := by
  have hwalk := walkFrom_withoutComments [n] (by simpa using h)
  rwa [List.filter_cons_of_pos (by simp [hn])] at hwalk

/-- What is read off every node but comments is read off the tree without comments. -/
theorem HasPlainComments.flatMap_walk_withoutComments {n : Node} (h : n.HasPlainComments)
    (hn : n.isComment = false) {f g : Node → List α}
    (hread : ∀ m : Node, m.HasPlainComments → f m.withoutComments = g m)
    (hcomment : ∀ m : Node, m.kind = "comment" → g m = []) :
    n.withoutComments.walk.flatMap f = n.walk.flatMap g := by
  have hlist : ∀ ms : List Node, (∀ m ∈ ms, m.HasPlainComments) →
      (ms.filter (!·.isComment)).flatMap (fun m => f m.withoutComments) = ms.flatMap g := by
    intro ms hms
    induction ms with
    | nil => rfl
    | cons m ms ih =>
      obtain ⟨hm, hms⟩ := List.forall_mem_cons.1 hms
      rw [List.flatMap_cons, ← ih hms]
      cases hkind : m.isComment with
      | true => simp [hkind, hcomment m (eq_of_beq hkind)]
      | false => simp [hkind, hread m hm]
  rw [h.walk_withoutComments hn, List.flatMap_map]
  exact hlist n.walk fun m => h.of_mem_walk

theorem HasPlainComments.filterMap_walk_withoutComments {n : Node} (h : n.HasPlainComments)
    (hn : n.isComment = false) {f g : Node → Option α}
    (hread : ∀ m : Node, m.HasPlainComments → f m.withoutComments = g m)
    (hcomment : ∀ m : Node, m.kind = "comment" → g m = none) :
    n.withoutComments.walk.filterMap f = n.walk.filterMap g := by
  rw [List.filterMap_eq_flatMap_toList, List.filterMap_eq_flatMap_toList]
  exact h.flatMap_walk_withoutComments hn (fun m hm => by rw [hread m hm])
    fun m hm => by rw [hcomment m hm, Option.toList_none]

/-! ### Declarators -/

/-- The declarator inside a declarator is the same without comments. -/
theorem HasPlainComments.innerDeclarator?_withoutComments {n : Node} (h : n.HasPlainComments) :
    n.withoutComments.innerDeclarator? = n.innerDeclarator?.map withoutComments := by
  have hnamed : (n.withoutComments.namedChildren.find? fun c => c.kind != "comment") =
      (n.namedChildren.find? fun c => c.kind != "comment").map withoutComments := by
    rw [← List.head?_filter, ← List.head?_filter, n.filter_ne_comment_withoutComments,
      List.head?_map]
  rw [innerDeclarator?, innerDeclarator?, h.child?_withoutComments, kind_withoutComments, hnamed]
  cases n.child? "declarator" with
  | none => split <;> rfl
  | some c => rfl

theorem HasPlainComments.of_innerDeclarator? {n c : Node} (h : n.HasPlainComments)
    (hc : n.innerDeclarator? = some c) : c.HasPlainComments := by
  rw [innerDeclarator?, Option.or_eq_some_iff] at hc
  rcases hc with hc | ⟨-, hc⟩
  · exact h.of_child? hc
  · split at hc
    · exact h.of_mem_children (List.mem_filter.1 (List.mem_of_find?_eq_some hc)).1
    · cases hc

/-- The declared name with the comments in its node deleted. -/
def Declared.withoutComments (d : Declared) : Declared := { d with name := d.name.withoutComments }

/-- A declarator declares what the declarator inside it declares. -/
theorem declared?_eq (n : Node) :
    n.declared? =
      if n.kind == "identifier" then some ⟨n, false, false⟩
      else if declaratorKinds.contains n.kind then
        (n.innerDeclarator?.bind declared?).map fun d =>
          { d with
            isPointer := d.isPointer || n.kind == "pointer_declarator"
            isArray := d.isArray || n.kind == "array_declarator" }
      else none := by
  rw [declared?]
  split
  · rfl
  · split
    · split
      next hinner => rw [hinner, Option.bind_some]
      next hinner => rw [hinner, Option.bind_none, Option.map_none]
    · rfl

/-- A declarator declares the same name without comments. -/
theorem HasPlainComments.declared?_withoutComments {n : Node} (h : n.HasPlainComments) :
    n.withoutComments.declared? = n.declared?.map Declared.withoutComments := by
  fun_induction declared? n with
  | case1 n hkind =>
    rw [declared?_eq, kind_withoutComments, if_pos hkind]
    rfl
  | case2 n hkind hwrap inner hinner ih =>
    rw [declared?_eq, kind_withoutComments, if_neg hkind, if_pos hwrap,
      h.innerDeclarator?_withoutComments, hinner, Option.map_some, Option.bind_some,
      ih (h.of_innerDeclarator? hinner), Option.map_map, Option.map_map]
    rfl
  | case3 n hkind hwrap hinner =>
    rw [declared?_eq, kind_withoutComments, if_neg hkind, if_pos hwrap,
      h.innerDeclarator?_withoutComments, hinner]
    rfl
  | case4 n hkind hwrap =>
    rw [declared?_eq, kind_withoutComments, if_neg hkind, if_neg hwrap]
    rfl

/-- A function declarator is found below the declarator inside a declarator. -/
theorem functionDeclarator?_eq (n : Node) :
    n.functionDeclarator? =
      if n.kind == "function_declarator" then some n
      else (n.child? "declarator").bind functionDeclarator? := by
  rw [functionDeclarator?]
  split
  · rfl
  · split
    next hinner => rw [hinner, Option.bind_some]
    next hinner => rw [hinner, Option.bind_none]

/-- A declarator leads to the same function declarator without comments. -/
theorem HasPlainComments.functionDeclarator?_withoutComments {n : Node}
    (h : n.HasPlainComments) :
    n.withoutComments.functionDeclarator? = n.functionDeclarator?.map Node.withoutComments := by
  fun_induction functionDeclarator? n with
  | case1 n hkind =>
    rw [functionDeclarator?_eq, kind_withoutComments, if_pos hkind, Option.map_some]
  | case2 n hkind inner hinner ih =>
    rw [functionDeclarator?_eq, kind_withoutComments, if_neg hkind, h.child?_withoutComments,
      hinner, Option.map_some, Option.bind_some, ih (h.of_child? hinner)]
  | case3 n hkind hinner =>
    rw [functionDeclarator?_eq, kind_withoutComments, if_neg hkind, h.child?_withoutComments,
      hinner]
    rfl

/-- The function declarator below a declarator has plain comments if the declarator has. -/
theorem HasPlainComments.of_functionDeclarator? {n f : Node} (h : n.HasPlainComments)
    (hf : n.functionDeclarator? = some f) : f.HasPlainComments := by
  fun_induction functionDeclarator? n with
  | case1 n hkind =>
    cases hf
    exact h
  | case2 n hkind inner hinner ih => exact ih (h.of_child? hinner) hf
  | case3 => cases hf

/-- A function definition has the same function declarator without comments. -/
theorem HasPlainComments.signature?_withoutComments {n : Node} (h : n.HasPlainComments) :
    n.withoutComments.signature? = n.signature?.map Node.withoutComments := by
  rw [signature?, signature?, h.child?_withoutComments]
  cases hchild : n.child? "declarator" with
  | none => rfl
  | some c => exact (h.of_child? hchild).functionDeclarator?_withoutComments

theorem HasPlainComments.of_signature? {n f : Node} (h : n.HasPlainComments)
    (hf : n.signature? = some f) : f.HasPlainComments := by
  obtain ⟨c, hc, hf⟩ := Option.bind_eq_some_iff.1 hf
  exact (h.of_child? hc).of_functionDeclarator? hf

end Node

end DefectScan
