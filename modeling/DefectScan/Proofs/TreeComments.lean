import DefectScan.Proofs.NestedDeclarations
import DefectScan.Proofs.PrunedTrees
import Mathlib.Data.Option.Basic

/-!
# Comments in a syntax tree

What is read off a tree by fields, kinds and byte ranges is the same in the tree without its
comments: all sites but the loops. Parentheses around a condition are passed over only where they
hold nothing else, so a comment in them hides a condition that is constantly true. The main
statement says that this is the only difference that comments make.
-/

namespace DefectScan

open Text

namespace SyntaxTree

variable (tree : SyntaxTree)

/-- The syntax tree without its comments, over the same source. -/
def withoutComments : SyntaxTree := { tree with root := tree.root.withoutComments }

@[simp] theorem withoutComments_text (n : Node) : tree.withoutComments.text n = tree.text n := rfl

@[simp] theorem withoutComments_position (n : Node) :
    tree.withoutComments.position n = tree.position n := rfl

@[simp] theorem withoutComments_isName (name : List Char) (n : Node) :
    tree.withoutComments.isName name n = tree.isName name n := rfl

@[simp] theorem bytesOf_withoutComments (n : Node) :
    tree.bytesOf n.withoutComments = tree.bytesOf n := by
  rw [bytesOf, bytesOf, Node.start_withoutComments, Node.stop_withoutComments]

@[simp] theorem withoutComments_name (n : Node) : tree.withoutComments.name n = tree.name n := rfl

@[simp] theorem name_withoutComments (n : Node) : tree.name n.withoutComments = tree.name n := by
  rw [name, name, bytesOf_withoutComments]

@[simp] theorem text_withoutComments (n : Node) : tree.text n.withoutComments = tree.text n := by
  rw [text, text, bytesOf_withoutComments]

@[simp] theorem position_withoutComments (n : Node) :
    tree.position n.withoutComments = tree.position n := by
  unfold position row linePrefix before
  rw [Node.start_withoutComments]

@[simp] theorem isName_withoutComments (name : List Char) (n : Node) :
    tree.isName name n.withoutComments = tree.isName name n := by
  rw [isName, isName, Node.kind_withoutComments, bytesOf_withoutComments]

/-! ### Declarations -/

section Declarations

variable {n : Node}

theorem functionLabel_withoutComments (h : n.HasPlainComments) :
    tree.functionLabel n.withoutComments = tree.functionLabel n := by
  have hname : (n.withoutComments.signature?.bind (·.child? "declarator")) =
      (n.signature?.bind (·.child? "declarator")).map Node.withoutComments := by
    rw [h.signature?_withoutComments]
    cases hsignature : n.signature? with
    | none => rfl
    | some f => exact (h.of_signature? hsignature).child?_withoutComments _
  unfold functionLabel functionName?
  rw [hname]
  cases n.signature?.bind (·.child? "declarator") with
  | none => rfl
  | some name => cases hkind : name.kind == "identifier" <;> simp [Option.filter, hkind]

theorem declaredType_withoutComments (h : n.HasPlainComments) :
    tree.declaredType n.withoutComments = tree.declaredType n := by
  rw [declaredType, declaredType, h.child?_withoutComments]
  cases n.child? "type" with
  | none => rfl
  | some type => exact tree.text_withoutComments type

theorem storageClass?_withoutComments (n : Node) :
    tree.storageClass? n.withoutComments = tree.storageClass? n := by
  rw [storageClass?, storageClass?, ← List.head?_filter, ← List.head?_filter,
    n.filter_kind_withoutComments (by decide), List.head?_map]
  cases (n.children.filter fun c => c.kind == "storage_class_specifier").head? with
  | none => rfl
  | some c => simp

theorem initializer?_withoutComments (h : n.HasPlainComments) :
    tree.initializer? n.withoutComments = tree.initializer? n := by
  rw [initializer?, initializer?, Node.kind_withoutComments, h.child?_withoutComments,
    Option.map_map]
  congr 4
  funext c
  exact tree.text_withoutComments c

theorem declaration?_withoutComments (h : n.HasPlainComments) (type scope : List Char)
    (storage : Option (List Char)) (isParameter : Bool) :
    tree.declaration? type scope storage isParameter n.withoutComments =
      tree.declaration? type scope storage isParameter n := by
  unfold declaration?
  rw [h.declared?_withoutComments, tree.initializer?_withoutComments h]
  cases n.declared? with
  | none => rfl
  | some d => simp [Node.Declared.withoutComments]

theorem parameters_withoutComments (h : n.HasPlainComments) (label : List Char) :
    tree.parameters label n.withoutComments = tree.parameters label n := by
  unfold parameters
  rw [h.signature?_withoutComments]
  cases hsignature : n.signature? with
  | none => rfl
  | some f =>
    have hf := h.of_signature? hsignature
    simp only [Option.map_some, Option.bind_some]
    rw [hf.child?_withoutComments]
    cases hlist : f.child? "parameters" with
    | none => rfl
    | some list =>
      simp only [Option.map_some]
      rw [list.filter_kind_withoutComments (by decide), List.filterMap_map]
      refine congrArg collect (List.filterMap_congr fun p hp => ?_)
      have hp' := (hf.of_child? hlist).of_mem_children (List.mem_filter.1 hp).1
      rw [Function.comp_apply, hp'.child?_withoutComments, tree.declaredType_withoutComments hp']
      cases hdeclarator : p.child? "declarator" with
      | none => rfl
      | some declarator =>
        exact tree.declaration?_withoutComments (hp'.of_child? hdeclarator) _ _ _ _

theorem declaredHere_withoutComments (h : n.HasPlainComments) (function : Option (List Char))
    (depth : Nat) :
    tree.declaredHere function depth n.withoutComments = tree.declaredHere function depth n := by
  rw [declaredHere, declaredHere, Node.kind_withoutComments, tree.declaredType_withoutComments h,
    tree.storageClass?_withoutComments, h.childrenAt_withoutComments]
  congr 1
  refine bind_congr fun storage => ?_
  rw [List.filterMap_map]
  refine congrArg collect (List.filterMap_congr fun d hd => ?_)
  exact tree.declaration?_withoutComments (h.of_mem_children (List.mem_filter.1 hd).1) _ _ _ _

/-- The visit of a node without its comments. -/
def Visit.withoutComments (v : Visit) : Visit := { v with node := v.node.withoutComments }

/-- What a visit finds without comments: the same declarations, and the same visits but those of
comments. -/
def Found.withoutComments (found : Found) : Found where
  declarations := found.declarations
  next := (found.next.filter (!·.node.isComment)).map Visit.withoutComments

theorem Visit.found_withoutComments {v : Visit} (h : v.node.HasPlainComments) :
    v.withoutComments.found tree = (v.found tree).map Found.withoutComments := by
  unfold Visit.found
  rw [Visit.innerDepth, Visit.withoutComments, Node.kind_withoutComments,
    tree.functionLabel_withoutComments h, h.child?_withoutComments, Node.children_withoutComments,
    tree.declaredHere_withoutComments h]
  split
  · cases tree.functionLabel v.node with
    | error damage => rfl
    | ok label =>
      have hbody : (((v.node.child? "body").map Node.withoutComments).map fun body =>
          (⟨body, some label, 0⟩ : Visit)).toList =
          ((((v.node.child? "body").map fun body => (⟨body, some label, 0⟩ : Visit)).toList).filter
            (!·.node.isComment)).map Visit.withoutComments := by
        cases hbody : v.node.child? "body" with
        | none => rfl
        | some body => simp [h.isComment_of_child? hbody, Visit.withoutComments]
      simp only [bind, Except.bind, tree.parameters_withoutComments h, hbody]
      cases tree.parameters label v.node <;> rfl
  · change (tree.declaredHere v.function v.innerDepth v.node >>= _) = _
    cases tree.declaredHere v.function v.innerDepth v.node with
    | error damage => rfl
    | ok here =>
      simp only [bind, Except.bind, pure, Except.pure, Except.map, Found.withoutComments,
        List.filter_map, List.map_map]
      rfl

theorem Visit.hasPlainComments_of_found {v w : Visit} {found : Found}
    (h : v.node.HasPlainComments) (hfound : v.found tree = .ok found) (hw : w ∈ found.next) :
    w.node.HasPlainComments := by
  unfold Visit.found at hfound
  split at hfound
  · obtain ⟨label, -, hfound⟩ := bind_eq_ok_iff.1 hfound
    obtain ⟨parameters, -, hfound⟩ := bind_eq_ok_iff.1 hfound
    cases hfound
    obtain ⟨body, hbody, rfl⟩ := Option.map_eq_some_iff.1 (Option.mem_toList.1 hw)
    exact h.of_child? hbody
  · obtain ⟨here, -, hfound⟩ := bind_eq_ok_iff.1 hfound
    cases hfound
    obtain ⟨c, hc, rfl⟩ := List.mem_map.1 hw
    exact h.of_mem_children hc

/-- Nothing is declared at a comment, and nothing is visited below it. -/
theorem Visit.found_of_isComment {v : Visit} (h : v.node.HasPlainComments)
    (hv : v.node.isComment = true) : v.found tree = .ok ⟨[], []⟩ := by
  have hkind : v.node.kind = "comment" := eq_of_beq hv
  simp [Visit.found, declaredHere, hkind, h.children_eq_nil hv, bind, Except.bind, pure,
    Except.pure]

/-- The nodes that wait to be visited declare the same without comments. -/
theorem declarationsFrom_withoutComments (waiting : List Visit)
    (h : ∀ v ∈ waiting, v.node.HasPlainComments) :
    tree.withoutComments.declarationsFrom
        ((waiting.filter (!·.node.isComment)).map Visit.withoutComments) =
      tree.declarationsFrom waiting := by
  have hfound : ∀ v : Visit, v.found tree.withoutComments = v.found tree := fun _ => rfl
  fun_induction declarationsFrom tree waiting with
  | case1 => simp [declarationsFrom]
  | case2 v waiting found hv ih =>
    obtain ⟨hplain, hwaiting⟩ := List.forall_mem_cons.1 h
    have hnext : ∀ w ∈ found.next ++ waiting, w.node.HasPlainComments := by
      intro w hw
      rcases List.mem_append.1 hw with hw | hw
      · exact Visit.hasPlainComments_of_found tree hplain hv hw
      · exact hwaiting w hw
    cases hcomment : v.node.isComment with
    | true =>
      rw [Visit.found_of_isComment tree hplain hcomment] at hv
      cases hv
      rw [List.nil_append] at ih hnext
      rw [List.filter_cons_of_neg (by simp [hcomment]), ih hnext, List.nil_append]
      cases tree.declarationsFrom waiting <;> rfl
    | false =>
      rw [List.filter_cons_of_pos (by simp [hcomment]), List.map_cons, declarationsFrom_cons,
        hfound, Visit.found_withoutComments tree hplain, hv]
      simp only [Except.map, bind, Except.bind, Found.withoutComments] at ih ⊢
      rw [← List.map_append, ← List.filter_append, ih hnext]
  | case3 v waiting damage hv =>
    have hcomment : v.node.isComment = false := by
      by_contra hcomment
      have hnothing :=
        Visit.found_of_isComment tree (h v List.mem_cons_self) (by simpa using hcomment)
      rw [hnothing] at hv
      cases hv
    rw [List.filter_cons_of_pos (by simp [hcomment]), List.map_cons, declarationsFrom_cons,
      hfound, Visit.found_withoutComments tree (h v List.mem_cons_self), hv]
    rfl

end Declarations

theorem declarations_withoutComments (h : tree.root.HasPlainComments)
    (hroot : tree.root.isComment = false) :
    tree.withoutComments.declarations = tree.declarations := by
  have hfrom := tree.declarationsFrom_withoutComments [{ node := tree.root }] (by simpa using h)
  rwa [List.filter_cons_of_pos (by simp [hroot])] at hfrom

/-! ### Calls, includes and formats -/

theorem callee?_withoutComments {n : Node} (h : n.HasPlainComments) :
    callee? n.withoutComments = (callee? n).map Node.withoutComments := by
  rw [callee?, callee?, Node.kind_withoutComments, h.child?_withoutComments]
  split <;> rfl

theorem callee?_of_comment {n : Node} (h : n.kind = "comment") : callee? n = none := by
  simp [callee?, h]

theorem calls_withoutComments (h : tree.root.HasPlainComments)
    (hroot : tree.root.isComment = false) : tree.withoutComments.calls = tree.calls := by
  refine congrArg collect (h.filterMap_walk_withoutComments hroot ?_ ?_)
  · intro n hn
    rw [call?, call?, callee?_withoutComments hn]
    cases callee? n with
    | none => rfl
    | some function =>
      cases hkind : function.kind == "identifier" <;> simp [Option.filter, hkind]
  · intro n hn
    rw [call?, callee?_of_comment hn]
    rfl

theorem include?_withoutComments {n : Node} (h : n.HasPlainComments) :
    tree.include? n.withoutComments = tree.include? n := by
  rw [include?, include?, includedHeader?, includedHeader?, h.child?_withoutComments,
    text_withoutComments]
  cases n.child? "path" with
  | none => simp
  | some path => simp

theorem includes_withoutComments (h : tree.root.HasPlainComments)
    (hroot : tree.root.isComment = false) : tree.withoutComments.includes = tree.includes := by
  unfold includes includesAt includeNodes
  rw [List.filterMap_filter, List.filterMap_filter]
  refine congrArg collect (h.filterMap_walk_withoutComments hroot ?_ ?_)
  · intro n hn
    have hinclude : tree.withoutComments.include? n.withoutComments = tree.include? n :=
      tree.include?_withoutComments hn
    simp [hinclude]
  · intro n hn
    simp [hn]

/-- A literal in a row of literals is no comment. -/
theorem literal?_withoutComments (n : Node) :
    tree.literal? n.withoutComments = tree.literal? n := by
  have hparts : (n.withoutComments.namedChildren.filter fun c => c.kind == "string_literal") =
      (n.namedChildren.filter fun c => c.kind == "string_literal").map Node.withoutComments := by
    rw [Node.namedChildren, List.filter_comm, n.filter_kind_withoutComments (by decide),
      List.filter_map, List.filter_comm]
    simp only [Function.comp_def, Node.info_withoutComments]
    rfl
  rw [literal?, literal?, Node.kind_withoutComments, text_withoutComments, hparts,
    List.flatMap_map]
  simp only [text_withoutComments]

theorem formatCalls_withoutComments (h : tree.root.HasPlainComments)
    (hroot : tree.root.isComment = false) :
    tree.withoutComments.formatCalls = tree.formatCalls := by
  refine h.filterMap_walk_withoutComments hroot ?_ ?_
  · intro n hn
    rw [callee?_withoutComments hn, hn.child?_withoutComments]
    cases callee? n with
    | none => rfl
    | some function =>
      cases n.child? "arguments" with
      | none => rfl
      | some list =>
        have hliteral : tree.withoutComments.literal? ∘ Node.withoutComments = tree.literal? :=
          funext tree.literal?_withoutComments
        have htext : tree.withoutComments.text ∘ Node.withoutComments = tree.text :=
          funext tree.text_withoutComments
        simp only [Option.map_some, Option.bind_eq_bind, Option.bind_some,
          list.filter_ne_comment_withoutComments, List.head?_map, Option.bind_map, List.map_map,
          hliteral, htext, Node.kind_withoutComments, withoutComments_text, text_withoutComments,
          withoutComments_position, position_withoutComments]
  · intro n hn
    rw [callee?_of_comment hn]
    rfl

/-! ### Uses of a name -/

theorem declaredStarts_withoutComments (h : tree.root.HasPlainComments)
    (hroot : tree.root.isComment = false) :
    tree.withoutComments.declaredStarts = tree.declaredStarts := by
  refine h.flatMap_walk_withoutComments hroot ?_ ?_
  · intro n hn
    have hstart : ∀ d : Node, d.HasPlainComments →
        (d.withoutComments.declared?.map fun d => d.name.start) =
          d.declared?.map fun d => d.name.start := by
      intro d hd
      rw [hd.declared?_withoutComments, Option.map_map]
      congr 1
      funext d
      exact d.name.start_withoutComments
    rw [Node.kind_withoutComments, hn.childrenAt_withoutComments, hn.child?_withoutComments,
      List.filterMap_map]
    congr 1
    · apply List.filterMap_congr
      intro d hd
      exact hstart d (hn.of_mem_children (List.mem_filter.1 hd).1)
    · cases hdeclarator : n.child? "declarator" with
      | none => rfl
      | some d =>
        simp only [Option.map_some, Option.bind_some]
        rw [hstart d (hn.of_child? hdeclarator)]
  · intro n hn
    simp [hn]

theorem usages_withoutComments (h : tree.root.HasPlainComments)
    (hroot : tree.root.isComment = false) (name : List Char) :
    tree.withoutComments.usages name = tree.usages name := by
  unfold usages
  rw [tree.declaredStarts_withoutComments h hroot, ← List.filterMap_eq_map, ← List.filterMap_eq_map,
    List.filterMap_filter, List.filterMap_filter]
  refine h.filterMap_walk_withoutComments hroot ?_ ?_
  · intro n _
    simp
  · intro n hn
    simp [isName, hn]

theorem dereferenced?_withoutComments {n : Node} (h : n.HasPlainComments) :
    dereferenced? n.withoutComments = (dereferenced? n).map Node.withoutComments := by
  have hoperator : operator? n.withoutComments = operator? n := by
    rw [operator?, operator?, h.child?_withoutComments, Option.map_map]
    congr 1
    funext c
    exact c.kind_withoutComments
  rw [dereferenced?, dereferenced?, Node.kind_withoutComments, hoperator, h.child?_withoutComments]
  split <;> rfl

theorem dereferences_withoutComments (h : tree.root.HasPlainComments)
    (hroot : tree.root.isComment = false) (name : List Char) :
    tree.withoutComments.dereferences name = tree.dereferences name := by
  refine h.filterMap_walk_withoutComments hroot ?_ ?_
  · intro n hn
    rw [dereferenced?_withoutComments hn]
    cases dereferenced? n with
    | none => rfl
    | some argument => simp
  · intro n hn
    simp [dereferenced?, hn]

/-! ### Conditions -/

/-- Whether a node is the constant one or the constant true. -/
def isTrueLiteral (n : Node) : Bool :=
  n.kind == "true" || (n.kind == "number_literal" && tree.text n == ['1'])

/-- The parentheses around a condition, outermost first, and the condition in them, where comments
in parentheses are passed over. -/
def peel (n : Node) : List Node × Node :=
  if n.kind == "parenthesized_expression" then
    match _h : n.namedChildren.filter (!·.isComment) with
    | [c] => (n :: (peel c).1, (peel c).2)
    | _ => ([], n)
  else ([], n)
  termination_by n.size
  decreasing_by
    all_goals
      have hc : c ∈ n.namedChildren.filter (!·.isComment) := _h ▸ List.mem_singleton_self c
      exact Node.size_lt_of_mem (List.mem_filter.1 (List.mem_filter.1 hc).1).1

/-- Whether a comment stands in the parentheses around a condition. -/
def hasCommentAround (n : Node) : Bool :=
  (peel n).1.any fun p => p.namedChildren.any Node.isComment

/-- Parentheses that hold one node are passed over. -/
theorem stripParentheses_of_singleton {n c : Node} (hkind : n.kind = "parenthesized_expression")
    (hc : n.namedChildren = [c]) : stripParentheses n = stripParentheses c := by
  rw [stripParentheses, if_pos (by simp [hkind])]
  split
  next c' hc' =>
    obtain rfl := List.singleton_inj.1 (hc'.symm.trans hc)
    rfl
  next hne => exact absurd hc (hne c)

/-- Other parentheses are not passed over. -/
theorem stripParentheses_of_ne_singleton {n : Node} (hne : ∀ c, n.namedChildren ≠ [c]) :
    stripParentheses n = n := by
  rw [stripParentheses]
  split
  · split
    next c hc => exact absurd hc (hne c)
    next => rfl
  · rfl

theorem stripParentheses_of_kind {n : Node} (hkind : n.kind ≠ "parenthesized_expression") :
    stripParentheses n = n := by
  rw [stripParentheses, if_neg (by simpa using hkind)]

/-- Without comments the parentheses are passed over as if comments were. -/
theorem stripParentheses_withoutComments (n : Node) :
    stripParentheses n.withoutComments = (peel n).2.withoutComments := by
  fun_induction peel n with
  | case1 n hkind c hc ih =>
    have hnamed : n.withoutComments.namedChildren = [c.withoutComments] := by
      rw [n.namedChildren_withoutComments, hc, List.map_singleton]
    rw [stripParentheses_of_singleton (by simpa using hkind) hnamed, ih]
  | case2 n hkind hne =>
    apply stripParentheses_of_ne_singleton
    intro c hc
    rw [n.namedChildren_withoutComments] at hc
    obtain ⟨c', hc', -⟩ := List.map_eq_singleton_iff.1 hc
    exact hne c' hc'
  | case3 n hkind => exact stripParentheses_of_kind (by simpa using hkind)

/-- A condition is seen to be constantly true if it is and no comment stands around it. -/
theorem isTrueLiteral_stripParentheses (n : Node) :
    tree.isTrueLiteral (stripParentheses n) =
      (tree.isTrueLiteral (peel n).2 && !hasCommentAround n) := by
  have hparentheses : ∀ m : Node, m.kind = "parenthesized_expression" →
      tree.isTrueLiteral m = false := by
    intro m hm
    simp [isTrueLiteral, hm]
  unfold hasCommentAround
  fun_induction peel n with
  | case1 n hkind c hc ih =>
    have hkind : n.kind = "parenthesized_expression" := by simpa using hkind
    cases hany : n.namedChildren.any Node.isComment with
    | true =>
      have hstay : stripParentheses n = n := by
        apply stripParentheses_of_ne_singleton
        intro c' hc'
        rw [hc', List.any_cons, List.any_nil, Bool.or_false] at hany
        rw [hc', List.filter_cons_of_neg (by simp [hany])] at hc
        cases hc
      rw [hstay, hparentheses n hkind]
      simp [hany]
    | false =>
      have hall : n.namedChildren.filter (!·.isComment) = n.namedChildren := by
        rw [List.filter_eq_self]
        intro m hm
        simpa using List.any_eq_false.1 hany m hm
      rw [stripParentheses_of_singleton hkind (hall.symm.trans hc), ih]
      simp [hany]
  | case2 n hkind hne =>
    have hkind : n.kind = "parenthesized_expression" := by simpa using hkind
    rw [hparentheses n hkind]
    by_cases hsingle : ∃ c, n.namedChildren = [c]
    · obtain ⟨c, hc⟩ := hsingle
      have hcomment : c.isComment = true := by
        rw [← Bool.not_eq_false]
        intro hno
        exact hne c (by rw [hc, List.filter_cons_of_pos (by simp [hno]), List.filter_nil])
      have hckind : c.kind = "comment" := eq_of_beq hcomment
      rw [stripParentheses_of_singleton hkind hc, stripParentheses_of_kind (by simp [hckind])]
      simp [isTrueLiteral, hckind]
    · rw [stripParentheses_of_ne_singleton fun c hc => hsingle ⟨c, hc⟩, hparentheses n hkind]
      rfl
  | case3 n hkind =>
    rw [stripParentheses_of_kind (by simpa using hkind)]
    simp

/-! ### Loops -/

/-- Whether a comment in the parentheses around its condition hides that a loop never ends. -/
def hidesEndless (n : Node) : Bool :=
  (n.kind == "while_statement" || n.kind == "do_statement") &&
    (n.child? "condition").any fun c => tree.isTrueLiteral (peel c).2 && hasCommentAround c

/-- Without comments a condition is seen to be constantly true whenever it is. -/
theorem isConstantTrue_withoutComments (c : Node) :
    tree.isConstantTrue (some c.withoutComments) = tree.isTrueLiteral (peel c).2 := by
  change tree.isTrueLiteral (stripParentheses c.withoutComments) = _
  rw [stripParentheses_withoutComments, isTrueLiteral, Node.kind_withoutComments,
    text_withoutComments, isTrueLiteral]

theorem isConstantTrue_eq (c : Node) :
    tree.isConstantTrue (some c) = (tree.isTrueLiteral (peel c).2 && !hasCommentAround c) :=
  tree.isTrueLiteral_stripParentheses c

/-- A loop is seen to be endless as it is without comments, unless comments hide it. -/
theorem endlessKind?_eq {n : Node} (h : n.HasPlainComments) :
    tree.endlessKind? n =
      if tree.hidesEndless n then none else tree.endlessKind? n.withoutComments := by
  unfold endlessKind? hidesEndless
  rw [Node.kind_withoutComments, h.child?_withoutComments]
  by_cases hfor : n.kind = "for_statement"
  · simp [hfor]
  · cases n.child? "condition" with
    | none => simp
    | some c =>
      rw [Option.map_some, Option.any_some, isConstantTrue_withoutComments, isConstantTrue_eq]
      by_cases hwhile : n.kind = "while_statement"
      · cases tree.isTrueLiteral (peel c).2 <;> cases hasCommentAround c <;> simp [hwhile]
      · by_cases hdo : n.kind = "do_statement"
        · cases tree.isTrueLiteral (peel c).2 <;> cases hasCommentAround c <;> simp [hdo]
        · simp [hwhile, hdo]

/-- What comments hide is an endless loop. -/
theorem isSome_endlessKind?_of_hidesEndless {n : Node} (h : n.HasPlainComments)
    (hn : tree.hidesEndless n = true) : (tree.endlessKind? n.withoutComments).isSome = true := by
  obtain ⟨hkind, hcondition⟩ := Bool.and_eq_true_iff.1 hn
  obtain ⟨c, hc, hhidden⟩ := (Option.any_eq_true _ _).1 hcondition
  have htrue := (Bool.and_eq_true_iff.1 hhidden).1
  unfold endlessKind?
  rw [Node.kind_withoutComments, h.child?_withoutComments, hc, Option.map_some,
    isConstantTrue_withoutComments, htrue]
  rcases Bool.or_eq_true_iff.1 hkind with hkind | hkind <;> simp [eq_of_beq hkind]

theorem leaves_withoutComments {n : Node} (h : n.HasPlainComments) :
    tree.leaves n.withoutComments = tree.leaves n := by
  rw [leaves, leaves, Node.kind_withoutComments, callee?_withoutComments h, Option.any_map]
  simp only [text_withoutComments]

/-- The loop that a node is without comments. -/
def bareLoop? (n : Node) : Option Loop :=
  (tree.endlessKind? n.withoutComments).map fun kind =>
    ⟨kind, tree.position n, (n.child? "body").any fun body => body.walk.any tree.leaves⟩

/-- A loop is left by the same nodes without comments. -/
theorem hasExit_withoutComments {n : Node} (h : n.HasPlainComments) :
    ((n.withoutComments.child? "body").any fun body => body.walk.any tree.leaves) =
      (n.child? "body").any fun body => body.walk.any tree.leaves := by
  rw [h.child?_withoutComments, Option.any_map]
  cases hbody : n.child? "body" with
  | none => rfl
  | some body =>
    have hplain := h.of_child? hbody
    rw [Option.any_some, Option.any_some,
      hplain.walk_withoutComments (h.isComment_of_child? hbody), List.any_map, List.any_filter,
      Bool.eq_iff_iff, List.any_eq_true, List.any_eq_true]
    refine exists_congr fun m => and_congr_right fun hm => ?_
    rw [Function.comp_apply, tree.leaves_withoutComments (hplain.of_mem_walk hm)]
    cases hcomment : m.isComment with
    | false => simp
    | true =>
      have hkind : m.kind = "comment" := eq_of_beq hcomment
      simp [leaves, callee?_of_comment hkind, hkind]

theorem loops_withoutComments (h : tree.root.HasPlainComments)
    (hroot : tree.root.isComment = false) :
    tree.withoutComments.loops = tree.root.walk.filterMap tree.bareLoop? := by
  refine h.filterMap_walk_withoutComments hroot ?_ ?_
  · intro n hn
    have hbytes : tree.withoutComments.endlessKind? = tree.endlessKind? := rfl
    have hleaves : tree.withoutComments.leaves = tree.leaves := rfl
    rw [hbytes, hleaves, tree.hasExit_withoutComments hn, withoutComments_position,
      position_withoutComments, bareLoop?]
  · intro n hn
    simp [bareLoop?, endlessKind?, hn]

theorem loops_eq_filterMap_bareLoop? (h : tree.root.HasPlainComments) :
    tree.loops = (tree.root.walk.filter (!tree.hidesEndless ·)).filterMap tree.bareLoop? := by
  rw [loops, List.filterMap_filter]
  apply List.filterMap_congr
  intro n hn
  rw [tree.endlessKind?_eq (h.of_mem_walk hn), bareLoop?]
  cases tree.hidesEndless n <;> rfl

end SyntaxTree

/-- Leaving out members that give a result leaves out results. -/
private theorem filterMap_filter_eq_iff {l : List α} {p : α → Bool} {f : α → Option β}
    (h : ∀ a ∈ l, p a = false → (f a).isSome = true) :
    l.filterMap f = (l.filter p).filterMap f ↔ ∀ a ∈ l, p a = true := by
  constructor
  · intro heq
    induction l with
    | nil => simp
    | cons a l ih =>
      obtain ⟨ha, hl⟩ := List.forall_mem_cons.1 h
      cases hp : p a with
      | true =>
        rw [List.filter_cons_of_pos hp] at heq
        refine List.forall_mem_cons.2 ⟨hp, ih hl ?_⟩
        cases hf : f a <;> simpa [hf] using heq
      | false =>
        obtain ⟨b, hb⟩ := Option.isSome_iff_exists.1 (ha hp)
        have hle := ((List.filter_sublist (p := p) (l := l)).filterMap f).length_le
        have hlength := congrArg List.length heq
        rw [List.filter_cons_of_neg (by simp [hp]), List.filterMap_cons_some hb,
          List.length_cons] at hlength
        omega
  · intro hall
    rw [List.filter_eq_self.2 hall]

/-- A tree without its comments has the same sites, and the same loops exactly if no comment stands
beside a constant condition. -/
theorem sites_withoutComments_iff (tree : SyntaxTree) (h : tree.root.HasPlainComments) :
    tree.withoutComments.declarations = tree.declarations ∧
      tree.withoutComments.calls = tree.calls ∧
      tree.withoutComments.includes = tree.includes ∧
      tree.withoutComments.formatCalls = tree.formatCalls ∧
      (∀ name, tree.withoutComments.usages name = tree.usages name) ∧
      (∀ name, tree.withoutComments.dereferences name = tree.dereferences name) ∧
      tree.loops.Sublist tree.withoutComments.loops ∧
      (tree.withoutComments.loops = tree.loops ↔
        ∀ n ∈ tree.root.walk, tree.hidesEndless n = false) := by
  cases hroot : tree.root.isComment with
  | true =>
    have hsame : tree.withoutComments = tree := by
      rw [SyntaxTree.withoutComments, h.withoutComments_eq hroot]
    have hwalk : tree.root.walk = [tree.root] := by
      rw [Node.walk_eq, h.children_eq_nil hroot, Node.walkFrom]
    have hkind : tree.root.kind = "comment" := eq_of_beq hroot
    rw [hsame, hwalk]
    simp [SyntaxTree.hidesEndless, hkind]
  | false =>
    refine ⟨tree.declarations_withoutComments h hroot, tree.calls_withoutComments h hroot,
      tree.includes_withoutComments h hroot, tree.formatCalls_withoutComments h hroot,
      tree.usages_withoutComments h hroot, tree.dereferences_withoutComments h hroot, ?_, ?_⟩
    · rw [tree.loops_withoutComments h hroot, tree.loops_eq_filterMap_bareLoop? h]
      exact List.filter_sublist.filterMap _
    · rw [tree.loops_withoutComments h hroot, tree.loops_eq_filterMap_bareLoop? h,
        filterMap_filter_eq_iff]
      · simp
      · intro n hn hhides
        have hsome := tree.isSome_endlessKind?_of_hidesEndless (h.of_mem_walk hn)
          (by simpa using hhides)
        rwa [SyntaxTree.bareLoop?, Option.isSome_map]

/-- A named node that is no error. -/
private def namedNode (kind : String) (field : Option String) (start stop : Nat)
    (children : List Node := []) : Node :=
  .mk ⟨kind, field, start, stop, true, false, false⟩ children

/-- A token, which is its own kind. -/
private def tokenNode (token : String) (start stop : Nat) : Node :=
  .mk ⟨token, none, start, stop, false, false, false⟩ []

/-- The tree of a function whose body is a loop over the condition `1`, with the comments before
the loop and behind the condition. -/
private def loopTree (text : String) (beforeLoop inCondition : List Node) : SyntaxTree where
  root :=
    namedNode "translation_unit" none 0 43
      [namedNode "function_definition" none 0 42
        [namedNode "primitive_type" (some "type") 0 4,
        namedNode "function_declarator" (some "declarator") 5 12
          [namedNode "identifier" (some "declarator") 5 6,
          namedNode "parameter_list" (some "parameters") 6 12
            [tokenNode "(" 6 7,
            namedNode "parameter_declaration" none 7 11
              [namedNode "primitive_type" (some "type") 7 11],
            tokenNode ")" 11 12]],
        namedNode "compound_statement" (some "body") 13 42
          (tokenNode "\x7b" 13 14 :: beforeLoop ++
          [namedNode "while_statement" none 19 40
            [tokenNode "while" 19 24,
            namedNode "parenthesized_expression" (some "condition") 25 36
              (tokenNode "(" 25 26 :: namedNode "number_literal" none 26 27 :: inCondition ++
                [tokenNode ")" 35 36]),
            namedNode "compound_statement" (some "body") 37 40
              [tokenNode "\x7b" 37 38, tokenNode "\x7d" 39 40]],
          tokenNode "\x7d" 41 42])]]
  bytes := (utf8 text.toList).toArray
  lines := splitLines text.toList

/-- A comment before an endless loop hides nothing. -/
theorem sites_withoutComments_iff_beforeLoop :
    let tree := loopTree "void f(void) \x7b\n/**/while (1        ) \x7b \x7d\n\x7d\n"
      [namedNode "comment" none 15 19] []
    tree.root.HasPlainComments ∧ tree.root.walk.any Node.isComment = true ∧
      (∀ n ∈ tree.root.walk, tree.hidesEndless n = false) ∧
      tree.loops = [⟨.whileLoop, ⟨1, 4⟩, false⟩] ∧ tree.withoutComments.loops = tree.loops := by
  intro tree
  have hplain : tree.root.HasPlainComments := by decide +kernel
  have hhides : ∀ n ∈ tree.root.walk, tree.hidesEndless n = false := by decide +kernel
  obtain ⟨-, -, -, -, -, -, -, hiff⟩ := sites_withoutComments_iff tree hplain
  exact ⟨hplain, by decide +kernel, hhides, by decide +kernel, hiff.2 hhides⟩

/-- A comment behind the constant condition of a loop hides that the loop is endless. -/
theorem loop_hidden_by_comment :
    let tree := loopTree "void f(void) \x7b\n    while (1 /* c */) \x7b \x7d\n\x7d\n" []
      [namedNode "comment" none 28 35]
    tree.root.HasPlainComments ∧ tree.loops = [] ∧
      tree.withoutComments.loops = [⟨.whileLoop, ⟨1, 4⟩, false⟩] := by
  decide +kernel

end DefectScan
