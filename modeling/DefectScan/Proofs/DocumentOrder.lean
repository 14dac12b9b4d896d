import DefectScan.Tree.Node

/-!
# Document order

Walking a tree keeps a stack of nodes that wait and hands out one node in each round: the top of the
stack, whose children take its place. In document order a node comes before the nodes below it,
which follow child by child. Both lists are the same for every tree. What was handed out, followed
by what the waiting nodes stand for, is the document order after every round, and each round makes
what waits smaller by one node, so the walk ends.

Equal nodes may stand at several places of a tree. A place is told by its address, the child indices
that lead to it, and the walk goes through all addresses once, in lexicographic order.
-/

namespace DefectScan

namespace Node

/-- What holds of a node once it holds of its children holds of every node. -/
@[elab_as_elim]
theorem inductionOnChildren {motive : Node → Prop}
    (step : ∀ n : Node, (∀ c ∈ n.children, motive c) → motive n) (n : Node) : motive n := by
  induction hsize : n.size using Nat.strongRecOn generalizing n with
  | ind size ih =>
    apply step
    intro c hc
    have hlt : c.size < size := hsize ▸ size_lt_of_mem hc
    exact ih c.size hlt c rfl

/-! ### Document order -/

mutual

/-- A node, then all nodes below it child by child. -/
def preorder : Node → List Node
  | mk info children => mk info children :: preorderAll children

/-- The document orders of several trees one after another. -/
def preorderAll : List Node → List Node
  | [] => []
  | n :: ns => n.preorder ++ preorderAll ns

end

theorem preorder_eq (n : Node) : n.preorder = n :: preorderAll n.children := by
  cases n
  rw [preorder, children]

theorem preorderAll_eq_flatMap (ns : List Node) : preorderAll ns = ns.flatMap preorder := by
  induction ns with
  | nil => rfl
  | cons n ns ih => rw [preorderAll, ih, List.flatMap_cons]

theorem preorderAll_append (ns ms : List Node) :
    preorderAll (ns ++ ms) = preorderAll ns ++ preorderAll ms := by
  simp only [preorderAll_eq_flatMap, List.flatMap_append]

/-- Visiting the waiting nodes gives their document orders one after another. -/
theorem walkFrom_eq_preorderAll (waiting : List Node) : walkFrom waiting = preorderAll waiting := by
  fun_induction walkFrom waiting with
  | case1 => rfl
  | case2 n waiting ih => rw [ih, preorderAll_append, preorderAll, preorder_eq, List.cons_append]

theorem walk_eq_preorder (n : Node) : n.walk = n.preorder := by
  rw [walk, walkFrom_eq_preorderAll, preorderAll, preorderAll, List.append_nil]

/-! ### The stack -/

/-- A round over a stack whose top is its last node: the top is handed out and replaced by its
children, the first on top. -/
def takeTop? (stack : List Node) : Option (Node × List Node) :=
  stack.getLast?.map fun n => (n, stack.dropLast ++ n.children.reverse)

/-- Rounds over a stack that hand out the nodes `yielded`, one in each, and leave `rest` behind. -/
inductive Yields : (stack yielded rest : List Node) → Prop where
  | nothing (stack : List Node) : Yields stack [] stack
  | next {stack next yielded rest : List Node} {n : Node} :
      takeTop? stack = some (n, next) → Yields next yielded rest → Yields stack (n :: yielded) rest

/-- On waiting nodes stacked in reverse, a round takes the first one and lets its children wait in
front of the others. -/
theorem takeTop?_reverse (n : Node) (waiting : List Node) :
    takeTop? (n :: waiting).reverse = some (n, (n.children ++ waiting).reverse) := by
  simp only [takeTop?, List.reverse_cons, List.getLast?_concat, List.dropLast_concat,
    Option.map_some, List.reverse_append]

theorem takeTop?_eq_none_iff {stack : List Node} : takeTop? stack = none ↔ stack = [] := by
  simp only [takeTop?, Option.map_eq_none_iff, List.getLast?_eq_none_iff]

/-- What a round can do. -/
theorem exists_waiting_of_takeTop? {stack next : List Node} {n : Node}
    (h : takeTop? stack = some (n, next)) :
    ∃ waiting, stack = (n :: waiting).reverse ∧ next = (n.children ++ waiting).reverse := by
  cases hreverse : stack.reverse with
  | nil =>
    rw [List.reverse_eq_nil_iff] at hreverse
    rw [takeTop?_eq_none_iff.2 hreverse] at h
    cases h
  | cons m waiting =>
    have hstack : stack = (m :: waiting).reverse := by rw [← hreverse, List.reverse_reverse]
    rw [hstack, takeTop?_reverse, Option.some.injEq, Prod.mk.injEq] at h
    obtain ⟨rfl, rfl⟩ := h
    exact ⟨waiting, hstack, rfl⟩

theorem sizeAll_reverse (ns : List Node) : sizeAll ns.reverse = sizeAll ns := by
  induction ns with
  | nil => rfl
  | cons n ns ih =>
    rw [List.reverse_cons, sizeAll_append, ih]
    simp only [sizeAll]
    omega

namespace Yields

variable {stack yielded rest : List Node}

/-- What was handed out, followed by what still waits, is what waited at the start. -/
theorem preorderAll_eq (h : Yields stack yielded rest) :
    preorderAll stack.reverse = yielded ++ preorderAll rest.reverse := by
  induction h with
  | nothing => rfl
  | next hround _ ih =>
    obtain ⟨waiting, rfl, rfl⟩ := exists_waiting_of_takeTop? hround
    rw [List.reverse_reverse, preorderAll_append] at ih
    rw [List.reverse_reverse, preorderAll, preorder_eq, List.cons_append, ih, List.cons_append]

/-- Each round makes what waits smaller by one node. -/
theorem length_add_sizeAll (h : Yields stack yielded rest) :
    yielded.length + sizeAll rest = sizeAll stack := by
  induction h with
  | nothing => exact Nat.zero_add _
  | next hround _ ih =>
    obtain ⟨waiting, rfl, rfl⟩ := exists_waiting_of_takeTop? hround
    rw [sizeAll_reverse, sizeAll_append] at ih
    rw [sizeAll_reverse, List.length_cons, sizeAll, size_eq]
    omega

/-- The walk of the waiting nodes is a run of rounds to the empty stack. -/
theorem of_walkFrom (waiting : List Node) : Yields waiting.reverse (walkFrom waiting) [] := by
  fun_induction walkFrom waiting with
  | case1 => exact nothing []
  | case2 n waiting ih => exact next (takeTop?_reverse n waiting) ih

end Yields

/-! ### Addresses -/

/-- The node to which child indices lead from the top of the tree. -/
def at? : Node → List Nat → Option Node
  | n, [] => some n
  | n, i :: address => (n.children[i]?).bind fun c => c.at? address

mutual

/-- The addresses of a tree: its top, then the addresses below its children one after another. -/
def addresses : Node → List (List Nat)
  | mk _ children => [] :: addressesFrom 0 children

/-- The addresses below the children from the one with the given index on. -/
def addressesFrom : Nat → List Node → List (List Nat)
  | _, [] => []
  | i, c :: cs => c.addresses.map (i :: ·) ++ addressesFrom (i + 1) cs

end

theorem addresses_eq (n : Node) : n.addresses = [] :: addressesFrom 0 n.children := by
  cases n
  rw [addresses, children]

/-- An address from an index on leads through a child to an address of this child. -/
theorem mem_addressesFrom_iff {i : Nat} {cs : List Node} {address : List Nat} :
    address ∈ addressesFrom i cs ↔
      ∃ j c below, cs[j]? = some c ∧ below ∈ c.addresses ∧ address = (i + j) :: below := by
  induction cs generalizing i with
  | nil => simp [addressesFrom]
  | cons c cs ih =>
    have hshift (j : Nat) : i + 1 + j = i + (j + 1) := by omega
    rw [addressesFrom, List.mem_append, List.mem_map, ih]
    constructor
    · rintro (⟨below, hbelow, rfl⟩ | ⟨j, d, below, hd, hbelow, rfl⟩)
      · exact ⟨0, c, below, rfl, hbelow, rfl⟩
      · exact ⟨j + 1, d, below, hd, hbelow, by rw [hshift]⟩
    · rintro ⟨j, d, below, hd, hbelow, rfl⟩
      cases j with
      | zero =>
        obtain rfl : c = d := Option.some.inj hd
        exact .inl ⟨below, hbelow, rfl⟩
      | succ j => exact .inr ⟨j, d, below, hd, hbelow, by rw [hshift]⟩

/-- The addresses of a tree are those at which it has a node. -/
theorem mem_addresses_iff {n : Node} {address : List Nat} :
    address ∈ n.addresses ↔ (n.at? address).isSome = true := by
  induction address generalizing n with
  | nil =>
    rw [addresses_eq]
    simp [at?]
  | cons i below ih =>
    rw [addresses_eq, List.mem_cons, mem_addressesFrom_iff, at?]
    constructor
    · rintro (h | ⟨j, c, below', hc, hbelow, haddress⟩)
      · cases h
      · rw [Nat.zero_add, List.cons.injEq] at haddress
        obtain ⟨rfl, rfl⟩ := haddress
        rw [hc, Option.bind_some]
        exact ih.1 hbelow
    · intro h
      cases hc : n.children[i]? with
      | none =>
        rw [hc, Option.bind_none] at h
        cases h
      | some c =>
        rw [hc, Option.bind_some] at h
        exact .inr ⟨i, c, below, hc, ih.2 h, by rw [Nat.zero_add]⟩

/-- The addresses below several children come in lexicographic order if those below each one do. -/
theorem pairwise_addressesFrom (i : Nat) {cs : List Node}
    (h : ∀ c ∈ cs, c.addresses.Pairwise (· < ·)) : (addressesFrom i cs).Pairwise (· < ·) := by
  induction cs generalizing i with
  | nil => exact List.Pairwise.nil
  | cons c cs ih =>
    rw [List.forall_mem_cons] at h
    rw [addressesFrom, List.pairwise_append, List.pairwise_map]
    refine ⟨h.1.imp fun hlt => List.cons_lt_cons_iff.2 (.inr ⟨rfl, hlt⟩), ih (i + 1) h.2, ?_⟩
    intro a ha b hb
    obtain ⟨below, -, rfl⟩ := List.mem_map.1 ha
    obtain ⟨j, -, below', -, -, rfl⟩ := mem_addressesFrom_iff.1 hb
    exact List.cons_lt_cons_iff.2 (.inl (by omega))

/-- The addresses come in lexicographic order, each once. -/
theorem pairwise_addresses (n : Node) : n.addresses.Pairwise (· < ·) := by
  induction n using inductionOnChildren with
  | step n ih =>
    rw [addresses_eq, List.pairwise_cons]
    refine ⟨fun address haddress => ?_, pairwise_addressesFrom 0 ih⟩
    obtain ⟨j, -, below, -, -, rfl⟩ := mem_addressesFrom_iff.1 haddress
    exact List.nil_lt_cons _ _

/-- The nodes at the addresses from a child on, if each child has its own nodes at its own
addresses. -/
theorem map_at?_addressesFrom {n : Node} (before cs : List Node)
    (hchildren : n.children = before ++ cs)
    (h : ∀ c ∈ cs, c.addresses.map c.at? = c.preorder.map some) :
    (addressesFrom before.length cs).map n.at? = (preorderAll cs).map some := by
  induction cs generalizing before with
  | nil => rfl
  | cons c cs ih =>
    rw [List.forall_mem_cons] at h
    have hchild : n.children[before.length]? = some c := by
      rw [hchildren, List.getElem?_append_right (Nat.le_refl _), Nat.sub_self]
      rfl
    have hbelow : (c.addresses.map (before.length :: ·)).map n.at? = c.preorder.map some := by
      rw [← h.1, List.map_map]
      apply List.map_congr_left
      intro address _
      rw [Function.comp_apply, at?, hchild, Option.bind_some]
    have hafter := ih (before ++ [c]) (by rw [hchildren, List.append_cons]) h.2
    rw [List.length_append, List.length_singleton] at hafter
    rw [addressesFrom, preorderAll, List.map_append, List.map_append, hbelow, hafter]

/-- The nodes at the addresses of a tree are those of its document order. -/
theorem map_at?_addresses (n : Node) : n.addresses.map n.at? = n.preorder.map some := by
  induction n using inductionOnChildren with
  | step n ih =>
    have hbelow := map_at?_addressesFrom [] n.children rfl ih
    rw [List.length_nil] at hbelow
    rw [addresses_eq, preorder_eq, List.map_cons, List.map_cons, at?, hbelow]

end Node

/-- The walk over a tree ends and hands out the node at each address of the tree once, in
lexicographic order. -/
theorem walk_in_document_order (root : Node) :
    (∀ yielded rest, Node.Yields [root] yielded rest →
        yielded.length + Node.sizeAll rest = root.size ∧
          (Node.takeTop? rest = none → yielded = root.preorder)) ∧
      Node.Yields [root] root.walk [] ∧
      root.walk = root.preorder ∧
      root.walk.map some = root.addresses.map root.at? ∧
      root.addresses.Pairwise (· < ·) ∧
      ∀ address, address ∈ root.addresses ↔ (root.at? address).isSome = true := by
  refine ⟨fun yielded rest h => ⟨?_, fun hend => ?_⟩, Node.Yields.of_walkFrom [root],
    root.walk_eq_preorder, ?_, root.pairwise_addresses, fun address => Node.mem_addresses_iff⟩
  · have hsizes := h.length_add_sizeAll
    simpa only [Node.sizeAll, Nat.add_zero] using hsizes
  · have hparts := h.preorderAll_eq
    rw [Node.takeTop?_eq_none_iff.1 hend] at hparts
    simpa only [List.reverse_singleton, List.reverse_nil, Node.preorderAll, List.append_nil]
      using hparts.symm
  · rw [root.walk_eq_preorder, root.map_at?_addresses]

private def twinLeaf : Node := .mk { kind := "x", start := 0, stop := 1 } []

/-- A node whose children are a leaf, a node above the same leaf and the leaf once more. -/
private def twinRoot : Node :=
  .mk { kind := "r", start := 0, stop := 1 }
    [twinLeaf, .mk { kind := "y", start := 0, stop := 1 } [twinLeaf], twinLeaf]

/-- The same leaf is handed out at each of its three addresses. -/
theorem walk_in_document_order_twins :
    let inner : Node := .mk { kind := "y", start := 0, stop := 1 } [twinLeaf]
    Node.Yields [twinRoot] [twinRoot, twinLeaf] [twinLeaf, inner] ∧
      2 + Node.sizeAll [twinLeaf, inner] = twinRoot.size ∧
      twinRoot.walk = [twinRoot, twinLeaf, inner, twinLeaf, twinLeaf] ∧
      twinRoot.addresses = [[], [0], [1], [1, 0], [2]] := by
  intro inner
  have hrun : Node.Yields [twinRoot] [twinRoot, twinLeaf] [twinLeaf, inner] :=
    .next rfl (.next rfl (.nothing _))
  obtain ⟨hruns, -, hwalk, -⟩ := walk_in_document_order twinRoot
  exact ⟨hrun, (hruns _ _ hrun).1, hwalk.trans rfl, rfl⟩

end DefectScan
