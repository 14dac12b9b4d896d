/-!
# Syntax tree nodes

A node of a concrete syntax tree has a kind, a byte range of the source, possibly the name of the
field it fills in its parent, and children. Walking a tree visits each node before its children
and the children from left to right.
-/

namespace DefectScan

/-- What a node is, without its children. -/
structure NodeInfo where
  /-- The grammar's name for the node; punctuation is its own kind. -/
  kind : String
  /-- The field of the parent that the node fills. -/
  field : Option String := none
  /-- The first byte of the node. -/
  start : Nat
  /-- The byte after the node. -/
  stop : Nat
  /-- Whether the node is more than punctuation. -/
  isNamed : Bool := true
  /-- Whether the node was made up where the grammar wanted it. -/
  isMissing : Bool := false
  /-- Whether the node is marked as faulty for a reason of its own. -/
  isFaulty : Bool := false
  deriving DecidableEq, Repr, Inhabited

/-- A node of a syntax tree. -/
inductive Node where
  | mk (info : NodeInfo) (children : List Node)
  deriving Repr, Inhabited

namespace Node

/-- The node without its children. -/
def info : Node → NodeInfo
  | mk info _ => info

/-- The children from left to right. -/
def children : Node → List Node
  | mk _ children => children

/-- The grammar's name for the node. -/
def kind (n : Node) : String := n.info.kind

/-- The first byte of the node. -/
def start (n : Node) : Nat := n.info.start

/-- The byte after the node. -/
def stop (n : Node) : Nat := n.info.stop

mutual

/-- The number of nodes of a tree. -/
def size : Node → Nat
  | mk _ children => sizeAll children + 1

/-- The number of nodes of several trees. -/
def sizeAll : List Node → Nat
  | [] => 0
  | n :: ns => n.size + sizeAll ns

end

/-- A node counts one more than its children. -/
theorem size_eq (n : Node) : n.size = sizeAll n.children + 1 := by
  cases n
  rw [size, children]

/-- A node is as large as any list of trees it belongs to, at most. -/
theorem size_le_sizeAll {n : Node} {ns : List Node} (h : n ∈ ns) : n.size ≤ sizeAll ns := by
  induction ns with
  | nil => simp at h
  | cons m ns ih =>
    rw [sizeAll]
    rcases List.mem_cons.1 h with rfl | h
    · omega
    · have := ih h
      omega

/-- A child is smaller than its parent. -/
theorem size_lt_of_mem {c n : Node} (h : c ∈ n.children) : c.size < n.size := by
  have := size_le_sizeAll h
  rw [size_eq n]
  omega

/-- Sizes add up along a concatenation. -/
theorem sizeAll_append (ns ms : List Node) : sizeAll (ns ++ ms) = sizeAll ns + sizeAll ms := by
  induction ns with
  | nil => simp [sizeAll]
  | cons n ns ih => simp only [List.cons_append, sizeAll, ih, Nat.add_assoc]

/-- Visit the nodes that wait, first in line first, each followed by its children. -/
def walkFrom : List Node → List Node
  | [] => []
  | n :: waiting => n :: walkFrom (n.children ++ waiting)
  termination_by waiting => sizeAll waiting
  decreasing_by
    rw [sizeAll_append, sizeAll, size_eq]
    omega

/-- A node and all its descendants in document order. -/
def walk (n : Node) : List Node := walkFrom [n]

mutual

/-- Whether the node, or one below it, is an error, is missing or is marked as faulty. -/
def hasError : Node → Bool
  | mk info children =>
    info.kind == "ERROR" || info.isMissing || info.isFaulty || anyError children

/-- Whether one of the trees has an error. -/
def anyError : List Node → Bool
  | [] => false
  | n :: ns => n.hasError || anyError ns

end

/-- The children that are more than punctuation. -/
def namedChildren (n : Node) : List Node := n.children.filter fun c => c.info.isNamed

/-- The first child that fills a field. -/
def child? (n : Node) (field : String) : Option Node :=
  n.children.find? fun c => c.info.field == some field

/-- All children that fill a field. -/
def childrenAt (n : Node) (field : String) : List Node :=
  n.children.filter fun c => c.info.field == some field

/-- A child found by its field is smaller than its parent. -/
theorem size_lt_of_child? {n c : Node} {field : String} (h : n.child? field = some c) :
    c.size < n.size :=
  size_lt_of_mem (List.mem_of_find?_eq_some h)

/-- The node to blame for the errors of a tree: follow the first faulty child down to an error, a
missing node, or a node without faulty children. -/
def firstError (n : Node) : Node :=
  if n.kind == "ERROR" || n.info.isMissing then n
  else
    match _h : n.children.find? hasError with
    | some c => c.firstError
    | none => n
  termination_by n.size
  decreasing_by exact size_lt_of_mem (List.mem_of_find?_eq_some _h)

end Node

end DefectScan
