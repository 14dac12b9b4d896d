import DefectScan.LineSites
import DefectScan.Outcome
import DefectScan.Tree.Basic

/-!
# Sites of a syntax tree

Reads declarations, calls, includes, loops and formatted calls off a syntax tree. Comments may
stand anywhere between other nodes and are passed over where children are counted or picked. Names
have to be text: the first one that is damaged ends the reading.
-/

namespace DefectScan

open Text

namespace Node

/-- The nodes that may stand between a declaration and the name it declares. -/
def declaratorKinds : List String :=
  ["init_declarator", "pointer_declarator", "array_declarator", "parenthesized_declarator",
    "attributed_declarator"]

/-- The declarator inside a declarator. In parentheses it need not be marked as such. -/
def innerDeclarator? (n : Node) : Option Node :=
  (n.child? "declarator").or
    (if n.kind == "parenthesized_declarator" then
      n.namedChildren.find? fun c => c.kind != "comment"
    else none)

/-- The declarator inside a declarator is smaller than it. -/
theorem size_lt_of_innerDeclarator? {n c : Node} (h : n.innerDeclarator? = some c) :
    c.size < n.size := by
  rw [innerDeclarator?, Option.or_eq_some_iff] at h
  rcases h with h | ⟨-, h⟩
  · exact size_lt_of_child? h
  · split at h
    · exact size_lt_of_mem (List.mem_filter.1 (List.mem_of_find?_eq_some h)).1
    · simp at h

/-- A declared name with what its declarator says of it. -/
structure Declared where
  /-- The node of the name. -/
  name : Node
  /-- Whether a star was passed. -/
  isPointer : Bool := false
  /-- Whether a dimension was passed. -/
  isArray : Bool := false

/-- Follow a declarator down to the name it declares; functions declare no variable. -/
def declared? (n : Node) : Option Declared :=
  if n.kind == "identifier" then some ⟨n, false, false⟩
  else if declaratorKinds.contains n.kind then
    match _h : n.innerDeclarator? with
    | some inner =>
      inner.declared?.map fun d =>
        { d with
          isPointer := d.isPointer || n.kind == "pointer_declarator"
          isArray := d.isArray || n.kind == "array_declarator" }
    | none => none
  else none
  termination_by n.size
  decreasing_by exact size_lt_of_innerDeclarator? _h

/-- The function declarator at or below a declarator. -/
def functionDeclarator? (n : Node) : Option Node :=
  if n.kind == "function_declarator" then some n
  else
    match _h : n.child? "declarator" with
    | some inner => inner.functionDeclarator?
    | none => none
  termination_by n.size
  decreasing_by exact size_lt_of_child? _h

/-- The function declarator of a function definition. -/
def signature? (n : Node) : Option Node :=
  (n.child? "declarator").bind functionDeclarator?

end Node

namespace SyntaxTree

/-! ### Declarations -/

/-- The name of a function definition, if it is written plainly. -/
def functionName? (tree : SyntaxTree) (n : Node) : Except Damage (Option (List Char)) :=
  ((n.signature?.bind (·.child? "declarator")).filter fun name => name.kind == "identifier").mapM
    tree.name

/-- What a function definition without a plain name is called. -/
def anonymous : List Char := "<anonymous>".toList

/-- The name under which the variables of a function definition are grouped. -/
def functionLabel (tree : SyntaxTree) (n : Node) : Except Damage (List Char) :=
  (tree.functionName? n).map fun
    | some (c :: name) => c :: name
    | _ => anonymous

/-- The type a declaration gives; without one it is `int`. -/
def declaredType (tree : SyntaxTree) (n : Node) : List Char :=
  match n.child? "type" with
  | some t => tree.text t
  | none => "int".toList

/-- The storage class of a declaration. -/
def storageClass? (tree : SyntaxTree) (n : Node) : Except Damage (Option (List Char)) :=
  (n.children.find? fun c => c.kind == "storage_class_specifier").mapM tree.name

/-- The initializer of a declarator. -/
def initializer? (tree : SyntaxTree) (n : Node) : Option (List Char) :=
  if n.kind == "init_declarator" then some (((n.child? "value").map tree.text).getD []) else none

/-- The group of the variables of a block: the function and the depth of the block in it, or
`global` outside functions. -/
def scopeLabel (function : Option (List Char)) (depth : Nat) : List Char :=
  match function with
  | some name => name ++ ':' :: (toString depth).toList
  | none => "global".toList

/-- The declaration that a declarator makes, if it leads to a name. -/
def declaration? (tree : SyntaxTree) (declaredType scope : List Char)
    (storage : Option (List Char)) (isParameter : Bool) (declarator : Node) :
    Option (Except Damage Declaration) :=
  declarator.declared?.map fun d =>
    let initializer := tree.initializer? declarator
    (tree.name d.name).map fun name =>
      { name
        declaredType
        position := tree.position d.name
        isPointer := d.isPointer
        isInitialized := isParameter || initializer.isSome
        isParameter
        isArray := d.isArray
        scope
        storage
        initializer }

/-- The parameters of a function definition, which is called `label`. -/
def parameters (tree : SyntaxTree) (label : List Char) (n : Node) :
    Except Damage (List Declaration) :=
  match n.signature?.bind (·.child? "parameters") with
  | some list =>
    collect ((list.children.filter fun p => p.kind == "parameter_declaration").filterMap fun p =>
      (p.child? "declarator").bind
        (tree.declaration? (tree.declaredType p) (scopeLabel (some label) 1) none true))
  | none => .ok []

/-- The variables that a declaration node declares. -/
def declaredHere (tree : SyntaxTree) (function : Option (List Char)) (depth : Nat) (n : Node) :
    Except Damage (List Declaration) :=
  if n.kind == "declaration" then do
    let storage ← tree.storageClass? n
    collect ((n.childrenAt "declarator").filterMap
      (tree.declaration? (tree.declaredType n) (scopeLabel function depth) storage false))
  else .ok []

/-- A node to visit, with the function around it and the number of blocks around it there. -/
structure Visit where
  /-- The node. -/
  node : Node
  /-- The function around it. -/
  function : Option (List Char) := none
  /-- The number of blocks of that function around it. -/
  depth : Nat := 0

/-- The number of blocks around the children of a visited node. -/
def Visit.innerDepth (v : Visit) : Nat :=
  if v.node.kind == "compound_statement" then v.depth + 1 else v.depth

/-- What a visit finds. -/
structure Found where
  /-- The declarations made at the node itself. -/
  declarations : List Declaration
  /-- What is to be visited below the node. -/
  next : List Visit

/-- Visit a node. Of a function definition only the parameters and the body count, where the depth
starts anew. -/
def Visit.found (tree : SyntaxTree) (v : Visit) : Except Damage Found :=
  if v.node.kind == "function_definition" then do
    let label ← tree.functionLabel v.node
    return {
      declarations := ← tree.parameters label v.node
      next := ((v.node.child? "body").map fun body => ⟨body, some label, 0⟩).toList }
  else do
    return {
      declarations := ← tree.declaredHere v.function v.innerDepth v.node
      next := v.node.children.map fun c => ⟨c, v.function, v.innerDepth⟩ }

/-- What is to be visited below a node is smaller than the node. -/
theorem Visit.sizeAll_next_lt {tree : SyntaxTree} {v : Visit} {found : Found}
    (h : v.found tree = .ok found) : Node.sizeAll (found.next.map Visit.node) < v.node.size := by
  unfold Visit.found at h
  split at h
  · obtain ⟨label, -, h⟩ := bind_eq_ok_iff.1 h
    obtain ⟨parameters, -, h⟩ := bind_eq_ok_iff.1 h
    cases h
    cases hbody : v.node.child? "body" with
    | none =>
      rw [Node.size_eq]
      simp [Node.sizeAll]
    | some body =>
      have := Node.size_lt_of_child? hbody
      simpa [Node.sizeAll] using this
  · obtain ⟨here, -, h⟩ := bind_eq_ok_iff.1 h
    cases h
    have hnode : (Visit.node ∘ fun c => ⟨c, v.function, v.innerDepth⟩) = (id : Node → Node) := rfl
    rw [List.map_map, hnode, List.map_id, Node.size_eq]
    omega

/-- The declarations below the nodes that wait to be visited, first in line first. -/
def declarationsFrom (tree : SyntaxTree) : List Visit → Except Damage (List Declaration)
  | [] => .ok []
  | v :: waiting =>
    match _h : v.found tree with
    | .ok found => (declarationsFrom tree (found.next ++ waiting)).map (found.declarations ++ ·)
    | .error damage => .error damage
  termination_by waiting => Node.sizeAll (waiting.map Visit.node)
  decreasing_by
    have := Visit.sizeAll_next_lt _h
    rw [List.map_append, Node.sizeAll_append, List.map_cons, Node.sizeAll]
    omega

/-- The variables and parameters declared in a file, in document order. -/
def declarations (tree : SyntaxTree) : Except Damage (List Declaration) :=
  tree.declarationsFrom [{ node := tree.root }]

/-! ### Calls and includes -/

/-- The function expression of a call. -/
def callee? (n : Node) : Option Node :=
  if n.kind == "call_expression" then n.child? "function" else none

/-- The call that a node makes, if it calls a function by its plain name. -/
def call? (tree : SyntaxTree) (n : Node) : Option (Except Damage Call) :=
  ((callee? n).filter fun function => function.kind == "identifier").map fun function =>
    (tree.name function).map fun callee => ⟨callee, tree.position n⟩

/-- The calls of functions by their plain names. -/
def calls (tree : SyntaxTree) : Except Damage (List Call) :=
  collect (tree.root.walk.filterMap tree.call?)

/-- The include written in the text of a directive: the first number sign that is followed by
one. -/
def writtenInclude? (text : List Char) : Option (Bool × List Char) :=
  (places text).findSome? fun p => (after? ['#'] p.after).bind includeTarget?

/-- The header of an include node and whether it is a system header: from its path, else from
the text of the directive. -/
def includedHeader? (tree : SyntaxTree) (n : Node) : Option (Except Damage (Bool × List Char)) :=
  match n.child? "path" with
  | some path =>
    if path.kind == "system_lib_string" then
      some ((tree.name path).map fun name => (true, trim (trimOf ['<', '>'] name)))
    else if path.kind == "string_literal" then
      some ((tree.name path).map fun name => (false, trim (trimOf ['"'] name)))
    else (writtenInclude? (tree.text n)).map .ok
  | none => (writtenInclude? (tree.text n)).map .ok

/-- The include of an include node, if there is a recognisable header. -/
def include? (tree : SyntaxTree) (n : Node) : Option (Except Damage Include) :=
  (tree.includedHeader? n).map fun header =>
    header.map fun (isSystem, header) => ⟨header, isSystem, tree.position n⟩

/-- The include nodes of a file. -/
def includeNodes (tree : SyntaxTree) : List Node :=
  tree.root.walk.filter fun n => n.kind == "preproc_include"

/-- The includes of include nodes, those without a recognisable header left out. -/
def includesAt (tree : SyntaxTree) (nodes : List Node) : Except Damage (List Include) :=
  collect (nodes.filterMap tree.include?)

/-- The includes of a file. -/
def includes (tree : SyntaxTree) : Except Damage (List Include) :=
  tree.includesAt tree.includeNodes

/-- The texts of the include directives without a recognisable header, as far as the includes can
be read. -/
def unreadableIncludes (tree : SyntaxTree) : List (List Char) :=
  let read := tree.includeNodes.takeWhile fun n => (tree.includedHeader? n).all Except.isOk
  (read.filter fun n => (tree.includedHeader? n).isNone).map fun n => trim (tree.text n)

/-! ### Loops -/

/-- A condition without the parentheses around it. -/
def stripParentheses (n : Node) : Node :=
  if n.kind == "parenthesized_expression" then
    match _h : n.namedChildren with
    | [c] => stripParentheses c
    | _ => n
  else n
  termination_by n.size
  decreasing_by
    have hc : c ∈ n.namedChildren := _h ▸ List.mem_singleton_self c
    exact Node.size_lt_of_mem (List.mem_filter.1 hc).1

/-- Whether a condition is absent, the constant one or the constant true. -/
def isConstantTrue (tree : SyntaxTree) : Option Node → Bool
  | none => true
  | some condition =>
    let n := stripParentheses condition
    n.kind == "true" || (n.kind == "number_literal" && tree.text n == ['1'])

/-- The functions that do not return. -/
def leavingFunctions : List String := ["exit", "abort", "_Exit"]

/-- Whether a node leaves the loop around it. -/
def leaves (tree : SyntaxTree) (n : Node) : Bool :=
  ["break_statement", "return_statement", "goto_statement"].contains n.kind ||
    (callee? n).any fun f => leavingFunctions.contains (String.ofList (tree.text f))

/-- The kind of a loop whose condition can never become false. -/
def endlessKind? (tree : SyntaxTree) (n : Node) : Option LoopKind :=
  if n.kind == "for_statement" then
    if (n.child? "condition").isNone then some .forLoop else none
  else if n.kind == "while_statement" then
    if tree.isConstantTrue (n.child? "condition") then some .whileLoop else none
  else if n.kind == "do_statement" then
    if tree.isConstantTrue (n.child? "condition") then some .doLoop else none
  else none

/-- The loops of a file whose condition can never become false. -/
def loops (tree : SyntaxTree) : List Loop :=
  tree.root.walk.filterMap fun n =>
    (tree.endlessKind? n).map fun kind =>
      ⟨kind, tree.position n, (n.child? "body").any fun body => body.walk.any tree.leaves⟩

/-! ### Formatted calls -/

/-- The contents of a string literal: between its first quote and its end, which is a quote. -/
def quotedContents? (text : List Char) : Option (List Char) :=
  if text.contains '"' && text.getLast? == some '"' then
    some ((text.drop (text.idxOf '"' + 1)).dropLast)
  else none

/-- The contents of a node that is a string literal or several in a row. -/
def literal? (tree : SyntaxTree) (n : Node) : Option (List Char) :=
  if n.kind == "string_literal" then quotedContents? (tree.text n)
  else if n.kind == "concatenated_string" then
    some ((n.namedChildren.filter fun c => c.kind == "string_literal").flatMap fun c =>
      (quotedContents? (tree.text c)).getD [])
  else none

/-- The formatted calls of a file. -/
def formatCalls (tree : SyntaxTree) : List FormatCall :=
  tree.root.walk.filterMap fun n => do
    let function ← callee? n
    let list ← n.child? "arguments"
    guard (function.kind == "identifier" &&
      formatFunctions.contains (String.ofList (tree.text function)))
    let arguments := list.namedChildren.filter fun c => c.kind != "comment"
    pure ⟨tree.text function, tree.position n, arguments.head?.bind tree.literal?,
      arguments.map tree.text⟩

/-! ### Uses of a name -/

/-- The first bytes of the names that are declared, in declarations and parameters. -/
def declaredStarts (tree : SyntaxTree) : List Nat :=
  tree.root.walk.flatMap fun n =>
    if n.kind == "declaration" then
      (n.childrenAt "declarator").filterMap fun d => d.declared?.map fun d => d.name.start
    else if n.kind == "parameter_declaration" then
      (((n.child? "declarator").bind Node.declared?).map fun d => d.name.start).toList
    else []

/-- Whether a node is the identifier `name`. -/
def isName (tree : SyntaxTree) (name : List Char) (n : Node) : Bool :=
  n.kind == "identifier" && tree.bytesOf n == utf8 name

/-- Where a name occurs without being declared. -/
def usages (tree : SyntaxTree) (name : List Char) : List Position :=
  let declared := tree.declaredStarts
  (tree.root.walk.filter fun n => tree.isName name n && !declared.contains n.start).map
    tree.position

/-- The kind of the operator of an expression. -/
def operator? (n : Node) : Option String := (n.child? "operator").map Node.kind

/-- The expression that a node dereferences: behind a star, before an arrow or before an index. -/
def dereferenced? (n : Node) : Option Node :=
  if (n.kind == "pointer_expression" && operator? n == some "*") ||
      (n.kind == "field_expression" && operator? n == some "->") ||
      n.kind == "subscript_expression" then n.child? "argument"
  else none

/-- Where a name is dereferenced. -/
def dereferences (tree : SyntaxTree) (name : List Char) : List Position :=
  tree.root.walk.filterMap fun n => do
    let argument ← dereferenced? n
    guard (tree.isName name argument)
    pure (tree.position argument)

end SyntaxTree

end DefectScan
