import DefectScan.Site
import DefectScan.Text.Lines
import DefectScan.Text.Utf8
import DefectScan.Tree.Node

/-!
# Syntax trees over their source

A syntax tree together with the bytes and the lines of the source it was built from. Nodes give
byte ranges; the text of a node and its position, with the column counted in characters, are read
off the source. A range can cut a character in two, and then the node has no name. Building a tree
can fail, and a strict reader refuses trees with errors.
-/

namespace DefectScan

open Text

/-- A syntax tree and the source it was built from. -/
structure SyntaxTree where
  /-- The root node. -/
  root : Node
  /-- The bytes of the source. -/
  bytes : Array UInt8
  /-- The lines of the source. -/
  lines : List (List Char)
  /-- Whether some node of the tree is an error. -/
  hasErrors : Bool := false
  deriving Repr, Inhabited

namespace SyntaxTree

/-- The bytes of a node. -/
def bytesOf (tree : SyntaxTree) (n : Node) : List UInt8 :=
  (tree.bytes.extract n.start n.stop).toList

/-- The text of a node. -/
def text (tree : SyntaxTree) (n : Node) : List Char := ofUtf8Lossy (tree.bytesOf n)

/-- The text of a node that names something, or what is damaged in it. -/
def name (tree : SyntaxTree) (n : Node) : Except Damage (List Char) := ofUtf8 (tree.bytesOf n)

/-- The bytes before a node. -/
def before (tree : SyntaxTree) (n : Node) : List UInt8 := (tree.bytes.extract 0 n.start).toList

/-- The row of a node: the number of line feeds before it. -/
def row (tree : SyntaxTree) (n : Node) : Nat := (tree.before n).count 10

/-- The bytes between the start of a node's line and the node. -/
def linePrefix (tree : SyntaxTree) (n : Node) : List UInt8 :=
  ((tree.before n).reverse.takeWhile (· != 10)).reverse

/-- The position of a node, its column counted in characters. -/
def position (tree : SyntaxTree) (n : Node) : Position :=
  ⟨tree.row n, (ofUtf8Lossy (tree.linePrefix n)).length⟩

end SyntaxTree

/-- Why a source has no usable syntax tree. -/
inductive ParseFailure where
  /-- There is no grammar to read it with. -/
  | noGrammar
  /-- The grammar itself broke down. -/
  | grammarFault (message : String)
  /-- The grammar produced nothing. -/
  | noTree
  /-- The tree has errors, the first of them on this line, counted from one. -/
  | syntaxError (line : Nat)
  /-- Reading the sites off the tree broke down. -/
  | extractionFault (message : String)
  /-- A check could not be set up. -/
  | checkSetup (message : String)
  deriving DecidableEq, Repr, Inhabited

/-- The wording of a parse failure. -/
def ParseFailure.message : ParseFailure → String
  | noGrammar => "Parser not initialized"
  | grammarFault message => "tree-sitter failed: " ++ message
  | noTree => "Failed to parse source code"
  | syntaxError line => "Syntax error near line " ++ toString line
  | extractionFault message => "Tree extraction failed: " ++ message
  | checkSetup message => "Failed to initialize detectors: " ++ message

/-- What a grammar makes of a source. -/
inductive GrammarResult where
  | tree (root : Node)
  | nothing
  | fault (message : String)
  deriving Repr, Inhabited

/-- Turns a source into a tree of nodes. -/
abbrev Grammar := List Char → GrammarResult

/-- A grammar, if there is one, and whether trees with errors are refused. -/
structure Parser where
  /-- The grammar. -/
  grammar : Option Grammar
  /-- Whether a tree with errors is refused. -/
  isStrict : Bool := true

/-- The syntax tree of a source. -/
def Parser.parse (parser : Parser) (source : List Char) : Except ParseFailure SyntaxTree :=
  match parser.grammar with
  | none => .error .noGrammar
  | some grammar =>
    match grammar source with
    | .fault message => .error (.grammarFault message)
    | .nothing => .error .noTree
    | .tree root =>
      let tree : SyntaxTree :=
        { root
          bytes := (utf8 source).toArray
          lines := splitLines source
          hasErrors := root.hasError }
      if parser.isStrict && tree.hasErrors then
        .error (.syntaxError (tree.row root.firstError + 1))
      else .ok tree

end DefectScan
