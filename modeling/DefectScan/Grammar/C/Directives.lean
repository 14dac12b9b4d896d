import DefectScan.Grammar.Shape

/-!
# Directives of C

The rules for the items of a file and of a block, and for directives: includes, definitions and
conditional parts, which may stand among items, among the members of a type and among
enumerators.
-/

namespace DefectScan.Grammar.C

open Shape

/-! ### How tightly operators bind -/

/-- The binary operators with their levels. -/
def binaryOperators : List (String × Int) :=
  [("+", 10), ("-", 10), ("*", 11), ("/", 11), ("%", 11), ("||", 1), ("&&", 2), ("|", 3),
    ("^", 4), ("&", 5), ("==", 6), ("!=", 6), (">", 7), (">=", 7), ("<=", 7), ("<", 7),
    ("<<", 9), (">>", 9)]

/-- The level of assignments. -/
def assignmentLevel : Int := -2

/-- The level of conditional expressions. -/
def conditionalLevel : Int := -1

/-- The level of member offsets. -/
def offsetLevel : Int := 8

/-- The level of casts and of pointer operators. -/
def castLevel : Int := 12

/-- The level of sizes. -/
def sizeLevel : Int := 13

/-- The level of prefix operators. -/
def unaryLevel : Int := 14

/-- The level of calls. -/
def callLevel : Int := 15

/-- The level of member access. -/
def memberLevel : Int := 16

/-- The level of indexes. -/
def indexLevel : Int := 17

/-- The binary operators between two operands. -/
def binaryShape (operand : Shape) : Shape :=
  oneOf (binaryOperators.map fun (operator, level) =>
    leftward level (sequence
      [inField "left" operand, inField "operator" operator, inField "right" operand]))

/-! ### Items -/

/-- A rule whose node has the rule's name. -/
def nodeRule (name : String) (shape : Shape) : Rule := ⟨name, .node name, shape⟩

/-- The items of a file or block, where the given rule reads statements. -/
def items (statement : String) : Shape :=
  oneOf
    [rule "function_definition", rule "old-style definition", rule "linkage_specification",
      rule "declaration", rule statement, rule "attributed_statement", rule "type_definition",
      rule "bare type", rule "preproc_if", rule "preproc_ifdef", rule "preproc_include",
      rule "preproc_def", rule "preproc_function_def", rule "preproc_call"]

/-- The rules for files and blocks of items. -/
def itemRules : List Rule :=
  [nodeRule "translation_unit" (repeated (rule "file item")),
    ⟨"file item", .group, items "file statement"⟩,
    ⟨"block item", .group, items "statement"⟩]

/-! ### Directives -/

/-- Includes, definitions and other directives of one line. -/
def lineDirectiveRules : List Rule :=
  [nodeRule "preproc_include" (sequence
      [rule "#include",
        inField "path" (oneOf [rule "string_literal", rule "system_lib_string",
          rule "identifier", rule "directive call"]),
        rule "line end"]),
    nodeRule "preproc_def" (sequence
      [rule "#define", inField "name" (rule "identifier"),
        inField "value" (optional (rule "preproc_arg")), rule "line end"]),
    nodeRule "preproc_function_def" (sequence
      [rule "#define", inField "name" (rule "identifier"),
        inField "parameters" (rule "preproc_params"),
        inField "value" (optional (rule "preproc_arg")), rule "line end"]),
    nodeRule "preproc_params" (sequence
      [rule "adjacent (", list (either (rule "identifier") "..."), ")"]),
    nodeRule "preproc_call" (sequence
      [inField "directive" (rule "preproc_directive"),
        inField "argument" (optional (rule "preproc_arg")), rule "line end"])]

/-- Conditional parts around the given content. The ending tells apart the rules for different
contents. -/
def conditionalRules (ending : String) (content : Shape) (level : Int) : List Rule :=
  let next : Shape := inField "alternative" (optional (oneOf
    [rule ("preproc_else" ++ ending), rule ("preproc_elif" ++ ending),
      rule ("preproc_elifdef" ++ ending)]))
  let condition : Shape := both (inField "condition" (rule "directive expression")) (rule "\n")
  let partRule (kind : String) (parts : List Shape) : Rule :=
    ⟨kind ++ ending, .node kind, binding level (sequence parts)⟩
  [partRule "preproc_if" [rule "#if", condition, many content, next, rule "#endif"],
    partRule "preproc_ifdef"
      [either (rule "#ifdef") (rule "#ifndef"), inField "name" (rule "identifier"), many content,
        next, rule "#endif"],
    partRule "preproc_else" [rule "#else", many content],
    partRule "preproc_elif" [rule "#elif", condition, many content, next],
    partRule "preproc_elifdef"
      [either (rule "#elifdef") (rule "#elifndef"), inField "name" (rule "identifier"),
        many content, next]]

/-- The expressions of conditions. -/
def conditionRules : List Rule :=
  let operand : Shape := rule "directive expression"
  [⟨"directive expression", .group, oneOf
      [rule "identifier", rule "directive call", rule "number_literal", rule "char_literal",
        rule "preproc_defined", rule "directive unary", rule "directive binary",
        rule "directive parentheses"]⟩,
    ⟨"directive parentheses", .node "parenthesized_expression", sequence ["(", operand, ")"]⟩,
    nodeRule "preproc_defined" (either
      (binding callLevel (sequence ["defined", "(", rule "identifier", ")"]))
      (both "defined" (rule "identifier"))),
    ⟨"directive unary", .node "unary_expression", leftward unaryLevel (both
      (inField "operator" (oneOf ["!", "~", "-", "+"])) (inField "argument" operand))⟩,
    ⟨"directive call", .node "call_expression", binding callLevel (both
      (inField "function" (rule "identifier")) (inField "arguments" (rule "directive arguments")))⟩,
    ⟨"directive arguments", .node "argument_list", sequence ["(", list operand, ")"]⟩,
    ⟨"directive binary", .node "binary_expression", binaryShape operand⟩]

/-- The rules for items and directives. -/
def directiveRules : List Rule :=
  itemRules ++ lineDirectiveRules ++ conditionalRules "" (rule "block item") 0 ++
    conditionalRules " of members" (rule "member item") 0 ++
    conditionalRules " of enumerators" (both (rule "enumerator") ",") 0 ++
    conditionalRules " of a last enumerator" (rule "enumerator") (-1) ++ conditionRules

end DefectScan.Grammar.C
