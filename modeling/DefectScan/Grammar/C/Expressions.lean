import DefectScan.Grammar.C.Declarations
import DefectScan.Grammar.C.Lexemes
import DefectScan.Grammar.C.Statements

/-!
# Expressions of C

The rules for expressions, initializers and literals, and the whole grammar.
-/

namespace DefectScan.Grammar.C

open Shape

/-- The expressions that can be assigned to. -/
def assignable : Shape :=
  oneOf
    [rule "identifier", rule "call_expression", rule "field_expression",
      rule "pointer_expression", rule "subscript_expression", rule "parenthesized_expression"]

/-- A type in parentheses. -/
def typeInParentheses : Shape :=
  sequence ["(", inField "type" (rule "type_descriptor"), ")"]

/-- Expressions with operators. -/
def operatorRules : List Rule :=
  let expression : Shape := rule "expression"
  [⟨"expression", .family, oneOf (plainExpressions ++ [rule "binary_expression"])⟩,
    ⟨"string", .group, leftward 0 (either (rule "string_literal") (rule "concatenated_string"))⟩,
    nodeRule "comma_expression" (sequence
      [inField "left" expression, ",", inField "right" fullExpression]),
    nodeRule "conditional_expression" (rightward conditionalLevel (sequence
      [inField "condition" expression, "?", optional (inField "consequence" fullExpression), ":",
        inField "alternative" expression])),
    nodeRule "assignment_expression" (rightward assignmentLevel (sequence
      [inField "left" assignable,
        inField "operator" (oneOf
          ["=", "*=", "/=", "%=", "+=", "-=", "<<=", ">>=", "&=", "^=", "|="]),
        inField "right" expression])),
    nodeRule "pointer_expression" (leftward castLevel (both
      (inField "operator" (either "*" "&")) (inField "argument" expression))),
    nodeRule "unary_expression" (leftward unaryLevel (both
      (inField "operator" (oneOf ["!", "~", "-", "+"])) (inField "argument" expression))),
    nodeRule "binary_expression" (binaryShape expression),
    nodeRule "update_expression" (
      let operator : Shape := inField "operator" (either "--" "++")
      let argument : Shape := inField "argument" expression
      rightward unaryLevel (either (both operator argument) (both argument operator))),
    nodeRule "cast_expression" (binding castLevel (both
      typeInParentheses (inField "value" expression))),
    nodeRule "type_descriptor" (sequence
      [many (rule "type_qualifier"), inField "type" (rule "type_specifier"),
        many (rule "type_qualifier"),
        inField "declarator" (optional (rule "abstract declarator"))]),
    nodeRule "sizeof_expression" (binding sizeLevel (both
      "sizeof" (either (inField "value" expression) typeInParentheses))),
    nodeRule "alignof_expression" (binding sizeLevel (both
      (oneOf ["__alignof__", "__alignof", "_alignof", "alignof", "_Alignof"])
      typeInParentheses)),
    nodeRule "offsetof_expression" (binding offsetLevel (sequence
      ["offsetof", "(", inField "type" (rule "type_descriptor"), ",",
        inField "member" memberName, ")"])),
    nodeRule "generic_expression" (binding callLevel (sequence
      ["_Generic", "(", expression, ",",
        separated (sequence [rule "type_descriptor", ":", expression]), ")"])),
    nodeRule "subscript_expression" (binding indexLevel (sequence
      [inField "argument" expression, "[", inField "index" expression, "]"])),
    nodeRule "call_expression" (binding callLevel (both
      (inField "function" expression) (inField "arguments" (rule "argument_list"))))]

/-- Embedded assembly. -/
def assemblyRules : List Rule :=
  let operand : Shape := sequence
    [optional (sequence ["[", inField "symbol" (rule "identifier"), "]"]),
      inField "constraint" (rule "string_literal"), "(", inField "value" (rule "expression"), ")"]
  [nodeRule "gnu_asm_expression" (binding callLevel (sequence
      [oneOf ["asm", "__asm__", "__asm"], many (rule "gnu_asm_qualifier"), "(",
        inField "assembly_code" (rule "string"),
        optional (both (inField "output_operands" (rule "gnu_asm_output_operand_list"))
          (optional (both (inField "input_operands" (rule "gnu_asm_input_operand_list"))
            (optional (both (inField "clobbers" (rule "gnu_asm_clobber_list"))
              (optional (inField "goto_labels" (rule "gnu_asm_goto_list")))))))),
        ")"])),
    nodeRule "gnu_asm_qualifier" (oneOf ["volatile", "__volatile__", "inline", "goto"]),
    nodeRule "gnu_asm_output_operand_list"
      (both ":" (list (inField "operand" (rule "gnu_asm_output_operand")))),
    nodeRule "gnu_asm_output_operand" operand,
    nodeRule "gnu_asm_input_operand_list"
      (both ":" (list (inField "operand" (rule "gnu_asm_input_operand")))),
    nodeRule "gnu_asm_input_operand" operand,
    nodeRule "gnu_asm_clobber_list" (both ":" (list (inField "register" (rule "string")))),
    nodeRule "gnu_asm_goto_list" (both ":" (list (inField "label" (rule "identifier"))))]

/-- Arguments, members, initializers and literals. -/
def operandRules : List Rule :=
  let expression : Shape := rule "expression"
  let initializer : Shape := either expression (rule "initializer_list")
  [nodeRule "extension_expression" (both "__extension__" expression),
    nodeRule "argument_list" (sequence
      ["(", list (either expression (rule "compound_statement")), ")"]),
    nodeRule "field_expression" (both
      (binding memberLevel (both
        (inField "argument" expression) (inField "operator" (either "." "->"))))
      (inField "field" memberName)),
    nodeRule "compound_literal_expression" (both
      typeInParentheses (inField "value" (rule "initializer_list"))),
    nodeRule "parenthesized_expression" (sequence
      ["(", either fullExpression (rule "compound_statement"), ")"]),
    nodeRule "initializer_list" (sequence
      ["\x7b", list (oneOf [rule "initializer_pair", expression, rule "initializer_list"]),
        optional ",", "\x7d"]),
    nodeRule "initializer_pair" (either
      (sequence
        [inField "designator" (repeated (oneOf
            [rule "subscript_designator", rule "field_designator",
              rule "subscript_range_designator"])),
          "=", inField "value" initializer])
      (sequence [inField "designator" memberName, ":", inField "value" initializer])),
    nodeRule "subscript_designator" (sequence ["[", expression, "]"]),
    nodeRule "subscript_range_designator" (sequence
      ["[", inField "start" expression, "...", inField "end" expression, "]"]),
    nodeRule "field_designator" (both "." memberName),
    nodeRule "char_literal" (sequence
      [oneOf ["L'", "u'", "U'", "u8'", "'"],
        repeated (either (rule "escape_sequence") (rule "character")), "'"]),
    nodeRule "concatenated_string" (rightward 0 (both
      (oneOf
        [both (rule "identifier") (rule "string_literal"),
          both (rule "string_literal") (rule "string_literal"),
          both (rule "string_literal") (rule "identifier")])
      (many (either (rule "string_literal") (rule "identifier"))))),
    nodeRule "string_literal" (sequence
      [oneOf ["L\"", "u\"", "U\"", "u8\"", "\""],
        many (either (rule "string_content") (rule "escape_sequence")), "\""]),
    nodeRule "null" (either "NULL" "nullptr")]

/-- The grammar of C. -/
def rulebook : Rulebook :=
  { start := "translation_unit"
    name := nameLexeme
    comment := commentLexeme
    lexemes
    lookalikes
    rules := directiveRules ++ declarationRules ++ statementRules ++ operatorRules ++
      assemblyRules ++ operandRules ++ lateTypeRules }

end DefectScan.Grammar.C
