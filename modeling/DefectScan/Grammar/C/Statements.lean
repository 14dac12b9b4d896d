import DefectScan.Grammar.C.Directives

/-!
# Statements of C

The rules for statements. At the top of a file an expression with a binary operator or a comma is
no statement.
-/

namespace DefectScan.Grammar.C

open Shape

/-- A name that stands for a label. -/
def labelName : Shape := shownAs "statement_identifier" (rule "identifier")

/-- An expression, possibly several with commas between them. -/
def fullExpression : Shape := either (rule "expression") (rule "comma_expression")

/-- The expressions without those of a binary operator. -/
def plainExpressions : List Shape :=
  [rule "conditional_expression", rule "assignment_expression", rule "unary_expression",
    rule "update_expression", rule "cast_expression", rule "pointer_expression",
    rule "sizeof_expression", rule "alignof_expression", rule "offsetof_expression",
    rule "generic_expression", rule "subscript_expression", rule "call_expression",
    rule "field_expression", rule "compound_literal_expression", rule "identifier",
    rule "number_literal", rule "string", rule "true", rule "false", rule "null",
    rule "char_literal", rule "parenthesized_expression", rule "gnu_asm_expression",
    rule "extension_expression"]

/-- The statements with a keyword in front, other than cases. -/
def keywordStatements : List Shape :=
  [rule "if_statement", rule "switch_statement", rule "do_statement", rule "while_statement",
    rule "for_statement", rule "return_statement", rule "break_statement",
    rule "continue_statement", rule "goto_statement"]

/-- The statements that a case may go on with. -/
def plainStatements : List Shape :=
  [rule "attributed_statement", rule "labeled_statement", rule "compound_statement",
    rule "expression_statement"] ++ keywordStatements ++
    [rule "seh_try_statement", rule "seh_leave_statement"]

/-- The rules for statements. -/
def statementRules : List Rule :=
  [nodeRule "attributed_statement"
      (both (repeated (rule "attribute_declaration")) (rule "statement")),
    ⟨"statement", .family, oneOf (rule "case_statement" :: plainStatements)⟩,
    ⟨"file statement", .group, oneOf
      ([rule "case_statement", rule "attributed_statement", rule "labeled_statement",
        rule "compound_statement", rule "file expression"] ++ keywordStatements)⟩,
    nodeRule "labeled_statement" (sequence
      [inField "label" labelName, ":", either (rule "declaration") (rule "statement")]),
    ⟨"file expression", .node "expression_statement",
      both (optional (oneOf plainExpressions)) ";"⟩,
    nodeRule "expression_statement" (both (optional fullExpression) ";"),
    nodeRule "if_statement" (rightward 0 (sequence
      ["if", inField "condition" (rule "parenthesized_expression"),
        inField "consequence" (rule "statement"),
        inField "alternative" (optional (rule "else_clause"))])),
    nodeRule "else_clause" (both "else" (rule "statement")),
    nodeRule "switch_statement" (sequence
      ["switch", inField "condition" (rule "parenthesized_expression"),
        inField "body" (rule "compound_statement")]),
    nodeRule "case_statement" (rightward 0 (sequence
      [either (both "case" (inField "value" (rule "expression"))) "default", ":",
        many (oneOf (plainStatements ++ [rule "declaration", rule "type_definition"]))])),
    nodeRule "while_statement" (sequence
      ["while", inField "condition" (rule "parenthesized_expression"),
        inField "body" (rule "statement")]),
    nodeRule "do_statement" (sequence
      ["do", inField "body" (rule "statement"), "while",
        inField "condition" (rule "parenthesized_expression"), ";"]),
    nodeRule "for_statement" (sequence
      ["for", "(", rule "for clauses", ")", inField "body" (rule "statement")]),
    ⟨"for clauses", .group, sequence
      [either (inField "initializer" (rule "declaration"))
          (both (inField "initializer" (optional fullExpression)) ";"),
        inField "condition" (optional fullExpression), ";",
        inField "update" (optional fullExpression)]⟩,
    nodeRule "return_statement" (sequence ["return", optional fullExpression, ";"]),
    nodeRule "break_statement" (both "break" ";"),
    nodeRule "continue_statement" (both "continue" ";"),
    nodeRule "goto_statement" (sequence ["goto", inField "label" labelName, ";"]),
    nodeRule "seh_try_statement" (sequence
      ["__try", inField "body" (rule "compound_statement"),
        either (rule "seh_except_clause") (rule "seh_finally_clause")]),
    nodeRule "seh_except_clause" (sequence
      ["__except", inField "filter" (rule "parenthesized_expression"),
        inField "body" (rule "compound_statement")]),
    nodeRule "seh_finally_clause" (both "__finally" (inField "body" (rule "compound_statement"))),
    nodeRule "seh_leave_statement" (both "__leave" ";")]

end DefectScan.Grammar.C
