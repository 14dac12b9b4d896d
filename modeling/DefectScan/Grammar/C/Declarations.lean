import DefectScan.Grammar.C.Directives

/-!
# Declarations of C

The rules for function definitions, declarations, declarators and types. A declarator comes in
four kinds that differ in the name at its core: a variable or function, a member, a type, or no
name at all.
-/

namespace DefectScan.Grammar.C

open Shape

/-- A name that stands for a type. -/
def typeName : Shape := shownAs "type_identifier" (rule "identifier")

/-- A name that stands for a member. -/
def memberName : Shape := shownAs "field_identifier" (rule "identifier")

/-- Function definitions and declarations. -/
def definitionRules : List Rule :=
  [nodeRule "function_definition" (sequence
      [optional (rule "ms_call_modifier"), rule "specifiers", optional (rule "ms_call_modifier"),
        inField "declarator" (rule "declarator"), inField "body" (rule "compound_statement")]),
    ⟨"old-style definition", .node "function_definition", sequence
      [optional (rule "ms_call_modifier"), rule "specifiers",
        inField "declarator" (rule "old-style declarator"), many (rule "declaration"),
        inField "body" (rule "compound_statement")]⟩,
    nodeRule "declaration" (sequence
      [rule "specifiers",
        separated (inField "declarator" (either
          (sequence [optional (rule "ms_call_modifier"), rule "declared",
            optional (rule "gnu_asm_expression")])
          (rule "init_declarator"))),
        ";"]),
    nodeRule "type_definition" (sequence
      [optional "__extension__", "typedef", rule "defined type", rule "defined names",
        many (rule "attribute_specifier"), ";"]),
    ⟨"defined type", .group, sequence
      [many (rule "type_qualifier"), inField "type" (rule "type_specifier"),
        many (rule "type_qualifier")]⟩,
    ⟨"defined names", .group, separated (inField "declarator" (rule "type declarator"))⟩,
    ⟨"modifier", .group, oneOf
      [rule "storage_class_specifier", rule "type_qualifier", rule "attribute_specifier",
        rule "attribute_declaration", rule "ms_declspec_modifier"]⟩,
    ⟨"specifiers", .group, rightward 0 (sequence
      [many (rule "modifier"), inField "type" (rule "type_specifier"), many (rule "modifier")])⟩,
    nodeRule "linkage_specification" (sequence
      ["extern", inField "value" (rule "string_literal"),
        inField "body" (oneOf [rule "function_definition", rule "declaration",
          rule "declaration_list"])])]

/-- Attributes and the modifiers of some compilers. -/
def attributeRules : List Rule :=
  [nodeRule "attribute_specifier" (sequence
      [either "__attribute__" "__attribute", "(", rule "argument_list", ")"]),
    nodeRule "attribute" (sequence
      [optional (both (inField "prefix" (rule "identifier")) "::"),
        inField "name" (rule "identifier"), optional (rule "argument_list")]),
    nodeRule "attribute_declaration" (sequence ["[[", separated (rule "attribute"), "]]"]),
    nodeRule "ms_declspec_modifier" (sequence ["__declspec", "(", rule "identifier", ")"]),
    nodeRule "ms_based_modifier" (both "__based" (rule "argument_list")),
    nodeRule "ms_call_modifier" (oneOf
      ["__cdecl", "__clrcall", "__stdcall", "__fastcall", "__thiscall", "__vectorcall"]),
    nodeRule "ms_restrict_modifier" "__restrict",
    nodeRule "ms_unsigned_ptr_modifier" "__uptr",
    nodeRule "ms_signed_ptr_modifier" "__sptr",
    nodeRule "ms_unaligned_ptr_modifier" (either "_unaligned" "__unaligned"),
    nodeRule "ms_pointer_modifier" (oneOf
      [rule "ms_unaligned_ptr_modifier", rule "ms_restrict_modifier",
        rule "ms_unsigned_ptr_modifier", rule "ms_signed_ptr_modifier"]),
    nodeRule "declaration_list" (sequence ["\x7b", many (rule "block item"), "\x7d"])]

/-! ### Declarators -/

/-- A declarator in parentheses. It loses against any other reading of the parentheses. -/
def parenthesizedShape (inner : Shape) : Shape :=
  weighted (-10) (sequence ["(", optional (rule "ms_call_modifier"), inner, ")"])

/-- A declarator with attributes behind it. -/
def attributedShape (inner : Shape) : Shape :=
  rightward 0 (both inner (repeated (rule "attribute_declaration")))

/-- A star and the declarator behind it, after what may stand before the star. -/
def pointerShape (before inner : Shape) : Shape :=
  weighted 1 (rightward 0 (sequence
    [before, "*", many (rule "ms_pointer_modifier"), many (rule "type_qualifier"),
      inField "declarator" inner]))

/-- A declarator with a dimension behind it. -/
def dimensionedShape (inner : Shape) : Shape :=
  binding 1 (sequence
    [inField "declarator" inner, "[", many (either (rule "type_qualifier") "static"),
      inField "size" (optional (either (rule "expression") "*")), "]"])

/-- A declarator with parameters behind it. -/
def parameterizedShape (inner : Shape) : Shape :=
  both (inField "declarator" inner) (inField "parameters" (rule "parameter_list"))

/-- The families of declarators. -/
def declaratorFamilies : List Rule :=
  [⟨"declarator", .family, oneOf
      [rule "attributed_declarator", rule "pointer_declarator", rule "function_declarator",
        rule "array_declarator", rule "parenthesized_declarator", rule "identifier"]⟩,
    ⟨"declared", .group, oneOf
      [rule "attributed_declarator", rule "pointer_declarator", rule "declared function",
        rule "array_declarator", rule "parenthesized_declarator", rule "identifier"]⟩,
    ⟨"member declarator", .family, oneOf
      [rule "attributed member", rule "pointer member", rule "function member",
        rule "array member", rule "parenthesized member", memberName]⟩,
    ⟨"type declarator", .family, oneOf
      [rule "attributed type", rule "pointer type", rule "function type", rule "array type",
        rule "parenthesized type", typeName,
        shownAs "primitive_type" (oneOf ["signed", "unsigned", "long", "short"]),
        rule "primitive_type"]⟩,
    ⟨"abstract declarator", .family, oneOf
      [rule "abstract_pointer_declarator", rule "abstract_function_declarator",
        rule "abstract_array_declarator", rule "abstract_parenthesized_declarator"]⟩]

/-- The declarators of all kinds. -/
def declaratorRules : List Rule :=
  let based : Shape := optional (rule "ms_based_modifier")
  let nameless : Shape := optional (rule "abstract declarator")
  [⟨"parenthesized_declarator", .node "parenthesized_declarator",
      parenthesizedShape (rule "declarator")⟩,
    ⟨"parenthesized member", .node "parenthesized_declarator",
      parenthesizedShape (rule "member declarator")⟩,
    ⟨"parenthesized type", .node "parenthesized_declarator",
      parenthesizedShape (rule "type declarator")⟩,
    nodeRule "abstract_parenthesized_declarator" (binding 1 (sequence
      ["(", optional (rule "ms_call_modifier"), rule "abstract declarator", ")"])),
    ⟨"attributed_declarator", .node "attributed_declarator", attributedShape (rule "declarator")⟩,
    ⟨"attributed member", .node "attributed_declarator",
      attributedShape (rule "member declarator")⟩,
    ⟨"attributed type", .node "attributed_declarator", attributedShape (rule "type declarator")⟩,
    ⟨"pointer_declarator", .node "pointer_declarator", pointerShape based (rule "declarator")⟩,
    ⟨"pointer member", .node "pointer_declarator", pointerShape based (rule "member declarator")⟩,
    ⟨"pointer type", .node "pointer_declarator", pointerShape based (rule "type declarator")⟩,
    nodeRule "abstract_pointer_declarator" (pointerShape empty nameless),
    nodeRule "function_declarator" (rightward 1 (sequence
      [parameterizedShape (rule "declarator"), optional (rule "gnu_asm_expression"),
        many (oneOf [rule "attribute_specifier", rule "identifier", rule "directive call"])])),
    ⟨"declared function", .node "function_declarator", rightward 1 (sequence
      [parameterizedShape (rule "declarator"), optional (rule "gnu_asm_expression"),
        many (rule "attribute_specifier")])⟩,
    ⟨"function member", .node "function_declarator",
      binding 1 (parameterizedShape (rule "member declarator"))⟩,
    ⟨"function type", .node "function_declarator",
      binding 1 (parameterizedShape (rule "type declarator"))⟩,
    nodeRule "abstract_function_declarator" (binding 1 (parameterizedShape nameless)),
    ⟨"old-style declarator", .node "function_declarator", both
      (inField "declarator" (rule "declarator"))
      (inField "parameters" (rule "old-style parameters"))⟩,
    nodeRule "array_declarator" (dimensionedShape (rule "declarator")),
    ⟨"array member", .node "array_declarator", dimensionedShape (rule "member declarator")⟩,
    ⟨"array type", .node "array_declarator", dimensionedShape (rule "type declarator")⟩,
    nodeRule "abstract_array_declarator" (dimensionedShape nameless),
    nodeRule "init_declarator" (sequence
      [inField "declarator" (rule "declarator"), "=",
        inField "value" (either (rule "initializer_list") (rule "expression"))]),
    nodeRule "compound_statement" (sequence ["\x7b", many (rule "block item"), "\x7d"])]

/-! ### Types -/

/-- A word that gives the size of a type. -/
def sizeWord : Shape := oneOf ["signed", "unsigned", "long", "short"]

/-- The type that size words belong to. -/
def sizedType : Shape :=
  inField "type" (optional (either (weighted (-1) typeName) (rule "primitive_type")))

/-- A type with members, after its keyword. -/
def taggedShape (keyword : String) : Shape :=
  rightward 0 (sequence
    [keyword, optional (rule "attribute_specifier"), optional (rule "ms_declspec_modifier"),
      either
        (both (inField "name" typeName)
          (inField "body" (optional (rule "field_declaration_list"))))
        (inField "body" (rule "field_declaration_list")),
      optional (rule "attribute_specifier")])

/-- Storage classes, qualifiers and types. -/
def typeRules : List Rule :=
  [nodeRule "storage_class_specifier" (oneOf
      ["extern", "static", "auto", "register", "inline", "__inline", "__inline__",
        "__forceinline", "thread_local", "__thread"]),
    nodeRule "type_qualifier" (oneOf
      ["const", "constexpr", "volatile", "restrict", "__restrict__", "__extension__", "_Atomic",
        "_Noreturn", "noreturn", "_Nonnull", rule "alignas_qualifier"]),
    nodeRule "alignas_qualifier" (sequence
      [either "alignas" "_Alignas", "(", either (rule "expression") (rule "type_descriptor"),
        ")"]),
    ⟨"type_specifier", .family, oneOf
      [rule "struct_specifier", rule "union_specifier", rule "enum_specifier",
        rule "macro_type_specifier", rule "sized_type_specifier", rule "primitive_type",
        typeName]⟩,
    nodeRule "sized_type_specifier" (either
      (sequence [many sizeWord, sizedType, repeated sizeWord])
      (sequence [repeated sizeWord, many (rule "type_qualifier"), sizedType, many sizeWord])),
    nodeRule "enum_specifier" (sequence
      ["enum",
        either
          (sequence
            [inField "name" typeName,
              optional (both ":" (inField "underlying_type" (rule "primitive_type"))),
              inField "body" (optional (rule "enumerator_list"))])
          (inField "body" (rule "enumerator_list")),
        optional (rule "attribute_specifier")]),
    nodeRule "enumerator_list" (sequence
      ["\x7b",
        many (oneOf
          [both (rule "enumerator") ",", rule "preproc_if of enumerators",
            rule "preproc_ifdef of enumerators", both (rule "preproc_call") ","]),
        optional (oneOf
          [rule "enumerator", rule "preproc_if of a last enumerator",
            rule "preproc_ifdef of a last enumerator", rule "preproc_call"]),
        "\x7d"]),
    nodeRule "struct_specifier" (taggedShape "struct"),
    nodeRule "union_specifier" (taggedShape "union"),
    nodeRule "field_declaration_list" (sequence ["\x7b", many (rule "member item"), "\x7d"]),
    ⟨"member item", .group, oneOf
      [rule "field_declaration", rule "preproc_def", rule "preproc_function_def",
        rule "preproc_call", rule "preproc_if of members", rule "preproc_ifdef of members"]⟩,
    nodeRule "field_declaration" (sequence
      [rule "specifiers", optional (rule "member declarators"),
        optional (rule "attribute_specifier"), ";"]),
    ⟨"member declarators", .group, separated (both
      (inField "declarator" (rule "member declarator")) (optional (rule "bitfield_clause")))⟩,
    nodeRule "bitfield_clause" (both ":" (rule "expression")),
    nodeRule "enumerator" (both
      (inField "name" (rule "identifier"))
      (optional (both "=" (inField "value" (rule "expression"))))),
    nodeRule "variadic_parameter" "...",
    nodeRule "parameter_list" (sequence
      ["(",
        either (list (either (rule "parameter_declaration") (rule "variadic_parameter")))
          (rule "compound_statement"),
        ")"]),
    ⟨"old-style parameters", .node "parameter_list", sequence
      ["(", list (either (rule "identifier") (rule "variadic_parameter")), ")"]⟩,
    nodeRule "parameter_declaration" (sequence
      [rule "specifiers",
        optional (inField "declarator"
          (either (rule "declarator") (rule "abstract declarator"))),
        many (rule "attribute_specifier")])]

/-- The rules for declarations. -/
def declarationRules : List Rule :=
  definitionRules ++ attributeRules ++ declaratorFamilies ++ declaratorRules ++ typeRules

/-- A type on its own, and a macro call that stands for a type. Every other reading comes before
these. -/
def lateTypeRules : List Rule :=
  [⟨"bare type", .group, both (rule "type_specifier") ";"⟩,
    nodeRule "macro_type_specifier" (weighted (-1) (sequence
      [inField "name" (rule "identifier"), "(", inField "type" (rule "type_descriptor"), ")"]))]

end DefectScan.Grammar.C
