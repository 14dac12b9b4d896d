import DefectScan.Grammar.Lexeme
import DefectScan.Text.Digit
import DefectScan.Text.Word

/-!
# Tokens of C

The classes of tokens of C other than its marks: names, numbers, the insides of literals, header
names, comments and what directives are made of.
-/

namespace DefectScan.Grammar.C

open Pattern

/-- A decimal digit. -/
def decimal : Pattern := char Char.isDigit

/-- A hexadecimal digit. -/
def hexadecimal : Pattern := oneOfChars "0123456789abcdefABCDEF"

/-- A character named by its number. -/
def namedCharacter : Pattern :=
  either (both (text "\\u") (times hexadecimal 4)) (both (text "\\U") (times hexadecimal 8))

/-- A character that a name may begin with. -/
def startsName (c : Char) : Bool :=
  c == '_' || c == '$' || (Text.isLetterOrNumber c && !Text.isDigit c)

/-- A character that a name may go on with. -/
def continuesName (c : Char) : Bool := c == '$' || Text.isWord c

/-- Names, and the keywords among them. -/
def nameLexeme : Lexeme :=
  { name := "identifier"
    pattern := both (either (char startsName) namedCharacter)
      (many (either (char continuesName) namedCharacter)) }

/-- Digits, possibly in groups with a quote between them. -/
def grouped (digit : Pattern) : Pattern :=
  both (oneOrMore digit) (many (both (text "'") (oneOrMore digit)))

/-- Numbers, with a sign right before them. -/
def numberPattern : Pattern :=
  let hexMark := either (text "0x") (text "0X")
  let binaryMark := either (text "0b") (text "0B")
  sequence
    [optional (oneOfChars "-+"),
      optional (either hexMark binaryMark),
      either
        (both
          (oneOf [grouped decimal, both binaryMark (grouped decimal),
            both hexMark (grouped hexadecimal)])
          (optional (both (text ".") (optional (grouped hexadecimal)))))
        (both (text ".") (grouped decimal)),
      optional (both (oneOfChars "eEpP")
        (optional (both (optional (oneOfChars "-+")) (grouped hexadecimal)))),
      many (oneOfChars "uUlLwWfFbBdD")]

/-- Comments to the end of the line, which a backslash can put off, and comments in slashes and
stars. -/
def commentLexeme : Lexeme :=
  { name := "comment"
    pattern :=
      let stars := oneOrMore (text "*")
      either
        (both (text "//")
          (many (either (noneOfChars "\\\n")
            (both (oneOrMore (text "\\")) (either (noneOfChars "\\\n")
              (either (text "\n") (text "\r\n")))))))
        (sequence
          [text "/*", many (noneOfChars "*"), stars,
            many (sequence [noneOfChars "/*", many (noneOfChars "*"), stars]), text "/"]) }

/-- Escape sequences in literals. -/
def escapePattern : Pattern :=
  both (text "\\")
    (oneOf
      [noneOfChars "xuU", both decimal (both decimal (optional decimal)),
        both (text "x")
          (both hexadecimal (optional (both hexadecimal
            (optional (both hexadecimal (optional hexadecimal)))))),
        both (text "u") (times hexadecimal 4), both (text "U") (times hexadecimal 8)])

/-- The number sign of a directive and what may stand before its word. -/
def directiveSign : Pattern := both (text "#") (many (oneOfChars " \t"))

/-- A directive that the rules know by its word. -/
def directive (word : String) : Lexeme :=
  { name := "#" ++ word, isNamed := false, pattern := both directiveSign (text word) }

/-- The types that are known by name. -/
def primitiveTypes : List String :=
  ["bool", "char", "int", "float", "double", "void", "size_t", "ssize_t", "ptrdiff_t", "intptr_t",
    "uintptr_t", "charptr_t", "nullptr_t", "max_align_t", "int8_t", "int16_t", "int32_t",
    "int64_t", "uint8_t", "uint16_t", "uint32_t", "uint64_t", "char8_t", "char16_t", "char32_t",
    "char64_t"]

/-- The words of the directives that the rules know. -/
def directiveWords : List String :=
  ["include", "define", "if", "endif", "ifdef", "ifndef", "else", "elif", "elifdef", "elifndef"]

/-- The classes of tokens besides names and comments. -/
def lexemes : List Lexeme :=
  directiveWords.map directive ++
  [{ name := "line end", kind := none, reach := .adjacent,
      pattern := either (text "\n") (text "\r\n") },
    { name := "adjacent (", kind := some "(", isNamed := false, reach := .adjacent,
      pattern := text "(" },
    { name := "\n", isNamed := false, reach := .asked, pattern := text "\n" },
    { name := "preproc_arg", rank := -1, reach := .asked,
      pattern := both (char fun c => !Text.isBlank c)
        (many (oneOf [noneOfChars "/\n", both (text "/") (noneOfChars "*"), text "\\\n",
          text "\\\r\n"])) },
    { name := "preproc_directive",
      pattern := both directiveSign
        (both (char Char.isAlphanum) (many (char fun c => c.isAlphanum || c == '_'))) },
    { name := "primitive_type", words := primitiveTypes },
    { name := "number_literal", pattern := numberPattern },
    { name := "character", reach := .adjacent, pattern := noneOfChars "\n'" },
    { name := "string_content", rank := 1, reach := .adjacent,
      pattern := oneOrMore (noneOfChars "\\\"\n") },
    { name := "escape_sequence", rank := 1, reach := .asked, pattern := escapePattern },
    { name := "system_lib_string", reach := .asked,
      pattern := sequence
        [text "<", many (either (noneOfChars ">\n") (text "\\>")), text ">"] },
    { name := "true", words := ["TRUE", "true"] },
    { name := "false", words := ["FALSE", "false"] }]

/-- Tokens that begin alike. -/
def lookalikes : List (List String) :=
  ["preproc_directive" :: directiveWords.map ("#" ++ ·), ["line end", "\n"], ["-", "--"],
    ["+", "++"], ["&", "&&"], ["-", "number_literal"], ["+", "number_literal"]]

end DefectScan.Grammar.C
