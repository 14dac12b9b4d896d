import DefectScan.Issue
import DefectScan.Site
import DefectScan.Text.Digit
import DefectScan.Text.Word

/-!
# Formatted input and output

The number of conversions of a format string is compared with the number of arguments, and input
targets have to be passed by address unless they are character buffers.
-/

namespace DefectScan

/-- The number of conversions of a format string; two percent signs are a literal one. -/
def countConversions : List Char → Nat
  | [] => 0
  | '%' :: '%' :: s => countConversions s
  | '%' :: s => countConversions s + 1
  | _ :: s => countConversions s

/-- The identifier at the start of an expression, where ampersands and then opening parentheses
before it are passed over; empty when there is none. -/
def argumentName (expression : List Char) : List Char :=
  let s := Text.trim (Text.dropLeading ['('] (Text.dropLeading ['&'] (Text.trim expression)))
  let name := Text.wordHead s
  if name.head?.any Text.isDigit then [] else name

/-- Whether a type is `char` once signedness and constness are struck out. -/
def isCharType (declaredType : List Char) : Bool :=
  Text.trim (Text.removeAll "const".toList (Text.removeAll "signed".toList
    (Text.removeAll "unsigned".toList declaredType))) == "char".toList

/-- The defects in the number of arguments. Only a literal format can be counted. -/
def FormatCall.countDefects (call : FormatCall) : List Defect :=
  match call.arguments, call.format with
  | _ :: given, some format =>
    let expected := countConversions format
    if given.length < expected then [.tooFewArguments call.callee given.length expected]
    else if expected < given.length then [.tooManyArguments call.callee given.length expected]
    else []
  | _, _ => []

/-- The defect of an input target: it names something, is no address and no character buffer. -/
def targetDefect? (isCharBuffer : List Char → Bool) (expression : List Char) : Option Defect :=
  let name := argumentName expression
  let trimmed := Text.trim expression
  if name.isEmpty || trimmed.head? == some '&' || isCharBuffer name then none
  else some (.notByAddress trimmed name)

/-- The defects of a formatted call. -/
def FormatCall.defects (isCharBuffer : List Char → Bool) (call : FormatCall) : List Defect :=
  call.countDefects ++
    if call.callee = "scanf".toList then
      call.arguments.tail.filterMap (targetDefect? isCharBuffer)
    else []

/-- The defects of a formatted call on its row. -/
def FormatCall.check (isCharBuffer : List Char → Bool) (call : FormatCall) : List Sighting :=
  (call.defects isCharBuffer).map fun d => ⟨call.position.row, d⟩

end DefectScan
