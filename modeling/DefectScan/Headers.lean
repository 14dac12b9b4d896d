import DefectScan.Issue
import DefectScan.Site
import DefectScan.Text.EditDistance
import DefectScan.Text.LowerCase

/-!
# Standard headers

Which header declares which function of the standard library, which calls lack their header, and
which included system headers look misspelled.
-/

namespace DefectScan

/-- The functions that each header declares. -/
def headerGroups : List (String × List String) :=
  [("stdio.h",
      ["printf", "scanf", "fprintf", "fscanf", "sprintf", "sscanf", "fopen", "fclose", "fread",
        "fwrite", "fgets", "fputs", "getchar", "putchar", "fgetc", "fputc", "fseek", "ftell",
        "rewind", "feof", "ferror", "perror"]),
    ("stdlib.h",
      ["malloc", "calloc", "realloc", "free", "exit", "abort", "atexit", "atoi", "atof", "atol",
        "strtol", "strtod", "rand", "srand", "system", "getenv", "qsort", "bsearch", "abs",
        "labs", "div", "ldiv"]),
    ("string.h",
      ["strlen", "strcpy", "strncpy", "strcat", "strncat", "strcmp", "strncmp", "strchr",
        "strrchr", "strstr", "strtok", "memcpy", "memmove", "memcmp", "memchr", "memset"]),
    ("math.h",
      ["sin", "cos", "tan", "asin", "acos", "atan", "atan2", "sinh", "cosh", "tanh", "exp", "log",
        "log10", "pow", "sqrt", "ceil", "floor", "fabs", "ldexp", "frexp", "modf", "fmod"]),
    ("ctype.h",
      ["isalpha", "isdigit", "isalnum", "isspace", "islower", "isupper", "isprint", "iscntrl",
        "ispunct", "isxdigit", "tolower", "toupper"]),
    ("time.h",
      ["time", "clock", "ctime", "asctime", "localtime", "gmtime", "mktime", "strftime",
        "difftime"]),
    ("assert.h", ["assert"]),
    ("stdarg.h", ["va_start", "va_arg", "va_end", "va_copy"]),
    ("setjmp.h", ["setjmp", "longjmp"]),
    ("signal.h", ["signal", "raise"]),
    ("locale.h", ["setlocale", "localeconv"])]

/-- Which headers declare a function; any one of them is enough, and a function without headers
is not a library function. -/
abbrev HeaderTable := List Char → List (List Char)

/-- The headers of the standard library. -/
def standardTable : HeaderTable := fun name =>
  (headerGroups.filter fun g => g.2.contains (String.ofList name)).map fun g => g.1.toList

/-- The functions whose headers the directory scan checks. -/
def commonFunctions : List String :=
  ["malloc", "calloc", "realloc", "free", "printf", "fprintf", "sprintf", "scanf", "fscanf",
    "sscanf", "sqrt", "pow", "sin", "cos", "tan", "fabs", "floor", "ceil", "log", "exp"]

/-- Whether a function is among those whose headers the directory scan checks. -/
def isCommonFunction (name : List Char) : Bool := commonFunctions.contains (String.ofList name)

/-- The standard table restricted to the common functions. -/
def commonTable : HeaderTable := fun name =>
  if isCommonFunction name then standardTable name else []

/-- The headers of the standard library; of equally close ones the earlier is suggested. -/
def standardHeaders : List String :=
  ["stdio.h", "stdlib.h", "string.h", "math.h", "ctype.h", "time.h", "assert.h", "limits.h",
    "float.h", "stdarg.h", "setjmp.h", "signal.h", "errno.h", "locale.h", "stddef.h", "stdint.h",
    "stdbool.h", "inttypes.h", "wchar.h", "wctype.h", "iso646.h", "complex.h", "fenv.h",
    "tgmath.h"]

/-- The largest edit distance at which a header is suggested. -/
def maxSuggestionDistance : Nat := 2

/-- The first candidate at a smaller distance than `bound` such that none is closer; case is
ignored. -/
def closest (name : List Char) : (bound : Nat) → List (List Char) → Option (List Char)
  | _, [] => none
  | bound, c :: cs =>
    let d := Text.editDistance (Text.lower name) (Text.lower c)
    if d < bound then some ((closest name d cs).getD c) else closest name bound cs

/-- The header that was probably meant: the first of the closest candidates, if it is close
enough. -/
def suggestHeader (name : List Char) (candidates : List (List Char)) : Option (List Char) :=
  closest name (maxSuggestionDistance + 1) candidates

/-- The calls of library functions none of whose headers is included. -/
def missingHeaders (table : HeaderTable) (calls : List Call) (includes : List Include) :
    List Sighting :=
  calls.filterMap fun call =>
    let headers := table call.callee
    if headers.isEmpty || headers.any (fun h => includes.any fun i => i.header == h) then none
    else some ⟨call.position.row, .missingHeader call.callee headers⟩

/-- The included system headers that are not standard. -/
def misspelledHeaders (includes : List Include) : List Sighting :=
  let known := standardHeaders.map String.toList
  includes.filterMap fun i =>
    if !i.isSystem || known.contains i.header then none
    else some ⟨i.position.row, .unknownHeader i.header (suggestHeader i.header known)⟩

end DefectScan
