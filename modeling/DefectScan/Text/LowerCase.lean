import DefectScan.Text.Blank
import DefectScan.Text.CaseTable

/-!
# Small letters

Writing a text in small letters replaces every capital by its small letter. Two letters need
more than a table: the dotted capital I becomes an i and a combining dot, and a capital sigma
becomes a final sigma when it ends a word, that is, when a letter with case stands before it and
none after it, marks and the like being looked through.
-/

namespace DefectScan.Text

/-- The small letter of a capital above ASCII, and any other character itself. -/
def smallLetter (c : Char) : Char :=
  match capitalRuns.find? fun r =>
      r.1 ≤ c.toNat && c.toNat ≤ r.2.1 && (c.toNat - r.1) % r.2.2.1 == 0 with
  | some r => Char.ofNat (Int.toNat (c.toNat + r.2.2.2))
  | none => c

/-- Whether the first character that is not looked through is a letter with case. -/
def meetsCased (s : List Char) : Bool :=
  (s.dropWhile (inRanges caseIgnorableRanges)).head?.any (inRanges casedRanges)

/-- The small form of one character between the text before it, last character first, and the
text after it. -/
def smallForm (before : List Char) (c : Char) (after : List Char) : List Char :=
  if c.toNat < 128 then [c.toLower]
  else if c = 'İ' then ['i', '\u0307']
  else if c = 'Σ' then
    if meetsCased before && !meetsCased after then ['ς'] else ['σ']
  else [smallLetter c]

/-- The small form of a text that follows `before`, whose last character comes first. -/
def lowerAfter (before : List Char) : List Char → List Char
  | [] => []
  | c :: s => smallForm before c s ++ lowerAfter (c :: before) s

/-- The text in small letters. -/
def lower (s : List Char) : List Char := lowerAfter [] s

end DefectScan.Text
