import DefectScan.FileTree
import DefectScan.Suppression
import DefectScan.Yaml.Meaning

/-!
# Rule files

A rule file holds a list of mappings, each with a pattern and the lines that it is about. The
lines are one number, or a collection of numbers or of texts that stand for numbers. Rules from a
file come after the built-in ones.
-/

namespace DefectScan

/-- Why there are no rules. -/
inductive RuleFileError where
  /-- The file cannot be read. -/
  | unreadable (fault : FileFault)
  /-- The text stands for no value. -/
  | meaningless (error : Yaml.ReadError)
  /-- The value is no list. -/
  | notAList
  /-- An entry is no mapping with a pattern. -/
  | badEntry (shown : List Char)
  /-- An entry or a pattern cannot be written. -/
  | unwritable (fault : Yaml.WriteFault)
  /-- A line is no integer. -/
  | badLine (message : String)
  /-- A line is infinite. -/
  | infiniteLine
  /-- A line is something that no number can be made of. -/
  | lineOfNoNumber
  /-- The lines are no collection. -/
  | noLines
  deriving DecidableEq, Inhabited

namespace RuleFileError

/-- The message about an error, none if the program stops without one. -/
def message? (path : Path) : RuleFileError → Option String
  | .unreadable fault => some (fault.reason path)
  | .meaningless (.malformed (.noCharacter code)) =>
    if code < Nat.pow 2 31 then some ((Yaml.Fault.noCharacter code).message path.text) else none
  | .meaningless (.malformed .tooDeep) => none
  | .meaningless (.malformed fault) =>
    some ("Malformed suppression file " ++ path.text ++ ": " ++ fault.message path.text)
  | .meaningless (.invalid message) => some message
  | .meaningless _ => none
  | .notAList => some ("Suppression file " ++ path.text ++ " must contain a list of entries")
  | .badEntry shown =>
    some ("Invalid suppression entry in " ++ path.text ++ ": " ++ String.ofList shown)
  | .unwritable .tooManyDigits => some (Number.tooManyDigits none)
  | .badLine message => some message
  | .unwritable .tooDeep | .infiniteLine | .lineOfNoNumber | .noLines => none

end RuleFileError

/-- The number of a line. Fractions are cut off. -/
def lineOf : Yaml.Value → Except RuleFileError Int
  | .int n => .ok n
  | .bool b => .ok (if b then 1 else 0)
  | .real x =>
    match x.truncate? with
    | some n => .ok n
    | none => .error .infiniteLine
  | .notANumber _ => .error (.badLine "cannot convert float NaN to integer")
  | .text s => (Number.readInteger 10 s).mapError .badLine
  | .bytes data =>
    (Number.integer 10 (data.map fun b => Char.ofNat b.toNat)).mapError fun fault =>
      .badLine (fault.message 10 (Yaml.Value.shownBytes data))
  | _ => .error .lineOfNoNumber

/-- The single lines of what a rule says about its lines. -/
def lineItems (d : Yaml.Data) : Yaml.Value → Except RuleFileError (List Yaml.Value)
  | .int n => .ok [.int n]
  | .bool b => .ok [.bool b]
  | .text s => .ok (s.map fun c => .text [c])
  | .bytes data => .ok (data.map fun b => .int b.toNat)
  | .pair key value => .ok [key, value]
  | v =>
    match d.collection? v with
    | some (.list items) => .ok items
    | some (.set items) => .ok items
    | some (.mapping pairs) => .ok (pairs.map Prod.fst)
    | none => .error .noLines

/-- The pairs of a value that is a mapping. -/
def pairsOf? (d : Yaml.Data) (v : Yaml.Value) : Option (List (Yaml.Value × Yaml.Value)) :=
  match d.collection? v with
  | some (.mapping pairs) => some pairs
  | _ => none

/-- The rule of an entry. -/
def ruleOfEntry (d : Yaml.Data) (entry : Yaml.Value) : Except RuleFileError Suppression := do
  let pairs := (pairsOf? d entry).getD []
  match Yaml.Value.field? "pattern" pairs with
  | none => throw (.badEntry (← (d.shown entry).mapError .unwritable))
  | some pattern =>
    let text ← (d.plain pattern).mapError .unwritable
    let lines := (Yaml.Value.field? "lines" pairs).map (lineItems d)
    .ok ⟨String.ofList text, ← (← lines.getD (.ok [])).mapM lineOf⟩

/-- The rules that a value stands for. A value that counts as nothing has none. -/
def rulesOfData (d : Yaml.Data) : Except RuleFileError (List Suppression) :=
  if d.isBlank d.root then .ok []
  else
    match d.collection? d.root with
    | some (.list entries) => entries.mapM (ruleOfEntry d)
    | _ => .error .notAList

/-- The text of a rule file. The file is read in pieces, so a character that is cut off by its end
is counted from its own start. -/
def readRuleText (files : Snapshot) (path : Path) : Except FileFault (List Char) :=
  match files.readText path with
  | .error (.damaged damage) =>
    .error (.damaged (if damage.kind = .truncated then { damage with position := 0 } else damage))
  | result => result

/-- The built-in rules, followed by those of a file if one is given. What its text stands for is
told by `read`. -/
def loadRules (files : Snapshot) (file : Option Path)
    (read : List Char → Except Yaml.ReadError Yaml.Data := Yaml.Data.ofText) :
    Except RuleFileError (List Suppression) :=
  match file with
  | none => .ok builtinSuppressions
  | some path =>
    match readRuleText files path with
    | .error fault => .error (.unreadable fault)
    | .ok text =>
      match read text with
      | .error error => .error (.meaningless error)
      | .ok data => (rulesOfData data).map (builtinSuppressions ++ ·)

end DefectScan
