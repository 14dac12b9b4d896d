import DefectScan.Grammar.Lexeme
import Std.Data.HashMap

/-!
# Productions

A rule is spelled out as productions: sequences of symbols without choices. Repetitions become
symbols of their own, which stand for one occurrence or for two repetitions in a row. Symbols are
numbered: the end of the text, names, the marks in the order in which the rules mention them, the
other classes of tokens, the rules, the repetitions, and a symbol for a whole reading.
-/

namespace DefectScan.Grammar

/-- What a production says about one of its parts: the kind of node that a token is shown as, and
the field that the part fills. -/
structure Label where
  /-- The kind of node. -/
  kind : Option String := none
  /-- The field. -/
  field : Option String := none
  deriving DecidableEq, Repr, Inhabited, Hashable

/-- A part of a production. -/
structure Step where
  /-- Its symbol. -/
  symbol : Nat
  /-- The level at which the production binds up to here. -/
  level : Int := 0
  /-- The side to which it groups. -/
  side : Option Side := none
  /-- How the part is shown. -/
  label : Label := {}
  deriving DecidableEq, Repr, Inhabited, Hashable

/-- A way to put symbols together to another symbol. -/
structure Production where
  /-- The symbol that is put together. -/
  head : Nat
  /-- What the production counts when two readings compete. -/
  weight : Int := 0
  /-- The parts. -/
  steps : List Step
  deriving DecidableEq, Repr, Inhabited

/-! ### Repetitions -/

/-- Replace the repetitions in a shape by references to a list of repeated shapes, which grows by
those that it does not have yet. The name of a repetition is its number. -/
def liftRepeats : Shape → List Shape → Shape × List Shape
  | .repeated part, found =>
    let (part, found) := liftRepeats part found
    match found.idxOf? part with
    | some i => (.rule (toString i), found)
    | none => (.rule (toString found.length), found ++ [part])
  | .both first second, found =>
    let (first, found) := liftRepeats first found
    let (second, found) := liftRepeats second found
    (.both first second, found)
  | .either first second, found =>
    let (first, found) := liftRepeats first found
    let (second, found) := liftRepeats second found
    (.either first second, found)
  | .bound level side part, found =>
    let (part, found) := liftRepeats part found
    (.bound level side part, found)
  | .weighted weight part, found =>
    let (part, found) := liftRepeats part found
    (.weighted weight part, found)
  | .inField field part, found =>
    let (part, found) := liftRepeats part found
    (.inField field part, found)
  | .shownAs kind part, found =>
    let (part, found) := liftRepeats part found
    (.shownAs kind part, found)
  | shape, found => (shape, found)

/-- The marks of a shape, in order. -/
def Shape.marks : Shape → List String
  | .mark text => [text]
  | .rule _ => []
  | .empty => []
  | .both first second => first.marks ++ second.marks
  | .either first second => first.marks ++ second.marks
  | .repeated part => part.marks
  | .bound _ _ part => part.marks
  | .weighted _ part => part.marks
  | .inField _ part => part.marks
  | .shownAs _ part => part.marks

/-! ### Numbers of symbols -/

/-- A token of the grammar. -/
inductive Terminal where
  /-- The end of the text. -/
  | finish
  /-- A mark. -/
  | mark (text : String)
  /-- A class of tokens. -/
  | lexeme (l : Lexeme)

/-- The symbols of a grammar. -/
structure Symbols where
  /-- The tokens; their numbers come first. -/
  terminals : Array Terminal
  /-- The numbers of the marks. -/
  marks : Std.HashMap String Nat
  /-- The numbers of classes of tokens, rules and repetitions. -/
  named : Std.HashMap String Nat
  /-- The rules, whose numbers follow those of the tokens. -/
  rules : Array Rule
  /-- The repeated shapes, whose numbers follow those of the rules. -/
  repeats : Array Shape

namespace Symbols

/-- The number of the end of the text. -/
def finish : Nat := 0

/-- The number of names. -/
def name : Nat := 1

/-- The number of tokens. -/
def terminalCount (s : Symbols) : Nat := s.terminals.size

/-- The number of the first repetition. -/
def repeatStart (s : Symbols) : Nat := s.terminals.size + s.rules.size

/-- The number of the symbol for a whole reading, the last one. -/
def whole (s : Symbols) : Nat := s.repeatStart + s.repeats.size

/-- The rule with the given number. -/
def rule? (s : Symbols) (symbol : Nat) : Option Rule :=
  if symbol < s.terminalCount then none else s.rules[symbol - s.terminalCount]?

/-- Whether a symbol is a repetition. -/
def isRepeat (s : Symbols) (symbol : Nat) : Bool := s.repeatStart ≤ symbol && symbol < s.whole

/-- Whether a symbol is a rule whose parts belong to the node around it, and not a family. -/
def isGroup (s : Symbols) (symbol : Nat) : Bool :=
  s.isRepeat symbol || (s.rule? symbol).any fun r => r.showing == .group

end Symbols

/-- The symbols of a grammar, with repetitions lifted out of the rules. -/
def Rulebook.symbols (book : Rulebook) : Symbols :=
  let (rules, repeats) := book.rules.foldl
    (fun (rules, found) (r : Rule) =>
      let (shape, found) := liftRepeats r.shape found
      (rules.push { r with shape }, found))
    ((#[] : Array Rule), [])
  let marks := (book.rules.flatMap fun r => r.shape.marks).eraseDups
  let lexemes := book.lexemes ++ [book.comment]
  let terminals := #[Terminal.finish, .lexeme book.name] ++ (marks.map Terminal.mark).toArray ++
    (lexemes.map Terminal.lexeme).toArray
  let number (start : Nat) (names : List String) : List (String × Nat) :=
    names.zipIdx start
  let lexemeStart := 2 + marks.length
  let ruleStart := lexemeStart + lexemes.length
  { terminals
    marks := Std.HashMap.ofList (number 2 marks)
    named := Std.HashMap.ofList
      ((book.name.name, 1) :: number lexemeStart (lexemes.map Lexeme.name) ++
        number ruleStart (rules.toList.map Rule.name) ++
        number (ruleStart + rules.size)
          ((List.range repeats.length).map toString))
    rules
    repeats := repeats.toArray }

/-! ### Spelling out shapes -/

/-- What the shapes around a part say about it. -/
structure Surrounding where
  /-- The level at which it binds. -/
  level : Int := 0
  /-- The side to which it groups. -/
  side : Option Side := none
  /-- How it is shown. -/
  label : Label := {}

/-- Change the last step of a list. -/
def mapLast (f : Step → Step) : List Step → List Step
  | [] => []
  | [s] => [f s]
  | s :: rest => s :: mapLast f rest

/-- Of two weights the one that is further from zero. -/
def heavier (a b : Int) : Int := if a.natAbs < b.natAbs then b else a

/-- The ways to spell out a shape, each with its weight. The level of a shape that more follows
ends before its last part. -/
def Shape.spellings (symbols : Symbols) (around : Surrounding) (isLast : Bool) :
    Shape → List (Int × List Step)
  | .mark text =>
    [(0, [⟨symbols.marks.getD text 0, around.level, around.side, around.label⟩])]
  | .rule name =>
    [(0, [⟨symbols.named.getD name 0, around.level, around.side, around.label⟩])]
  | .empty => [(0, [])]
  | .both first second =>
    let firsts := first.spellings symbols around false
    let seconds := second.spellings symbols around isLast
    firsts.flatMap fun (v, a) => seconds.map fun (w, b) => (heavier v w, a ++ b)
  | .either first second =>
    first.spellings symbols around isLast ++ second.spellings symbols around isLast
  | .repeated part => part.spellings symbols around isLast
  | .bound level side part =>
    let inner := { around with level, side := side <|> around.side }
    let spelled := part.spellings symbols inner isLast
    if isLast then spelled
    else spelled.map fun (w, steps) =>
      (w, mapLast (fun s => { s with level := around.level, side := around.side }) steps)
  | .weighted weight part =>
    (part.spellings symbols around isLast).map fun (w, steps) => (heavier weight w, steps)
  | .inField field part =>
    part.spellings symbols { around with label := { around.label with field := some field } }
      isLast
  | .shownAs kind part =>
    part.spellings symbols { around with label := { around.label with kind := some kind } } isLast

/-- The productions of all symbols, in the order of the symbols. -/
def Symbols.productions (s : Symbols) (start : Nat) : List Production :=
  let spell (head : Nat) (shape : Shape) : List Production :=
    (shape.spellings s {} true).eraseDups.map fun (weight, steps) => { head, weight, steps }
  let rules := s.rules.toList.zipIdx s.terminalCount |>.flatMap fun (r, head) =>
    spell head r.shape
  let repeats := s.repeats.toList.zipIdx s.repeatStart |>.flatMap fun (shape, head) =>
    { head, steps := [{ symbol := head }, { symbol := head }] } :: spell head shape
  rules ++ repeats ++ [{ head := s.whole, steps := [{ symbol := start }] }]

end DefectScan.Grammar
