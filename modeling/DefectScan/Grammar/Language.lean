import DefectScan.Grammar.C.Expressions
import DefectScan.Grammar.Reader
import DefectScan.Tree.Basic

/-!
# Languages

A grammar is made ready for reading once: its automaton and the scanner of its tokens. Then it
turns texts into trees.
-/

namespace DefectScan.Grammar

/-- The rest of a text from each byte on. Within a character it is the rest from its first byte. -/
def restsOf (done : Array (List Char)) : List Char → Array (List Char)
  | [] => done.push []
  | c :: s => restsOf (done ++ Array.replicate c.utf8Size (c :: s)) s

/-- A grammar made ready for reading. -/
structure Engine where
  /-- The automaton. -/
  automaton : Automaton
  /-- How tokens are found. -/
  scanner : Scanner

/-- Make a grammar ready for reading. -/
def Rulebook.engine (book : Rulebook) : Engine :=
  let automaton := book.automaton
  { automaton, scanner := automaton.items.symbols.scanner book.name.pattern }

/-- The tree of a text. It reaches from the first node to the end of the text. -/
def Engine.tree? (e : Engine) (text : List Char) : Option Node :=
  let rests := restsOf #[] text
  let reader : Reader := { automaton := e.automaton, scanner := e.scanner, rests }
  let symbols := e.automaton.items.symbols
  let stop := rests.size - 1
  reader.read.map fun p =>
    let children := symbols.nodesOf p.info.labels none [] p.parts
    let kind :=
      match p.info.kind with
      | .symbol n => ((symbols.shownKind? n).map Prod.fst).getD ""
      | _ => "ERROR"
    .mk { kind, start := (children.head?.map fun n => n.start).getD stop, stop } children

/-- The grammar of C, made ready for reading. -/
def cEngine : Thunk Engine := Thunk.mk fun _ => C.rulebook.engine

/-- The grammar of C. -/
def cLanguage : Grammar := fun text =>
  match cEngine.get.tree? text with
  | some root => .tree root
  | none => .nothing

end DefectScan.Grammar
