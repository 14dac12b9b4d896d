import DefectScan.Grammar.Production

/-!
# Items

An item is a production read up to some place. Two places are the same item when what lies behind
them differs only in its symbols: from there on they are read alike. Items are numbered, and the
facts that reading needs are laid out by number. Sets of tokens are written as numbers, one bit
for each token.
-/

namespace DefectScan.Grammar

/-- A set of tokens: bit `i` is set if token `i` belongs to it. -/
abbrev TokenSet := Nat

/-- Whether a token belongs to a set. -/
def TokenSet.has (set : TokenSet) (token : Nat) : Bool := Nat.testBit set token

/-- The set of one token. -/
def TokenSet.single (token : Nat) : TokenSet := 1 <<< token

/-- The tokens of a set, out of the given number. -/
def TokenSet.toList (set : TokenSet) (count : Nat) : List Nat :=
  (List.range count).filter set.has

/-- The tokens of the first set that do not belong to the second. -/
def TokenSet.without (set other : TokenSet) : TokenSet := set ^^^ (set &&& other)

/-- A production read up to some place. -/
structure Item where
  /-- The symbol that is put together. -/
  head : Nat
  /-- What the production counts when two readings compete. -/
  weight : Int
  /-- The number of its parts. -/
  size : Nat
  /-- The level at which it binds up to here. -/
  level : Int := 0
  /-- The side to which it groups. -/
  side : Option Side := none
  /-- The labels of the parts behind, the nearest first. -/
  behind : List Label := []
  /-- The parts ahead. -/
  ahead : List Step
  deriving DecidableEq, Hashable

/-- The item at the beginning of a production. -/
def Item.begin (p : Production) : Item :=
  { head := p.head, weight := p.weight, size := p.steps.length, ahead := p.steps }

/-- An item and those after it, up to the end of the production. -/
def Item.onward (item : Item) : List Item :=
  onwardFrom item item.ahead
where
  /-- An item whose parts ahead are the given ones, and those after it. -/
  onwardFrom (item : Item) : List Step → List Item
    | [] => [{ item with ahead := [] }]
    | s :: rest =>
      { item with ahead := s :: rest } ::
        onwardFrom { item with level := s.level, side := s.side, behind := s.label :: item.behind }
          rest

/-- The facts about a numbered item. -/
structure ItemFacts where
  /-- The symbol that is put together. -/
  head : Nat := 0
  /-- The number of parts of the production. -/
  size : Nat := 0
  /-- What the production counts when two readings compete. -/
  weight : Int := 0
  /-- The level at which it binds up to here. -/
  level : Int := 0
  /-- The side to which it groups. -/
  side : Option Side := none
  /-- The labels of the parts behind, in order. -/
  labels : List Label := []
  /-- The symbol ahead, and the number of the item behind it. -/
  next? : Option (Nat × Nat) := none
  /-- The tokens that the part after the one ahead may begin with, if there is such a part. -/
  follow? : Option TokenSet := none
  deriving Inhabited

/-- Whether something has been read of an item. -/
def ItemFacts.isBegun (f : ItemFacts) : Bool := !f.labels.isEmpty

/-- What a symbol may begin with: another symbol, the tokens that may follow it there, and whether
whatever follows the first symbol may follow it too. -/
structure Corner where
  /-- The symbol at the beginning. -/
  symbol : Nat
  /-- Tokens that may follow it. -/
  follow : TokenSet
  /-- Whether what follows the whole may follow it. -/
  isOpen : Bool
  deriving DecidableEq, Repr, Inhabited

/-- The items of a grammar and what there is to know about them. -/
structure Items where
  /-- The symbols. -/
  symbols : Symbols
  /-- The facts, by number. -/
  facts : Array ItemFacts
  /-- The numbers of the items that begin the productions of a symbol. -/
  beginnings : Array (List Nat)
  /-- The tokens that a symbol may begin with. -/
  firsts : Array TokenSet
  /-- The symbols that a symbol may begin with. -/
  corners : Array (List Corner)
  /-- The number of the rule for a whole text. -/
  start : Nat
  /-- The item that makes a whole text of nothing. -/
  emptyText : Nat

namespace Items

/-- The facts about an item. -/
def fact (items : Items) (i : Nat) : ItemFacts := items.facts.getD i {}

/-- The tokens that a symbol may begin with. -/
def first (items : Items) (symbol : Nat) : TokenSet := items.firsts.getD symbol 0

end Items

/-- Repeat a step until nothing changes, at most the given number of times. -/
def untilStable {α : Type} [BEq α] (step : α → α) : Nat → α → α
  | 0, a => a
  | n + 1, a =>
    let b := step a
    if b == a then a else untilStable step n b

/-- The tokens that each symbol may begin with. -/
def firstSets (symbols : Symbols) (productions : List Production) : Array TokenSet :=
  let count := symbols.whole + 1
  let alone := (Array.range count).map fun i =>
    if i < symbols.terminalCount then TokenSet.single i else 0
  let grow (sets : Array TokenSet) : Array TokenSet :=
    productions.foldl
      (fun sets p =>
        match p.steps with
        | s :: _ => sets.modify p.head (· ||| sets.getD s.symbol 0)
        | [] => sets)
      sets
  untilStable grow count alone

/-- The symbols that each symbol may begin with, itself included. -/
def cornerLists (symbols : Symbols) (productions : List Production) (firsts : Array TokenSet) :
    Array (List Corner) :=
  let count := symbols.whole + 1
  -- For each symbol the symbols that its productions begin with, and what follows them there.
  let near : Array (List (Nat × Option TokenSet)) := productions.foldl
    (fun near p =>
      match p.steps with
      | s :: rest =>
        if s.symbol < symbols.terminalCount then near
        else
          let entry := (s.symbol, rest.head?.map fun t => firsts.getD t.symbol 0)
          near.modify p.head fun found => if found.contains entry then found else entry :: found
      | [] => near)
    (Array.replicate count [])
  let join (reached : Array (Option (TokenSet × Bool))) (symbol : Nat) (follow : TokenSet)
      (isOpen : Bool) : Array (Option (TokenSet × Bool)) :=
    reached.modify symbol fun
      | some (f, o) => some (f ||| follow, o || isOpen)
      | none => some (follow, isOpen)
  let grow (reached : Array (Option (TokenSet × Bool))) : Array (Option (TokenSet × Bool)) :=
    (List.range count).foldl
      (fun reached i =>
        match reached.getD i none with
        | none => reached
        | some (follow, isOpen) =>
          (near.getD i []).foldl
            (fun reached (symbol, after) =>
              match after with
              | some follow => join reached symbol follow false
              | none => join reached symbol follow isOpen)
            reached)
      reached
  (Array.range count).map fun i =>
    if i < symbols.terminalCount then []
    else
      let reached := untilStable grow count
        ((Array.replicate count none).modify i fun _ => some (0, true))
      (List.range count).filterMap fun symbol =>
        (reached.getD symbol none).map fun (follow, isOpen) => ⟨symbol, follow, isOpen⟩

/-- The items of a grammar. -/
def Rulebook.items (book : Rulebook) : Items :=
  let symbols := book.symbols
  let start := symbols.named.getD book.start 0
  let productions := symbols.productions start
  let firsts := firstSets symbols productions
  let all := productions.flatMap fun p => (Item.begin p).onward
  let (numbers, distinct) := all.foldl
    (fun (numbers, distinct) item =>
      if (numbers : Std.HashMap Item Nat).contains item then (numbers, distinct)
      else (numbers.insert item distinct.size, distinct.push item))
    ((∅ : Std.HashMap Item Nat), (#[] : Array Item))
  let facts := distinct.map fun item =>
    { head := item.head
      size := item.size
      weight := item.weight
      level := item.level
      side := item.side
      labels := item.behind.reverse
      next? :=
        match item.ahead, item.onward with
        | s :: _, _ :: after :: _ => some (s.symbol, numbers.getD after 0)
        | _, _ => none
      follow? := item.ahead.tail.head?.map fun s => firsts.getD s.symbol 0 }
  let beginnings := productions.foldl
    (fun (lists : Array (List Nat)) p =>
      lists.modify p.head fun found => found ++ [numbers.getD (Item.begin p) 0])
    (Array.replicate (symbols.whole + 1) [])
  { symbols, beginnings, firsts, start
    facts := facts.push { head := start }
    emptyText := facts.size
    corners := cornerLists symbols productions firsts }

end DefectScan.Grammar
