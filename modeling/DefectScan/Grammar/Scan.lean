import DefectScan.Grammar.Automaton

/-!
# Scanning tokens

The next token is looked for among those that may stand at a place. Blanks and line ends behind a
backslash are skipped before it, unless they begin a token themselves. If no token that may stand
there is found, any token is taken, and characters that begin no token at all are taken together.
-/

namespace DefectScan.Grammar

/-- How far a stretch of text reaches. -/
structure Extent where
  /-- Its bytes. -/
  bytes : Nat := 0
  /-- The line ends in it. -/
  lines : Nat := 0
  deriving DecidableEq, Repr, Inhabited

/-- One stretch after the other. -/
def Extent.add (a b : Extent) : Extent := ⟨a.bytes + b.bytes, a.lines + b.lines⟩

instance : Add Extent := ⟨Extent.add⟩

/-- How far a text reaches. -/
def Extent.ofText (s : List Char) : Extent :=
  s.foldl (fun e c => ⟨e.bytes + c.utf8Size, if c = '\n' then e.lines + 1 else e.lines⟩) {}

/-- A token at its place, or characters that belong to none. -/
structure Token where
  /-- The number of the token. -/
  symbol : Option Nat
  /-- The blanks before it. -/
  gap : Extent
  /-- Its own extent. -/
  size : Extent
  /-- Whether it is spelled like a name. -/
  isWord : Bool := false
  /-- The text after it. -/
  after : List Char
  deriving Inhabited

/-- The blanks between tokens: spaces, tabs, line ends and page feeds. -/
def isGapChar (c : Char) : Bool := c = ' ' || ('\t' ≤ c && c ≤ '\r')

/-- The blank at the beginning of a text, if there is one, and what follows it. A line end behind a
backslash is a blank. -/
def blank? : List Char → Option (Extent × List Char)
  | '\\' :: '\n' :: s => some (⟨2, 1⟩, s)
  | '\\' :: '\r' :: '\n' :: s => some (⟨3, 1⟩, s)
  | c :: s => if isGapChar c then some (Extent.ofText [c], s) else none
  | [] => none

/-- What follows a blank is shorter. -/
theorem length_lt_of_blank? {s r : List Char} {e : Extent} (h : blank? s = some (e, r)) :
    r.length < s.length := by
  unfold blank? at h
  split at h <;> simp_all
  all_goals omega

/-- How the tokens of a grammar are found. -/
structure Scanner where
  /-- The marks that are not spelled like names, with their numbers. -/
  marks : List (Nat × List Char)
  /-- The classes of tokens that are given by patterns, with their numbers. -/
  lexemes : List (Nat × Lexeme)
  /-- The marks and words that are spelled like names. -/
  words : Std.HashMap String Nat
  /-- The tokens that are spelled like names. -/
  wordSet : TokenSet
  /-- The comments. -/
  comment : Nat
  /-- The tokens that are looked for while searching for a place to go on. -/
  common : TokenSet

/-- The scanner of a grammar. -/
def Symbols.scanner (s : Symbols) (name : Pattern) : Scanner :=
  let numbered := s.terminals.toList.zipIdx
  let isSpelledLikeName (text : String) : Bool :=
    name.longest? text.toList == some text.length
  let words := numbered.flatMap fun (t, n) =>
    match t with
    | .mark text => if isSpelledLikeName text then [(text, n)] else []
    | .lexeme l => l.words.map fun w => (w, n)
    | .finish => []
  let setOf (numbers : List Nat) : TokenSet :=
    numbers.foldl (fun set n => set ||| TokenSet.single n) 0
  { marks := numbered.filterMap fun (t, n) =>
      match t with
      | .mark text => if isSpelledLikeName text then none else some (n, text.toList)
      | _ => none
    lexemes := numbered.filterMap fun (t, n) =>
      match t with
      | .lexeme l => if l.words.isEmpty then some (n, l) else none
      | _ => none
    words := Std.HashMap.ofList words
    wordSet := setOf (words.map Prod.snd)
    comment := s.terminalCount - 1
    common := setOf (numbered.filterMap fun (t, n) =>
      match t with
      | .mark _ => some n
      | .lexeme l => if l.reach = .anywhere then some n else none
      | .finish => none) }

/-- A token that fits at a place. -/
structure Fit where
  /-- Its number. -/
  symbol : Nat
  /-- Its rank. -/
  rank : Int
  /-- Its length. -/
  length : Nat
  deriving Repr, Inhabited

/-- Whether a token is to be preferred to one that was found before it. -/
def Fit.isBetter (a b : Fit) : Bool :=
  b.rank < a.rank || (a.rank = b.rank && b.length < a.length)

namespace Scanner

/-- The best token at the beginning of a text among the given ones. Marks come before classes of
tokens. -/
def best? (sc : Scanner) (allowed : TokenSet) (isAdjacent : Bool) (s : List Char) : Option Fit :=
  let choose (best : Option Fit) (fit : Fit) : Option Fit :=
    if best.all fit.isBetter then some fit else best
  let best := sc.marks.foldl
    (fun best (n, chars) =>
      if chars.isPrefixOf s && allowed.has n then choose best ⟨n, 0, chars.length⟩ else best)
    none
  sc.lexemes.foldl
    (fun best (n, l) =>
      if allowed.has n && (isAdjacent || l.reach ≠ .adjacent) then
        match l.pattern.longest? s with
        | some length => choose best ⟨n, l.rank, length⟩
        | none => best
      else best)
    best

/-- The first token behind blanks among the given ones, with the text it begins and the blanks
before it. -/
def seek? (sc : Scanner) (allowed : TokenSet) (isAdjacent : Bool) (gap : Extent) (s : List Char) :
    Option (Fit × Extent × List Char) :=
  match sc.best? allowed isAdjacent s with
  | some fit => some (fit, gap, s)
  | none =>
    match _h : blank? s with
    | some (blank, r) => seek? sc allowed false (gap + blank) r
    | none => none
  termination_by s.length
  decreasing_by exact length_lt_of_blank? _h

/-- The text behind the blanks at its beginning, and the blanks. -/
def skipBlanks (gap : Extent) (s : List Char) : Extent × List Char :=
  match _h : blank? s with
  | some (blank, r) => skipBlanks (gap + blank) r
  | none => (gap, s)
  termination_by s.length
  decreasing_by exact length_lt_of_blank? _h

/-- The characters at the beginning of a text, up to the next token or the end. -/
def unknownLength (sc : Scanner) : List Char → Nat
  | [] => 0
  | _ :: s =>
    match sc.seek? sc.common false {} s with
    | some _ => 1
    | none => if (skipBlanks {} s).2.isEmpty then 1 else unknownLength sc s + 1

/-- The next token of a text, where the given tokens may stand. Without them, any token may. -/
def next (sc : Scanner) (allowed : Option TokenSet) (s : List Char) : Token :=
  let make (fit : Fit) (gap : Extent) (t : List Char) : Token :=
    let chars := t.take fit.length
    let word :=
      if fit.symbol = Symbols.name then
        (sc.words.get? (String.ofList chars)).filter fun n => allowed.all (·.has n)
      else none
    { symbol := some (word.getD fit.symbol)
      gap
      size := Extent.ofText chars
      isWord := word.isSome
      after := t.drop fit.length }
  let asked := allowed.bind fun set =>
    let set := set ||| TokenSet.single sc.comment
    let set := if set &&& sc.wordSet = 0 then set else set ||| TokenSet.single Symbols.name
    sc.seek? set true {} s
  match asked <|> sc.seek? sc.common false {} s with
  | some (fit, gap, t) => make fit gap t
  | none =>
    match skipBlanks {} s with
    | (gap, []) => { symbol := some Symbols.finish, gap, size := {}, after := [] }
    | (gap, t) =>
      let length := sc.unknownLength t
      { symbol := none, gap, size := Extent.ofText (t.take length), after := t.drop length }

end Scanner

end DefectScan.Grammar
