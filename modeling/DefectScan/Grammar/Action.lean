import DefectScan.Grammar.State

/-!
# Actions

In a state the next token can complete items, be read on, or both. Where completing and reading on
compete, the levels at which the items bind decide, and then the side to which they group. What
they leave open stays open: the readings go on side by side.
-/

namespace DefectScan.Grammar

/-- What a token does in a state. -/
structure Action where
  /-- The items that it completes. -/
  completes : List Nat := []
  /-- Whether it is read on. -/
  isRead : Bool := false
  /-- Whether reading on only goes on with a repetition that is completed anyway. -/
  isRepeat : Bool := false
  deriving DecidableEq, Repr, Inhabited

/-- What the tokens do in a state: sets of tokens with the same action. -/
abbrev Row := List (TokenSet × Action)

namespace Row

/-- Add tokens with an action. -/
def add (tokens : TokenSet) (action : Action) : Row → Row
  | [] => [(tokens, action)]
  | (t, a) :: rest =>
    if a = action then (t ||| tokens, a) :: rest else (t, a) :: add tokens action rest

/-- The action of a token. -/
def action? (row : Row) (token : Nat) : Option Action :=
  (row.find? fun (tokens, _) => tokens.has token).map Prod.snd

/-- The tokens that have an action. -/
def tokens (row : Row) : TokenSet := row.foldl (fun set (t, _) => set ||| t) 0

/-- Whether two rows have different actions for some token. -/
def disagrees (row other : Row) : Bool :=
  row.any fun (t, a) => other.any fun (u, b) => t &&& u != 0 && a ≠ b

/-- The actions of a row, and those of another row for the tokens that the first has none for. -/
def union (row other : Row) : Row :=
  let known := row.tokens
  other.foldl
    (fun row (tokens, action) =>
      let new := TokenSet.without tokens known
      if new = 0 then row else row.add new action)
    row

end Row

namespace Items

/-- Whether an item is completed before another one when both can be: shorter items come first,
then those of earlier rules, then those that count less. -/
def completesBefore (items : Items) (i j : Nat) : Bool :=
  let a := items.fact i
  let b := items.fact j
  let order := (compare a.size b.size).then <| (compare a.head b.head).then <|
    (compare a.weight b.weight).then <| compare i j
  order == .lt

/-- Of the items that a token can complete, those at the highest level. -/
def tightest (items : Items) (completes : List Nat) : List Nat :=
  let highest := completes.foldl (fun level i =>
    match level with
    | some l => some (max l (items.fact i).level)
    | none => some (items.fact i).level) (none : Option Int)
  completes.filter fun i => some (items.fact i).level == highest

/-- The action of a token that can complete items of a kernel and can also be read on. -/
def decide (items : Items) (kernel : Kernel) (token : Nat) (completes : List Nat) : Action :=
  let pending := kernel.filter fun (i, _) =>
    let fact := items.fact i
    fact.isBegun && fact.next?.any fun (symbol, _) => (items.first symbol).has token
  let heads := (pending.map Prod.fst ++ kernel.filterMap fun (i, follow) =>
    if (items.fact i).next?.isNone && follow.has token then some i else none).map fun i =>
      (items.fact i).head
  let isRepeat := heads.head?.any fun h => items.symbols.isRepeat h && heads.all (· == h)
  if isRepeat then { completes, isRead := true, isRepeat := true }
  else
    let level := (completes.head?.map fun i => (items.fact i).level).getD 0
    let levels := pending.map fun (i, _) => (items.fact i).level
    let isMore := levels.any (level < ·)
    let isLess := levels.any (· < level)
    let sides := completes.map fun i => (items.fact i).side
    if isMore && !isLess then { isRead := true }
    else if isLess && !isMore then { completes }
    else if !isMore && !isLess && sides.all (· == some .left) then { completes }
    else if !isMore && !isLess && sides.all (· == some .right) then { isRead := true }
    else { completes, isRead := true }

/-- The actions in a state from which the given tokens lead on. -/
def row (items : Items) (kernel : Kernel) (read : TokenSet) : Row :=
  let complete := (kernel.filter fun (i, _) => (items.fact i).next?.isNone).mergeSort
    fun (i, _) (j, _) => items.completesBefore i j
  let ends := complete.foldl (fun set (_, follow) => set ||| follow) 0
  let onlyRead := TokenSet.without read ends
  let row : Row := if onlyRead = 0 then [] else [(onlyRead, { isRead := true })]
  let contested : TokenSet :=
    match complete with
    | [(_, follow)] => follow &&& read
    | _ => ends
  let row : Row :=
    match complete with
    | [(i, follow)] =>
      let free := TokenSet.without follow read
      if free = 0 then row else row.add free { completes := [i] }
    | _ => row
  (contested.toList items.symbols.terminalCount).foldl
    (fun row token =>
      let completes := items.tightest
        (complete.filterMap fun (i, follow) => if follow.has token then some i else none)
      let action :=
        if read.has token then items.decide kernel token completes else { completes }
      row.add (TokenSet.single token) action)
    row

end Items

end DefectScan.Grammar
