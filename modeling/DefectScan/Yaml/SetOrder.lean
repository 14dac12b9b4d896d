import DefectScan.Yaml.Value

/-!
# The order of sets

A set of numbers is listed by slots, and not in the order in which its members were given. There
are at least twice as many slots as members, a power of two of them. A number goes to the slot of
its residue; if that one is taken, to one of the next few, and if they are taken too, to a slot far
away. Members that are no numbers have no order of their own: a set with such a member keeps the
order in which they were given.
-/

namespace DefectScan.Yaml.SetOrder

/-- The prime that residues are taken by. -/
def prime : Nat := Nat.pow 2 61 - 1

/-- The residue of an infinite number. -/
def infiniteResidue : Nat := 314159

/-- The residue of a number, none for other values. Dividing by two turns the residue around, since
two to the sixty-first is one. -/
def residue? (v : Value) : Option Int :=
  let signed (isNegative : Bool) (n : Nat) : Int :=
    let n : Int := (n % prime : Nat)
    if isNegative then (if n = 1 then -2 else -n) else n
  match v.integer?, v with
  | some n, _ => some (signed (n < 0) n.natAbs)
  | none, .real (.finite isNegative m e) =>
    some (signed isNegative (m * Nat.pow 2 (e % 61).toNat))
  | none, .real (.infinite isNegative) => some (signed isNegative infiniteResidue)
  | _, _ => none

/-- The least power of two above a number, starting from some power of two. -/
def powerAbove (n : Nat) : Nat → Nat → Nat
  | 0, size => size
  | bound + 1, size => if size ≤ n then powerAbove n bound (2 * size) else size

/-- The number of slots for some members. -/
def slotCount (members : Nat) : Nat := if members < 5 then 8 else powerAbove (2 * members) members 8

/-- How many slots after a taken one are tried. -/
def nearSlots : Nat := 9

/-- A free slot, looked for from the given one on. -/
def freeSlot (slots : Array (Option Value)) : Nat → (slot turn : Nat) → Nat
  | 0, slot, _ => slot
  | bound + 1, slot, turn =>
    let near := if slot + nearSlots < slots.size then nearSlots else 0
    match (List.range (near + 1)).find? fun k => (slots.getD (slot + k) none).isNone with
    | some k => slot + k
    | none =>
      let turn := turn / 32
      freeSlot slots bound ((slot * 5 + 1 + turn) % slots.size) turn

/-- The members of a set in the order in which they are listed. -/
def listed (items : List Value) : List Value :=
  match items.mapM fun v => (residue? v).map fun r => (v, (r % Int.pow 2 64).toNat) with
  | none => items
  | some members =>
    let slots := members.foldl
      (fun slots (v, r) =>
        let slot := freeSlot slots (slots.size + 64) (r % slots.size) r
        slots.modify slot fun _ => some v)
      (Array.replicate (slotCount members.length) none)
    slots.toList.filterMap id

end DefectScan.Yaml.SetOrder
