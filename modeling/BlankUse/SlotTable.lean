/-!
The order in which a set shows its members. A set keeps them in a table of slots. The number of a
member chooses its slot, and where that is taken, further slots are tried in an order that the number
chooses too. The members are shown in the order of the slots, so small numbers come in rising order
and larger ones by their remainders.
-/

namespace BlankUse.SlotTable

/-- The slots for some members: eight for up to four, else the least power of two that is more than
twice their count. -/
def size (count : Nat) : Nat := if count ≤ 4 then 8 else Nat.pow 2 (Nat.log2 (2 * count) + 1)

def run (size slot : Nat) : List Nat :=
  if slot + 9 < size then (List.range 10).map fun step => slot + step else [slot]

def isFree {Member : Type} (table : Array (Option Member)) (slot : Nat) : Bool :=
  (table.getD slot none).isNone

/-- The first free slot from one on. `spread` is the part of the number that has not been used to
choose slots yet; when it is used up the steps reach every slot. -/
def freeSlot {Member : Type} (table : Array (Option Member)) : Nat → Nat → Nat → Nat
  | 0, _, slot => slot
  | fuel + 1, spread, slot =>
    match (run table.size slot).find? (isFree table) with
    | some slot => slot
    | none =>
      let spread := spread / 32
      freeSlot table fuel spread ((slot * 5 + 1 + spread) % table.size)

def place {Member : Type} (table : Array (Option Member)) (entry : Int × Member) :
    Array (Option Member) :=
  let word := (entry.1 % Int.pow 2 64).toNat
  table.setIfInBounds (freeSlot table (table.size + 13) word (word % table.size)) (some entry.2)

def order {Member : Type} (entries : List (Int × Member)) : List Member :=
  (entries.foldl place (Array.replicate (size entries.length) none)).toList.filterMap id

end BlankUse.SlotTable
