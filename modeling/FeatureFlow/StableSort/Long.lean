import FeatureFlow.StableSort.Short

/-! Stable sorting of lists of any length. A long list is cut into stretches, those that are in
order already and others, which are merged two by two. Stretches that are not in order may stay so
until they are sorted as a whole, by parting them at pivots. -/
namespace FeatureFlow.StableSort

variable {α : Type} (less : α → α → Bool)

/-- The longest list that is sorted as a short one. -/
def shortest : Nat := 32

/-- Merges two sorted lists, of equal items those of the first list first. The merge begins where
the shorter list is. -/
def join (xs ys : List α) : List α :=
  if xs.length ≤ ys.length then xs.merge ys fun x y => !less y x
  else (ys.reverse.merge xs.reverse fun y x => !less y x).reverse

/-- Neighbouring items of a list, perhaps sorted. -/
structure Stretch (α : Type) where
  items : List α
  sorted : Bool

/-- How many items, from `v` on, follow one another as `next` says. -/
def chain (next : α → α → Bool) (v : α) : List α → Nat
  | [] => 1
  | w :: items => if next v w then chain next w items + 1 else 1

/-- The items at the front that never fall, or that fall at every step; these are turned around. -/
def ordered (v : α) (items : List α) : List α :=
  match items with
  | [] => [v]
  | w :: _ =>
    let n := chain (fun x y => less y x == less w v) v items
    if less w v then ((v :: items).take n).reverse else (v :: items).take n

/-- Cuts a list into stretches. One that is in order has at least `least` items; any other is made
of so many items at most. -/
def cut (least most : Nat) (prepare : List α → Option (Stretch α)) :
    List α → Option (List (Stretch α))
  | [] => some []
  | v :: items => do
    let found := ordered less v items
    if least ≤ found.length then
      return ⟨found, true⟩ :: (← cut least most prepare (items.drop (found.length - 1)))
    else
      let first ← prepare (v :: items.take (most - 1))
      return first :: (← cut least most prepare (items.drop (most - 1)))
termination_by items => items.length
decreasing_by all_goals exact Nat.lt_succ_of_le (List.drop_sublist _ items).length_le

/-- How deep in the tree of merges the one of two neighbours is, which begin, meet and end at these
places. The tree is that of the whole list cut in halves again and again. -/
def depth (length first middle last : Nat) : Nat :=
  let scale := (4611686018427387904 + length - 1) / length
  match (scale * (first + middle)) ^^^ (scale * (middle + last)) with
  | 0 => 64
  | n => 63 - n.log2

variable (merge : Stretch α → Stretch α → Option (Stretch α))

/-- Merges a stretch with those before it that are to be merged at this depth or deeper. -/
def collapse (depth : Nat) :
    List (Stretch α × Nat) → Stretch α → Option (List (Stretch α × Nat) × Stretch α)
  | [], s => some ([], s)
  | (before, d) :: stack, s =>
    if depth ≤ d then do collapse depth stack (← merge before s)
    else some ((before, d) :: stack, s)

/-- Merges all stretches of a list of that length. Those before `s`, which ends at that place, wait
on a stack, each with the depth of its merge with the next. -/
def mergeAll (length : Nat) (place : Nat) (stack : List (Stretch α × Nat)) (s : Stretch α) :
    List (Stretch α) → Option (Stretch α)
  | [] => do return (← collapse merge 0 stack s).2
  | next :: rest => do
    let last := place + next.items.length
    let d := depth length (place - s.items.length) place last
    let (stack, s) ← collapse merge d stack s
    mergeAll length last ((s, d) :: stack) next rest

/-- The fewest items that count as a stretch which is in order. -/
def least (length : Nat) : Nat :=
  if length ≤ 4096 then min (length - length / 2) 64
  else
    let shift := (1 + length.log2) / 2
    (1 <<< shift + length >>> shift) / 2

/-- Cuts a list into stretches and merges these. -/
def byStretches (most : Nat) (prepare : List α → Option (Stretch α)) (items : List α) :
    Option (Stretch α) := do
  match ← cut less (least items.length) most prepare items with
  | [] => return ⟨[], true⟩
  | first :: rest => mergeAll merge items.length first.items.length [] first rest

/-- Every stretch is sorted before it is merged. -/
def eager (items : List α) : Option (List α) := do
  let prepare (items : List α) : Option (Stretch α) := do return ⟨← short less items, true⟩
  let merge (s t : Stretch α) : Option (Stretch α) := some ⟨join less s.items t.items, true⟩
  return (← byStretches less merge shortest prepare items).items

def median (items : List α) (a b c : Nat) : Nat :=
  let lessAt (i j : Nat) : Bool :=
    match items[i]?, items[j]? with
    | some x, some y => less x y
    | _, _ => false
  if lessAt a b == lessAt a c then
    if lessAt b c != lessAt a b then c else b
  else a

/-- Where the pivot is among `n` items from `first` on: a median of three, each of them found in
the same way among an eighth of the items. -/
def pivot (items : List α) (first n : Nat) : Nat :=
  if n < 8 then first
  else
    median less items (pivot items first (n / 8)) (pivot items (first + 4 * (n / 8)) (n / 8))
      (pivot items (first + 7 * (n / 8)) (n / 8))
termination_by n

/-- Parts a list at a pivot, and both parts in the same way. No item is less than `floor`. Where
that is equal to the pivot, or no item is less than the pivot, the first part are the items equal to
it. After `limit` steps the list is sorted by stretches. -/
def quick (limit : Nat) (floor : Option α) (items : List α) : Option (List α) :=
  if items.length ≤ shortest then short less items
  else match limit with
    | 0 => eager less items
    | limit + 1 =>
      let place := pivot less items 0 items.length
      match items.drop place with
      | [] => some items
      | p :: after =>
        let before := items.take place
        let low := (before ++ after).filter (less · p)
        if floor.any (fun x => !less x p) || low.isEmpty then do
          let high ← quick limit none ((before ++ after).filter (less p ·))
          return before.filter (fun x => !less p x) ++ p ::
            after.filter (fun x => !less p x) ++ high
        else do
          let high ← quick limit (some p)
            (before.filter (fun x => !less x p) ++ p :: after.filter (fun x => !less x p))
          return (← quick limit floor low) ++ high

def whole (items : List α) : Option (List α) :=
  quick less (2 * items.length.log2) none items

/-- The items of a stretch in order. -/
def Stretch.toSorted (s : Stretch α) : Option (List α) :=
  if s.sorted then some s.items else whole less s.items

/-- Stretches are merged when one of them is sorted, or when together they have more than `room`;
others stay as they are for now. -/
def lazily (room : Nat) (s t : Stretch α) : Option (Stretch α) :=
  if s.sorted || t.sorted || room < s.items.length + t.items.length then do
    return ⟨join less (← s.toSorted less) (← t.toSorted less), true⟩
  else some ⟨s.items ++ t.items, false⟩

/-- The most items that are sorted as a whole, at least half of the list. -/
def room (length : Nat) : Nat := max (length - length / 2) (min length 250000)

/-- Sorts a list. There is no result if the comparisons are found to contradict one another, which
they may do only in a list of more than twenty items. -/
def sort (items : List α) : Option (List α) :=
  if items.length ≤ 20 then some (insertAll less [] items)
  else if items.length ≤ 2 * shortest then eager less items
  else do
    let prepare (items : List α) : Option (Stretch α) := some ⟨items, false⟩
    let merge := lazily less (room items.length)
    (← byStretches less merge (least items.length) prepare items).toSorted less

end FeatureFlow.StableSort
