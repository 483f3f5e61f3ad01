/-! Stable sorting of short lists. The comparison need not be an order. Where two comparisons
contradict each other the result is some permutation of the list, or there is none. -/
namespace FeatureFlow.StableSort

variable {α : Type} (less : α → α → Bool)

/-- Puts an item into its place among those `kept` with the last one first. -/
def settle (v : α) : List α → List α
  | [] => [v]
  | w :: kept => if less v w then w :: settle v kept else v :: w :: kept

/-- Each item in turn moves forward past the greater ones before it, so equal and incomparable
items keep their order. -/
def insertAll (kept items : List α) : List α :=
  (items.foldl (fun kept v => settle less v kept) kept.reverse).reverse

def pair (x y : α) : α × α := if less y x then (y, x) else (x, y)

/-- Four items in order: two pairs, then the least and the greatest, then the two between. -/
def four (w x y z : α) : List α :=
  let (a, b) := pair less w x
  let (c, d) := pair less y z
  let between (x y : α) : List α := [(pair less x y).1, (pair less x y).2]
  match less c a, less d b with
  | false, false => a :: between b c ++ [d]
  | false, true => a :: between c d ++ [b]
  | true, false => c :: between a b ++ [d]
  | true, true => c :: between a d ++ [b]

/-- Sorts one half of a list. Where both halves have four items these are put in order first. -/
def half (fours : Bool) (items : List α) : List α :=
  match fours, items with
  | true, w :: x :: y :: z :: rest => insertAll less (four less w x y z) rest
  | _, items => insertAll less [] items

/-- The first items of two lists merged, so many of them, and what is left of both. -/
def front : Nat → List α → List α → List α × List α × List α
  | n + 1, x :: xs, y :: ys =>
    if less y x then
      let (taken, left) := front n (x :: xs) ys
      (y :: taken, left)
    else
      let (taken, left) := front n xs (y :: ys)
      (x :: taken, left)
  | _, xs, ys => ([], xs, ys)

/-- The last items of two lists merged. Both lists are given, and all is returned, with the last
item first. -/
def back : Nat → List α → List α → List α × List α × List α
  | n + 1, x :: xs, y :: ys =>
    if less y x then
      let (taken, left) := back n xs (y :: ys)
      (x :: taken, left)
    else
      let (taken, left) := back n (x :: xs) ys
      (y :: taken, left)
  | _, xs, ys => ([], xs, ys)

/-- Merges two halves from both ends, each of which takes as many items as the first half has. With
an order at most one item stays between them; there is no result if the ends overlap. -/
def meet (xs ys : List α) : Option (List α) :=
  let (low, xs₁, ys₁) := front less xs.length xs ys
  let (high, xs₂, ys₂) := back less xs.length xs.reverse ys.reverse
  if xs.length ≤ xs₁.length + xs₂.length ∧ ys.length ≤ ys₁.length + ys₂.length then
    some (low ++ xs₁.take (xs₁.length + xs₂.length - xs.length) ++
      ys₁.take (ys₁.length + ys₂.length - ys.length) ++ high.reverse)
  else none

/-- Sorts both halves of a list and merges them. -/
def short (items : List α) : Option (List α) :=
  let n := items.length / 2
  let fours := decide (8 ≤ items.length)
  meet less (half less fours (items.take n)) (half less fours (items.drop n))

end FeatureFlow.StableSort
