import FeatureFlow.Unicode.Fold

/-! Sets of characters as ascending ranges of code points that neither overlap nor touch. -/
namespace FeatureFlow.Unicode

structure CharSet where
  ranges : List (Nat × Nat)
  deriving Repr, DecidableEq

namespace CharSet

/-- Joins ranges that overlap or touch, given in the order of their starts. -/
def merge : List (Nat × Nat) → List (Nat × Nat)
  | r :: s :: rest =>
    if s.1 ≤ r.2 + 1 then merge ((r.1, max r.2 s.2) :: rest) else r :: merge (s :: rest)
  | rs => rs
termination_by rs => rs.length

def ofRanges (rs : List (Nat × Nat)) : CharSet := ⟨merge (rs.mergeSort fun r s => r.1 ≤ s.1)⟩

def empty : CharSet := ⟨[]⟩

def single (c : Char) : CharSet := ⟨[(c.toNat, c.toNat)]⟩

def any : CharSet := ⟨[(0, 0x10FFFF)]⟩

def holds (s : CharSet) (n : Nat) : Bool := s.ranges.any fun r => r.1 ≤ n && n ≤ r.2

def contains (s : CharSet) (c : Char) : Bool := s.holds c.toNat

def gaps (start : Nat) : List (Nat × Nat) → List (Nat × Nat)
  | [] => if start ≤ 0x10FFFF then [(start, 0x10FFFF)] else []
  | (a, b) :: rs => if start < a then (start, a - 1) :: gaps (b + 1) rs else gaps (b + 1) rs

def complement (s : CharSet) : CharSet := ⟨gaps 0 s.ranges⟩

def union (s t : CharSet) : CharSet := ofRanges (s.ranges ++ t.ranges)

def unions (ss : List CharSet) : CharSet := ofRanges (ss.flatMap (·.ranges))

def inter (s t : CharSet) : CharSet := (s.complement.union t.complement).complement

def diff (s t : CharSet) : CharSet := s.inter t.complement

def symmDiff (s t : CharSet) : CharSet := (s.diff t).union (t.diff s)

/-- Every member is below 128. -/
def isAscii (s : CharSet) : Bool := s.ranges.all (·.2 < 128)

/-- A code point and its folded form, for every one in a run. -/
def foldPairs (r : Text.CaseRun) : List (Nat × Nat) :=
  (List.range ((r.last - r.first) / r.step + 1)).map fun i =>
    (r.first + i * r.step, ((r.first + i * r.step : Nat) + r.shift).toNat)

/-- Adds the other member of each pair that has one member in the set. -/
def addPartners (pairs : List (Nat × Nat)) (s : CharSet) : CharSet :=
  let partners := pairs.flatMap fun (a, b) =>
    match s.holds a, s.holds b with
    | true, false => [(b, b)]
    | false, true => [(a, a)]
    | _, _ => []
  if partners.isEmpty then s else ofRanges (s.ranges ++ partners)

/-- Adds all characters with the same folded form as a member: first the forms, then what folds to
them. -/
def foldCase (s : CharSet) : CharSet :=
  let pairs := foldRuns.flatMap foldPairs
  addPartners pairs (addPartners pairs s)

/-- Adds the other case of ASCII letters. -/
def foldAscii (s : CharSet) : CharSet :=
  addPartners ((List.range 26).map fun i => (0x41 + i, 0x61 + i)) s

end CharSet

/-- Sets with the names that they go by, in lower case and without blanks or hyphens. -/
abbrev NameTable := List (List String × CharSet)

def NameTable.find? (table : NameTable) (name : String) : Option CharSet :=
  (List.find? (·.1.contains name) table).map (·.2)

end FeatureFlow.Unicode
