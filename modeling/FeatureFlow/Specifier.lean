import FeatureFlow.Text.Blank
import FeatureFlow.Text.Cut
import FeatureFlow.Value.Basic

/-! Specifiers select from a list. Their indices count from the end: 0 is the last item. Where a
definition has no result, a step would go outside the list or below zero; no selection makes one. -/
namespace FeatureFlow

inductive Specifier where
  | whole
  | first
  | last
  | index (k : UInt64)
  | range (a b : UInt64)
  | pick (ks : List UInt64)
  deriving Repr, DecidableEq

namespace Specifier

structure Malformed where
  text : String
  deriving Repr, DecidableEq

def Malformed.message (e : Malformed) : String := s!"invalid result specifier '{e.text}'"

def isWhole (s : Specifier) : Bool := s == whole

def index? (cs : List Char) : Option UInt64 := (Text.word64? cs).map UInt64.ofNat

/-- An index, two joined by a hyphen, or several separated by commas. -/
def ofIndices? (cs : List Char) : Option Specifier :=
  if cs.contains ',' then
    (cs.splitOn ',').mapM (fun part => index? (Text.trim part)) |>.map pick
  else match Text.cut ['-'] cs with
    | some (a, b) => do return range (← index? (Text.trim a)) (← index? (Text.trim b))
    | none => (index? cs).map index

/-- Nothing, `first`, `last`, or indices. -/
def parse? (text : String) : Option Specifier :=
  let cs := Text.trim text.toList
  let word := cs.map Char.toLower
  if word = [] then some whole
  else if word = "first".toList then some first
  else if word = "last".toList then some last
  else ofIndices? cs

def parse (text : String) : Except Malformed Specifier :=
  match parse? text with
  | some s => .ok s
  | none => .error ⟨text⟩

def render : Specifier → String
  | whole => ""
  | first => "first"
  | last => "last"
  | index k => toString k.toNat
  | range a b => s!"{a.toNat}-{b.toNat}"
  | pick ks => ",".intercalate (ks.map fun k => toString k.toNat)

/-- What is left of `m` without `n`; below zero nothing is. -/
def minus? (m n : Nat) : Option Nat := if n ≤ m then some (m - n) else none

/-- The position of the item with index `k` among `n`, if one has it. -/
def position? (n : Nat) (k : UInt64) : Option Nat := minus? n (k.toNat + 1)

/-- Where among `n` items those with an index from `low` to `high` begin and end; `high` may be
beyond the first. -/
def span? (n low high : Nat) : Option (Nat × Nat) := do
  let final ← minus? n 1
  return (← minus? final (min high final), (← minus? final low) + 1)

/-- The items from position `i` up to position `e`, if these are in the list. -/
def slice? (items : List Value) (i e : Nat) : Option (List Value) :=
  if i ≤ e ∧ e ≤ items.length then some ((items.take e).drop i) else none

/-- The item with index `k`, or null. -/
def fromEnd? (items : List Value) (k : UInt64) : Option Value :=
  match position? items.length k with
  | some i => items[i]?
  | none => some .null

/-- The items whose index lies between `a` and `b`, in the order of the list. -/
def between? (items : List Value) (a b : UInt64) : Option (List Value) :=
  let low := min a.toNat b.toNat
  let high := max a.toNat b.toNat
  if items.length ≤ low then some []
  else (span? items.length low high).bind fun span => slice? items span.1 span.2

def ofItems? (items : List Value) : Specifier → Option Value
  | whole => some (.list items)
  | first => some (items.head?.getD .null)
  | last => some (items.getLast?.getD .null)
  | index k => fromEnd? items k
  | range a b => (between? items a b).map .list
  | pick ks => (ks.mapM (fromEnd? items)).map .list

/-- What is selected; nothing is selected from a value that is no list. -/
def apply (s : Specifier) (v : Value) : Value :=
  if s.isWhole then v
  else match v with
    | .list items => (s.ofItems? items).getD .null
    | _ => .null

end Specifier

end FeatureFlow
