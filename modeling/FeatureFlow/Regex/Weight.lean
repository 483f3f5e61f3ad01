import FeatureFlow.Regex.Node
import FeatureFlow.Unicode.Category

/-! The memory that an automaton over bytes takes for an expression. -/
namespace FeatureFlow.Regex

open Unicode

def bytesOf (n : Nat) : List Nat := (String.utf8EncodeChar (Char.ofNat n)).map (·.toNat)

/-- Where to part a range of characters so that both parts come nearer to ranges in each byte. -/
def splitPoint? (a b : Nat) : Option Nat :=
  let widths := [0x7F, 0x7FF, 0xFFFF].find? fun m => a ≤ m && m < b
  let blocks := [0x40, 0x1000, 0x40000].findSome? fun k =>
    if a / k = b / k then none
    else if a % k ≠ 0 then some (a / k * k + k - 1)
    else if b % k ≠ k - 1 then some (b / k * k - 1)
    else none
  widths <|> if b < 0x80 then none else blocks

/-- A range of characters as sequences of ranges of bytes. A range is parted less than sixteen
times. -/
def byteRanges : Nat → Nat → Nat → List (List (Nat × Nat))
  | 0, _, _ => []
  | fuel + 1, a, b =>
    match splitPoint? a b with
    | some m => byteRanges fuel a m ++ byteRanges fuel (m + 1) b
    | none => [(bytesOf a).zip (bytesOf b)]

def commonLength : List (Nat × Nat) → List (Nat × Nat) → Nat
  | r :: rs, s :: ss => if r = s then commonLength rs ss + 1 else 0
  | _, _ => 0

/-- States for sequences of bytes that share what they have in common at the front. -/
def sharedStates (seqs : List (List (Nat × Nat))) : Nat :=
  (([] :: seqs).zip seqs).foldl (fun n (before, seq) =>
    n + (seq.length - commonLength before seq)) 0

/-- A state takes 32 bytes, an arrow between states 4, an arrow for a range of bytes 8. -/
def setWeight (s : CharSet) : Nat :=
  match (s.diff Category.surrogate).ranges with
  | [] => 32
  | [(a, b)] => if a = b then 32 * (bytesOf a).length else wide [(a, b)]
  | rs => wide rs
where
  wide (rs : List (Nat × Nat)) : Nat :=
    if rs.all (·.2 < 128) then 64 + 8 * rs.length
    else
      let seqs := rs.flatMap fun (a, b) => byteRanges 16 a b
      64 + 4 * seqs.length + 32 * sharedStates seqs

/-- All matches are empty. -/
def Node.isBare : Node → Bool
  | empty | look _ => true
  | set _ => false
  | seq a b | alt a b => a.isBare && b.isBare
  | loop body _ most => body.isBare || most == some 0
  | group body => body.isBare

/-- Some match may be empty. -/
def Node.isNullable : Node → Bool
  | empty | look _ => true
  | set _ => false
  | seq a b => a.isNullable && b.isNullable
  | alt a b => a.isNullable || b.isNullable
  | loop body least _ => body.isNullable || least == 0
  | group body => body.isNullable

/-- The set of an expression that matches one character. -/
def Node.charSet? : Node → Option CharSet
  | set s => some s
  | alt a b => do return (← a.charSet?).union (← b.charSet?)
  | _ => none

/-- The weight of a repetition, given that of its body. -/
def loopWeight (w : Nat) (nullable : Bool) : Nat → Option Nat → Nat
  | 0, none => if nullable then w + 112 else w + 40
  | least, none => least * w + 40
  | 0, some 0 => 32
  | 0, some 1 => w + 72
  | 0, some most => 64 + most * (w + 40)
  | least, some most =>
    if least = most then least * w else least * w + 32 + (most - least) * (w + 40)

mutual

def Node.weight : Node → Nat
  | empty | look _ => 32
  | set s => setWeight s
  | seq a b => a.partWeight + b.partWeight
  | alt a b => match do return (← a.charSet?).union (← b.charSet?) with
    | some s => setWeight s
    | none => 64 + a.branchWeight + b.branchWeight
  | loop body least most =>
    if body.isBare then loopWeight body.weight true (min least 1) (some (min (most.getD 1) 1))
    else loopWeight body.weight body.isNullable least most
  | group body => body.weight + 64

/-- An empty part of a sequence weighs nothing. -/
def Node.partWeight : Node → Nat
  | empty => 0
  | r => r.weight

/-- Branches of a branch are branches. -/
def Node.branchWeight : Node → Nat
  | alt a b => a.branchWeight + b.branchWeight
  | r => r.weight + 4

end

end FeatureFlow.Regex
