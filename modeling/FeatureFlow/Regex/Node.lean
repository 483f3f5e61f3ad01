import FeatureFlow.Unicode.CharSet

/-! Regular expressions and their matching. -/
namespace FeatureFlow.Regex

open Unicode

/-- Conditions on what stands before and after a position. -/
inductive Assertion where
  | startOfText
  | endOfText
  | startOfLine (crlf : Bool)
  | endOfLine (crlf : Bool)
  | boundary (letters : CharSet)
  | noBoundary (letters : CharSet)
  | startOfWord (letters : CharSet)
  | endOfWord (letters : CharSet)
  | noWordBefore (letters : CharSet)
  | noWordAfter (letters : CharSet)

inductive Node where
  | empty
  | set (s : CharSet)
  | look (a : Assertion)
  | seq (a b : Node)
  | alt (a b : Node)
  | loop (body : Node) (least : Nat) (most : Option Nat)
  /-- A part in parentheses that keep what it matches. -/
  | group (body : Node)

def Assertion.holds (before after : Option Char) : Assertion → Bool
  | startOfText => before.isNone
  | endOfText => after.isNone
  | startOfLine false => before.all (· = '\n')
  | endOfLine false => after.all (· = '\n')
  | startOfLine true => before.all fun c => c = '\n' || (c = '\r' && after != some '\n')
  | endOfLine true => after.all fun c => c = '\r' || (c = '\n' && before != some '\r')
  | boundary s => before.any s.contains != after.any s.contains
  | noBoundary s => before.any s.contains == after.any s.contains
  | startOfWord s => !before.any s.contains && after.any s.contains
  | endOfWord s => before.any s.contains && !after.any s.contains
  | noWordBefore s => !before.any s.contains
  | noWordAfter s => !after.any s.contains

/-- One mark for each position of a text, before its first character to after its last. -/
abbrev Marks := List Bool

/-- The characters before and after each position. -/
def sides (text : List Char) : List (Option Char × Option Char) :=
  (none :: text.map some).zip (text.map some ++ [none])

def joined (m n : Marks) : Marks := m.zipWith (· || ·) n

/-- So many rounds, fewer when a round changes nothing. -/
def rounds (f : Marks → Marks) : Nat → Marks → Marks
  | 0, m => m
  | n + 1, m =>
    let next := f m
    if next == m then m else rounds f n next

/-- Up to so many more rounds, until nothing is new. -/
def moreRounds (f : Marks → Marks) : Nat → Marks → Marks
  | 0, m => m
  | n + 1, m =>
    let next := joined m (f m)
    if next == m then m else moreRounds f n next

/-- The positions where a match can end that starts at a marked position. -/
def Node.ends (text : List Char) : Node → Marks → Marks
  | empty, m => m
  | set s, m => false :: m.zipWith (fun here c => here && s.contains c) text
  | look a, m => m.zipWith (fun here (before, after) => here && a.holds before after) (sides text)
  | seq a b, m => b.ends text (a.ends text m)
  | alt a b, m => joined (a.ends text m) (b.ends text m)
  | loop body least most, m =>
    let start := rounds (body.ends text) least m
    moreRounds (body.ends text) ((most.getD (least + text.length + 1)) - least) start
  | group body, m => body.ends text m

/-- Some part of the text matches. -/
def Node.isMatch (r : Node) (text : List Char) : Bool :=
  (r.ends text (List.replicate (text.length + 1) true)).any id

end FeatureFlow.Regex
