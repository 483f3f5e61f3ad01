import FeatureFlow.Text.CaseTable
import FeatureFlow.Unicode.Derived

/-! Upper and lower case of text, by the full mappings of Unicode; also the ASCII forms. -/
namespace FeatureFlow.Text

def CaseRun.image? (r : CaseRun) (n : Nat) : Option Nat :=
  if r.first ≤ n ∧ n ≤ r.last ∧ (n - r.first) % r.step = 0 then some (n + r.shift).toNat else none

def mapCase (long : List (Nat × List Nat)) (runs : List CaseRun) (c : Char) : List Char :=
  match long.lookup c.toNat with
  | some ns => ns.map Char.ofNat
  | none => match runs.findSome? (·.image? c.toNat) with
    | some n => [Char.ofNat n]
    | none => [c]

def lowerChar : Char → List Char := mapCase lowerLong lowerRuns

def upperChar : Char → List Char := mapCase upperLong upperRuns

/-- Past the case-ignorable characters stands a cased letter. -/
def facesCased (cs : List Char) : Bool :=
  (cs.dropWhile Unicode.Derived.caseIgnorable.contains).head?.any Unicode.Derived.cased.contains

/-- A capital sigma that ends a word has a lower case of its own. -/
def lowerFrom (before : List Char) : List Char → List Char
  | [] => []
  | c :: cs =>
    let mapped :=
      if c = 'Σ' then [if facesCased before && !facesCased cs then 'ς' else 'σ'] else lowerChar c
    mapped ++ lowerFrom (c :: before) cs

def lower (cs : List Char) : List Char := lowerFrom [] cs

def upper (cs : List Char) : List Char := cs.flatMap upperChar

def asciiLower (cs : List Char) : List Char := cs.map Char.toLower

/-- Equality up to the case of ASCII letters. -/
def sameIgnoringCase (a b : String) : Bool := asciiLower a.toList == asciiLower b.toList

end FeatureFlow.Text
