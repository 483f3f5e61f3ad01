import FeatureFlow.Json.Basic
import FeatureFlow.Number.Scaled
import FeatureFlow.Text.Hex

/-! Strict reading of JSON text, with a limit on nesting. -/
namespace FeatureFlow.Json

/-- Takes what it reads off the front of a text. -/
abbrev Reader (α : Type) := List Char → Option (α × List Char)

def skipBlanks (cs : List Char) : List Char :=
  cs.dropWhile fun c => c = ' ' || c = '\n' || c = '\r' || c = '\t'

def digitValue (c : Char) : Nat := c.toNat - '0'.toNat

def readDigits (cs : List Char) : List Nat × List Char :=
  ((cs.takeWhile Char.isDigit).map digitValue, cs.dropWhile Char.isDigit)

/-- Digits of a whole number, without a leading zero in front of more digits. -/
def readWhole : Reader (List Nat) := fun cs =>
  match readDigits cs with
  | ([], _) => none
  | (0 :: _ :: _, _) => none
  | (ds, rest) => some (ds, rest)

/-- The digits after a point; none when there is no point. -/
def readFraction : Reader (Option (List Nat)) := fun cs =>
  match cs with
  | '.' :: cs => match readDigits cs with
    | ([], _) => none
    | (ds, rest) => some (some ds, rest)
  | cs => some (none, cs)

/-- A power of ten after the digits; none when there is none. -/
def readPower : Reader (Option Int) := fun cs =>
  match cs with
  | 'e' :: cs | 'E' :: cs =>
    let (negative, cs) := match cs with
      | '-' :: cs => (true, cs)
      | '+' :: cs => (false, cs)
      | cs => (false, cs)
    match readDigits cs with
    | ([], _) => none
    | (ds, rest) =>
      let n : Int := (ds.foldl (fun n d => 10 * n + d) 0 : Nat)
      some (some (if negative then -n else n), rest)
  | cs => some (none, cs)

def signed (negative : Bool) (x : Float) : Float := if negative then -x else x

def wholeNumber (negative : Bool) (n : Nat) : Option Number :=
  if negative then
    if 0 < n ∧ n ≤ 0x8000000000000000 then some (.int (Int64.ofInt (-n))) else none
  else if n < 0x8000000000000000 then some (.int (Int64.ofNat n))
  else if n < UInt64.size then some (.wide (UInt64.ofNat n))
  else none

def Number.ofFloat? (x : Float) : Option Number :=
  if h : x.isFinite = true then some (.float ⟨x, h⟩) else none

/-- Without a fraction and a power of ten a number is whole, if a word holds it and it is not minus
zero. -/
def makeNumber (negative : Bool) (whole : List Nat) (fraction : Option (List Nat))
    (power : Option Int) :
    Option Number :=
  let float := do
    let s := (Number.Scaled.mk 0 0).pushWhole whole |>.pushFraction (fraction.getD [])
    let x ← Number.Scaled.toFloat? ⟨s.word, s.exponent + power.getD 0⟩
    Number.ofFloat? (signed negative x)
  match fraction, power with
  | none, none => match wholeNumber negative (whole.foldl (fun n d => 10 * n + d) 0) with
    | some n => some n
    | none => float
  | _, _ => float

def readNumber : Reader Number := fun cs => do
  let (negative, cs) := match cs with
    | '-' :: cs => (true, cs)
    | cs => (false, cs)
  let (whole, cs) ← readWhole cs
  let (fraction, cs) ← readFraction cs
  let (power, cs) ← readPower cs
  let n ← makeNumber negative whole fraction power
  return (n, cs)

def hexWord? (a b c d : Char) : Option Nat := do
  return ((16 * (← Text.hexValue? a) + (← Text.hexValue? b)) * 16 + (← Text.hexValue? c)) * 16 +
    (← Text.hexValue? d)

def unescaped? : Char → Option Char
  | '"' => some '"'
  | '\\' => some '\\'
  | '/' => some '/'
  | 'b' => some '\x08'
  | 'f' => some '\x0c'
  | 'n' => some '\n'
  | 'r' => some '\r'
  | 't' => some '\t'
  | _ => none

/-- The rest of a string after its opening quote. Surrogates have to come in pairs. -/
def readString : Reader (List Char)
  | [] => none
  | '"' :: cs => some ([], cs)
  | '\\' :: 'u' :: a :: b :: c :: d :: cs =>
    match hexWord? a b c d with
    | none => none
    | some high =>
      if high < 0xD800 ∨ 0xE000 ≤ high then
        (readString cs).map fun (s, rest) => (Char.ofNat high :: s, rest)
      else match cs with
        | '\\' :: 'u' :: a :: b :: c :: d :: cs =>
          match hexWord? a b c d with
          | none => none
          | some low =>
            if high < 0xDC00 ∧ 0xDC00 ≤ low ∧ low < 0xE000 then
              let n := 0x10000 + (high - 0xD800) * 0x400 + (low - 0xDC00)
              (readString cs).map fun (s, rest) => (Char.ofNat n :: s, rest)
            else none
        | _ => none
  | '\\' :: c :: cs => match unescaped? c with
    | some c => (readString cs).map fun (s, rest) => (c :: s, rest)
    | none => none
  | c :: cs =>
    if c.toNat < 0x20 ∨ c = '\\' then none
    else (readString cs).map fun (s, rest) => (c :: s, rest)

variable {α : Type}

/-- Items separated by commas up to a closing mark; at least one. Each item takes some of `fuel`. -/
def readItems (close : Char) (item : Reader α) : Nat → Reader (List α)
  | 0, _ => none
  | fuel + 1, cs => do
    let (a, cs) ← item (skipBlanks cs)
    match skipBlanks cs with
    | ',' :: cs =>
      let (as, rest) ← readItems close item fuel cs
      return (a :: as, rest)
    | c :: cs => if c = close then return ([a], cs) else none
    | [] => none

def readMember (value : Reader Json) : Reader (String × Json)
  | '"' :: cs => do
    let (name, cs) ← readString cs
    match skipBlanks cs with
    | ':' :: cs =>
      let (j, rest) ← value (skipBlanks cs)
      return ((String.ofList name, j), rest)
    | _ => none
  | _ => none

def readScalar : Reader Json
  | 'n' :: 'u' :: 'l' :: 'l' :: cs => some (.null, cs)
  | 't' :: 'r' :: 'u' :: 'e' :: cs => some (.bool true, cs)
  | 'f' :: 'a' :: 'l' :: 's' :: 'e' :: cs => some (.bool false, cs)
  | '"' :: cs => (readString cs).map fun (s, rest) => (.string (String.ofList s), rest)
  | cs => (readNumber cs).map fun (n, rest) => (.number n, rest)

/-- A value of at most the given nesting. -/
def readValue : Nat → Reader Json
  | 0, cs => readScalar cs
  | nesting + 1, '[' :: cs => match skipBlanks cs with
    | ']' :: cs => some (.array [], cs)
    | cs =>
      (readItems ']' (readValue nesting) cs.length cs).map fun (items, rest) => (.array items, rest)
  | nesting + 1, '{' :: cs => match skipBlanks cs with
    | '}' :: cs => some (.object [], cs)
    | cs => (readItems '}' (readMember (readValue nesting)) cs.length cs).map
        fun (members, rest) => (.object members, rest)
  | _ + 1, cs => readScalar cs

/-- The tree of a text that holds one value and nothing else. -/
def read? (nesting : Nat) (text : List Char) : Option Json :=
  match readValue nesting (skipBlanks text) with
  | some (j, rest) => if skipBlanks rest = [] then some j else none
  | none => none

/-- Documents nest at most 127 deep. -/
def document? (text : String) : Option Json := read? 127 text.toList

end FeatureFlow.Json
