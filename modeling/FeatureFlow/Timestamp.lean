import FeatureFlow.Text.Blank

/-! Instants of universal time, and their calendar text. -/
namespace FeatureFlow

/-- Seconds since the start of 1970, and nanoseconds within the second. A leap second counts as a
second thousand million nanoseconds of the one before it. -/
structure Timestamp where
  seconds : Int
  nanos : Nat
  deriving Repr, DecidableEq

namespace Timestamp

/-- So many milliseconds after the start of 1970. -/
def ofMillis (n : Nat) : Timestamp := ⟨n / 1000, n % 1000 * 1000000⟩

def order (a b : Timestamp) : Ordering :=
  (compare a.seconds b.seconds).then (compare a.nanos b.nanos)

/-- Year, month and day of a day counted from the start of 1970. Years run from March here, so that
a leap day ends its year. -/
def civil (day : Int) : Int × Nat × Nat :=
  let shifted := day + 719468
  let era := shifted / 146097
  let ofEra := (shifted % 146097).toNat
  let year := (ofEra - ofEra / 1460 + ofEra / 36524 - ofEra / 146096) / 365
  let ofYear := ofEra - (365 * year + year / 4 - year / 100)
  let month := (5 * ofYear + 2) / 153
  let day := ofYear - (153 * month + 2) / 5 + 1
  if month < 10 then (year + era * 400, month + 3, day) else (year + era * 400 + 1, month - 9, day)

/-- The day of a date, counted from the start of 1970. -/
def dayOf (year : Int) (month day : Nat) : Int :=
  let year := if month ≤ 2 then year - 1 else year
  let era := year / 400
  let ofEra := year % 400
  let ofYear : Int := (153 * (if 2 < month then month - 3 else month + 9 : Nat) + 2) / 5 + day - 1
  era * 146097 + ofEra * 365 + ofEra / 4 - ofEra / 100 + ofYear - 719468

def isLeap (year : Int) : Bool := year % 4 = 0 && (year % 100 ≠ 0 || year % 400 = 0)

def monthLength (year : Int) (month : Nat) : Nat :=
  if month = 2 then if isLeap year then 29 else 28
  else if month = 4 ∨ month = 6 ∨ month = 9 ∨ month = 11 then 30
  else 31

def padded (width n : Nat) : String :=
  let ds := (Nat.repr n).toList
  String.ofList (List.replicate (width - ds.length) '0' ++ ds)

/-- Years of four digits are bare, others signed. -/
def yearText (year : Int) : String :=
  if 0 ≤ year ∧ year ≤ 9999 then padded 4 year.toNat
  else (if year < 0 then "-" else "+") ++ padded 4 year.natAbs

/-- Date and time in universal time with so many digits of the second's fraction. -/
def render (digits : Nat) (t : Timestamp) : String :=
  let (year, month, day) := civil (t.seconds / 86400)
  let second := (t.seconds % 86400).toNat
  let fraction := t.nanos % 1000000000 / Nat.pow 10 (9 - digits)
  yearText year ++ "-" ++ padded 2 month ++ "-" ++ padded 2 day ++ "T" ++
    padded 2 (second / 3600) ++ ":" ++ padded 2 (second / 60 % 60) ++ ":" ++
    padded 2 (second % 60 + t.nanos / 1000000000) ++
    (if digits = 0 then "" else "." ++ padded digits fraction) ++ "Z"

def text (t : Timestamp) : String := render 3 t

/-- As few groups of three digits as the fraction needs. -/
def exactText (t : Timestamp) : String :=
  let nanos := t.nanos % 1000000000
  render (if nanos = 0 then 0 else if nanos % 1000000 = 0 then 3
    else if nanos % 1000 = 0 then 6 else 9) t

/-- One to `most` digits at the front. -/
def readNat (most : Nat) (cs : List Char) : Option (Nat × List Char) :=
  let ds := (cs.take most).takeWhile Char.isDigit
  if ds = [] then none
  else some (ds.foldl (fun n d => 10 * n + (d.toNat - '0'.toNat)) 0, cs.drop ds.length)

/-- A signed year may have any number of digits, a bare one four. -/
def readYear (cs : List Char) : Option (Int × List Char) :=
  match cs with
  | '-' :: cs => (readNat cs.length cs).map fun (n, rest) => (-n, rest)
  | '+' :: cs => (readNat cs.length cs).map fun (n, rest) => (n, rest)
  | cs => (readNat 4 cs).map fun (n, rest) => (n, rest)

def expect (mark : Char) (cs : List Char) : Option (List Char) :=
  match Text.trimLeft cs with
  | c :: cs => if c = mark then some cs else none
  | [] => none

def readFraction (cs : List Char) : Option (Nat × List Char) :=
  match cs with
  | '.' :: cs =>
    let ds := (cs.take 9).takeWhile Char.isDigit
    (readNat 9 cs).map fun (n, _) => (n * Nat.pow 10 (9 - ds.length), cs.dropWhile Char.isDigit)
  | cs => some (0, cs)

def digitPair (cs : List Char) : Option (Nat × List Char) :=
  match cs with
  | a :: b :: cs =>
    if a.isDigit && b.isDigit then
      some (10 * (a.toNat - '0'.toNat) + (b.toNat - '0'.toNat), cs)
    else none
  | _ => none

/-- The distance from universal time in seconds. -/
def readOffset (cs : List Char) : Option (Int × List Char) :=
  let distance (cs : List Char) : Option (Int × List Char) := do
    let (hours, cs) ← digitPair cs
    let (minutes, cs) ← digitPair (cs.dropWhile fun c => c = ':' || Text.isBlank c)
    if minutes < 60 then return (hours * 3600 + minutes * 60, cs) else none
  match cs with
  | 'Z' :: cs | 'z' :: cs => some (0, cs)
  | '+' :: cs => distance cs
  | '-' :: cs | '−' :: cs => (distance cs).map fun (n, rest) => (-n, rest)
  | u :: t :: c :: cs =>
    if [u, t, c].map Char.toLower = ['u', 't', 'c'] then some (0, cs) else none
  | _ => none

/-- The calendar ends with these years, also in universal time. -/
def firstYear : Int := -262143

def lastYear : Int := 262142

/-- Reads a date, a time and an offset; blanks may stand before each number and mark. -/
def read? (text : String) : Option Timestamp := do
  let (year, cs) ← readYear (Text.trimLeft text.toList)
  let (month, cs) ← readNat 2 (Text.trimLeft (← expect '-' cs))
  let (day, cs) ← readNat 2 (Text.trimLeft (← expect '-' cs))
  let cs ← match cs with
    | c :: cs => if c = 'T' ∨ c = 't' ∨ c = ' ' then some cs else none
    | [] => none
  let (hour, cs) ← readNat 2 (Text.trimLeft cs)
  let (minute, cs) ← readNat 2 (Text.trimLeft (← expect ':' cs))
  let (second, cs) ← readNat 2 (Text.trimLeft (← expect ':' cs))
  let (nanos, cs) ← readFraction cs
  let (offset, cs) ← readOffset (Text.trimLeft cs)
  if 1 ≤ month ∧ month ≤ 12 ∧ 1 ≤ day ∧ day ≤ monthLength year month ∧ hour < 24 ∧ minute < 60 ∧
      second ≤ 60 ∧ offset.natAbs < 86400 ∧ firstYear ≤ year ∧ year ≤ lastYear ∧
      Text.trimLeft cs = [] then
    let leap := if second = 60 then 1 else 0
    let seconds := dayOf year month day * 86400 + hour * 3600 + minute * 60 +
      (second - leap : Nat) - offset
    if dayOf firstYear 1 1 * 86400 ≤ seconds ∧ seconds < dayOf (lastYear + 1) 1 1 * 86400 then
      return ⟨seconds, nanos + leap * 1000000000⟩
    else none
  else none

end Timestamp

end FeatureFlow
