import FeatureFlow.Number.Shortest

/-! Layouts: how the digits of a number are set as text. -/
namespace FeatureFlow.Number

structure Layout where
  /-- The least exponent of a leading digit that is written without a power of ten. -/
  least : Option Int
  /-- The greatest such exponent. -/
  greatest : Option Int
  /-- Whole numbers keep a fraction of one zero. -/
  fraction : Bool
  tie : Tie

/-- Plain text: never a power of ten, and whole numbers have no fraction. -/
def Layout.plain : Layout := ⟨none, none, false, .larger⟩

/-- Text that JSON readers take for a number with a fraction. -/
def Layout.json : Layout := ⟨some (-5), some 15, true, .even⟩

def Layout.positional (l : Layout) (exponent : Int) : Bool :=
  l.least.all (· ≤ exponent) && l.greatest.all (exponent ≤ ·)

/-- Digits with the point after the first `exponent + 1` of them. -/
def Layout.placePoint (l : Layout) (ds : List Char) (exponent : Int) : List Char :=
  if exponent < 0 then '0' :: '.' :: (List.replicate (-exponent - 1).toNat '0' ++ ds)
  else
    let whole := (exponent + 1).toNat
    if whole < ds.length then ds.take whole ++ '.' :: ds.drop whole
    else ds ++ List.replicate (whole - ds.length) '0' ++ if l.fraction then ['.', '0'] else []

def Layout.withPower (ds : List Char) (exponent : Int) : List Char :=
  let scaled := match ds with
    | [d] => [d]
    | d :: ds => d :: '.' :: ds
    | [] => []
  let sign := if exponent < 0 then '-' else '+'
  scaled ++ 'e' :: sign :: (Nat.repr exponent.natAbs).toList

/-- The text of a finite double. -/
def Layout.render (l : Layout) (x : Float) : String :=
  let d := shortest l.tie x
  let ds := (Nat.repr d.digits).toList
  let exponent := d.exponent + ds.length - 1
  let magnitude := if l.positional exponent then l.placePoint ds exponent else withPower ds exponent
  String.ofList (if isNegative x then '-' :: magnitude else magnitude)

end FeatureFlow.Number
