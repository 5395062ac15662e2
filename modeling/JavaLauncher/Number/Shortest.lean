import JavaLauncher.Number.Binary64

/-!
# The shortest decimal of a magnitude

The decimals that read back as a given magnitude are those between its neighbours' halfway
points, the points themselves included where the significand is even. The shortest decimal is
the one with the fewest digits among them and, of those, the nearest to the magnitude; of two
equally near the greater. It is written positionally, with at least one digit on each side of
the point.
-/
namespace JavaLauncher

/-- A decimal `digits * 10 ^ exponent`. -/
structure Decimal where
  /-- The digits as one integer. -/
  digits : Nat
  /-- The power of ten by which they are scaled. -/
  exponent : Int
  deriving DecidableEq, Repr

/-- The characters of a decimal, with at least one digit on each side of the point. -/
def Decimal.positional (decimal : Decimal) : List Char :=
  let digits := Nat.toDigits 10 decimal.digits
  match decimal.exponent with
  | .ofNat up => digits ++ List.replicate up '0' ++ ['.', '0']
  | .negSucc down =>
    let places := down + 1
    let filled := List.replicate (places + 1 - digits.length) '0' ++ digits
    let whole := filled.take (filled.length - places)
    let fraction := (filled.drop (filled.length - places)).reverse.dropWhile (· == '0')
    whole ++ '.' :: (if fraction = [] then ['0'] else fraction.reverse)

/-- The power of ten of the first digit of a positive ratio. -/
def Ratio.leadingPower (ratio : Ratio) : Int :=
  let guess : Int :=
    (Nat.toDigits 10 ratio.numerator).length - (Nat.toDigits 10 ratio.denominator).length
  let scaled := ratio.scale 10 (-guess)
  if scaled.numerator < scaled.denominator then guess - 1 else guess

namespace Binary64

/-- The ratio of a magnitude. -/
def ratio (value : Binary64) : Ratio := (Ratio.mk value.significand 1).scale 2 value.exponent

/-- Quarters of the magnitude's unit from it down to the halfway point below: two of them, but
one where the magnitudes below lie twice as close. -/
def quartersBelow (value : Binary64) : Nat :=
  if value.significand = Nat.pow 2 52 ∧ leastExponent < value.exponent then 1 else 2

/-- The decimal on the grid of one power of ten that reads back as a magnitude and is nearest
to it. Everything is counted in quarters of the magnitude's unit, which make the halfway points
integers. -/
def onGrid? (value : Binary64) (power : Int) : Option Decimal :=
  let inGrid (quarters : Nat) : Ratio :=
    ((Ratio.mk quarters 1).scale 2 (value.exponent - 2)).scale 10 (-power)
  let centre := inGrid (4 * value.significand)
  let low := (inGrid (4 * value.significand - value.quartersBelow)).numerator
  let high := (inGrid (4 * value.significand + 2)).numerator
  let unit := centre.denominator
  let floor := centre.numerator / unit
  let closed := value.significand % 2 = 0
  let floorFits := low < floor * unit ∨ (closed ∧ low = floor * unit)
  let ceilingFits := (floor + 1) * unit < high ∨ (closed ∧ (floor + 1) * unit = high)
  if floorFits ∧ (¬ceilingFits ∨ 2 * (centre.numerator % unit) < unit) then some ⟨floor, power⟩
  else if ceilingFits then some ⟨floor + 1, power⟩
  else none

/-- The shortest decimal of a positive magnitude. Seventeen digits always read back. -/
def shortest (value : Binary64) : Decimal :=
  let leading := value.ratio.leadingPower
  let grids := (List.range 17).map fun later : Nat => leading - later
  (grids.findSome? value.onGrid?).getD ⟨0, 0⟩

/-- The text of a magnitude. -/
def text (value : Binary64) : String :=
  if value.significand = 0 then "0.0" else String.ofList value.shortest.positional

end Binary64

end JavaLauncher
