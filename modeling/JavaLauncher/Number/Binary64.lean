/-!
# Numbers of the binary64 format

A finite magnitude of the format is `significand * 2 ^ exponent` with a significand below
`2 ^ 53` and an exponent from -1074 to 971. A decimal `mantissa * 10 ^ exponent` is rounded to
the nearest such magnitude, a tie going to the even significand; a decimal that rounds beyond
the largest one has no magnitude in the format.
-/
namespace JavaLauncher

/-- A quotient of two natural numbers, not reduced. -/
structure Ratio where
  /-- The number that is divided. -/
  numerator : Nat
  /-- The number that divides. -/
  denominator : Nat
  deriving DecidableEq, Repr

namespace Ratio

/-- A ratio times a power of a base. -/
def scale (ratio : Ratio) (base : Nat) : (exponent : Int) → Ratio
  | .ofNat up => ⟨ratio.numerator * base.pow up, ratio.denominator⟩
  | .negSucc down => ⟨ratio.numerator, ratio.denominator * base.pow (down + 1)⟩

/-- The integer nearest to a ratio, a tie going to the even one. -/
def round (ratio : Ratio) : Nat :=
  let quotient := ratio.numerator / ratio.denominator
  let twice := 2 * (ratio.numerator % ratio.denominator)
  if twice < ratio.denominator then quotient
  else if ratio.denominator < twice then quotient + 1
  else quotient + quotient % 2

end Ratio

/-- A finite magnitude of the format. -/
structure Binary64 where
  /-- The integer that is scaled; at least `2 ^ 52` unless the exponent is the least one. -/
  significand : Nat
  /-- The power of two by which it is scaled. -/
  exponent : Int
  deriving DecidableEq, Repr

namespace Binary64

/-- The least exponent of the format. -/
def leastExponent : Int := -1074

/-- The greatest exponent of the format. -/
def greatestExponent : Int := 971

/-- The zero of the format. -/
def zero : Binary64 := ⟨0, leastExponent⟩

/-- The exponent at which a positive ratio has a significand of 53 bits, or the least one where
it would lie below that. -/
def exponentOf (ratio : Ratio) : Int :=
  let guess :=
    max ((ratio.numerator.log2 : Int) - ratio.denominator.log2 - 53) leastExponent
  let scaled := ratio.scale 2 (-guess)
  if scaled.numerator < scaled.denominator * Nat.pow 2 53 then guess else guess + 1

/-- The magnitude nearest to a positive ratio, unless it is beyond the largest one. -/
def ofRatio (ratio : Ratio) : Option Binary64 :=
  let exponent := exponentOf ratio
  let significand := (ratio.scale 2 (-exponent)).round
  let rounded : Binary64 :=
    if significand = Nat.pow 2 53 then ⟨Nat.pow 2 52, exponent + 1⟩ else ⟨significand, exponent⟩
  if greatestExponent < rounded.exponent then none else some rounded

/-- The magnitude nearest to `mantissa * 10 ^ exponent`. Decimals of more than 310 digits before
the point are beyond the largest magnitude, and those that begin more than 330 digits after it
are nearest to zero; neither needs its power of ten. -/
def ofDecimal (mantissa : Nat) (exponent : Int) : Option Binary64 :=
  let digits : Int := (Nat.toDigits 10 mantissa).length
  if mantissa = 0 then some zero
  else if 310 < digits + exponent then none
  else if digits + exponent < -330 then some zero
  else ofRatio ((Ratio.mk mantissa 1).scale 10 exponent)

end Binary64

end JavaLauncher
