/-!
# The range of fractions

A decimal number is read as a fraction of double precision only if it is within the range of such
fractions.
-/

namespace ScopedResources.Fraction

/-- The least number that is too large: halfway between the largest fraction of double precision and
the power of two above it. -/
def overflow : Nat := Nat.pow 2 1024 - Nat.pow 2 970

/-- Whether `mantissa` times ten to the power of `exponent` is within range. Numbers far from the
limit are told by their number of digits. -/
def isFinite (mantissa : Nat) (exponent : Int) : Bool :=
  if mantissa = 0 then true
  else
    let digits : Int := (Nat.toDigits 10 mantissa).length
    if digits + exponent < 300 then true
    else if 400 < digits + exponent then false
    else if 0 ≤ exponent then mantissa * Nat.pow 10 exponent.toNat < overflow
    else mantissa < overflow * Nat.pow 10 (-exponent).toNat

end ScopedResources.Fraction
