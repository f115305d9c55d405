/-!
# The binary fraction nearest to a decimal

A positive double-precision number is a binary fraction `m * 2 ^ q` with a
significand of at most 53 bits. `nearest` finds the one that a decimal reads as:
the nearest one, and of two equally near the one with the even significand. Below
half of the least fraction lies zero, above the greatest one infinity.
-/

namespace DocPress.Decimal

/-- A positive binary fraction `mantissa * 2 ^ exponent` of double precision. -/
structure Binary where
  /-- The integer significand, below `2 ^ 53`. -/
  mantissa : Nat
  /-- The exponent of two. -/
  exponent : Int
  deriving DecidableEq, Repr

/-- The double-precision number nearest to a decimal without a sign. -/
inductive Nearest
  | zero
  | finite (value : Binary)
  | infinite
  deriving DecidableEq, Repr

/-- The quotient of two natural numbers rounded to the nearest integer, a half to
the even one. -/
def roundedQuotient (numerator denominator : Nat) : Nat :=
  let low := numerator / denominator
  let rest := 2 * (numerator % denominator)
  if denominator < rest || (rest = denominator && low % 2 = 1) then low + 1 else low

/-- The double-precision number nearest to a quotient: its significand has 53
bits unless the exponent would fall below the least one. -/
def nearestQuotient (numerator denominator : Nat) : Nearest :=
  let scaled (exponent : Int) : Nat × Nat :=
    (numerator * Nat.pow 2 (-exponent).toNat, denominator * Nat.pow 2 exponent.toNat)
  let estimate := max (-1074) ((numerator.log2 : Int) - denominator.log2 - 52)
  let exponent :=
    if (scaled estimate).1 / (scaled estimate).2 < Nat.pow 2 52 then max (-1074) (estimate - 1)
    else estimate
  let mantissa := roundedQuotient (scaled exponent).1 (scaled exponent).2
  if mantissa = 0 then .zero
  else
    let value : Binary :=
      if mantissa = Nat.pow 2 53 then ⟨Nat.pow 2 52, exponent + 1⟩ else ⟨mantissa, exponent⟩
    if 971 < value.exponent then .infinite else .finite value

/-- The double-precision number nearest to `digits * 10 ^ exponent`. Sizes far
outside its range are told by the number of digits alone. -/
def nearest (digits : Nat) (exponent : Int) : Nearest :=
  let leading := ((Nat.toDigits 10 digits).length : Int) + exponent
  if digits = 0 || leading < -400 then .zero
  else if 400 < leading then .infinite
  else nearestQuotient (digits * Nat.pow 10 exponent.toNat) (Nat.pow 10 (-exponent).toNat)

end DocPress.Decimal
