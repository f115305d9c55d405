import DocPress.Decimal.Nearest

/-!
# The shortest decimal of a binary fraction

A positive double-precision number is `m * 2 ^ q`. All reals nearer to it than
to its neighbours read back as it; the ends of that interval do so when `m` is
even. `shortest` finds the decimal with the fewest digits in the interval, and
of those the one nearest to the number.
-/

namespace DocPress.Decimal

/-- Decimal digits and the position of the decimal point: the value is
`0.digits * 10 ^ point`. -/
structure Digits where
  /-- The digits, written as a natural number. -/
  value : Nat
  /-- How many digits there are. -/
  count : Nat
  /-- The decimal point stands after this many digits. -/
  point : Int

/-- The decimal exponent of the leading digit of `numerator / denominator`:
the power of ten that is at most the quotient and more than a tenth of it. -/
def leadingExponent (numerator denominator : Nat) : Int :=
  if denominator ≤ numerator then
    ((Nat.toDigits 10 (numerator / denominator)).length : Int) - 1
  else
    let rec below (steps : Nat) (scaled : Nat) (exponent : Int) : Int :=
      match steps with
      | 0 => exponent
      | steps + 1 =>
          if denominator ≤ scaled then exponent else below steps (10 * scaled) (exponent - 1)
    below 400 numerator 0

/-- The decimal on the grid of `count` digits that reads back as the fraction
and is nearest to it, if the grid has one. All distances are measured in units
of `1 / scale`. -/
def onGrid? (binary : Binary) (count : Nat) : Option Digits :=
  let twos := binary.exponent.toNat
  let halves := (-binary.exponent).toNat
  let numerator := binary.mantissa * Nat.pow 2 twos
  let denominator := Nat.pow 2 halves
  let leading := leadingExponent numerator denominator
  let unit := leading + 1 - (count : Int)
  -- four times the value and its neighbours' distances, over one denominator
  let grid := 4 * Nat.pow 10 unit.toNat * denominator
  let scale := Nat.pow 10 (-unit).toNat
  let value := 4 * numerator * scale
  let ulp := Nat.pow 2 twos * scale
  let above := 2 * ulp
  let below := if binary.mantissa = Nat.pow 2 52 && binary.exponent > -1074 then ulp else 2 * ulp
  let inclusive := binary.mantissa % 2 = 0
  let within (distance limit : Nat) : Bool :=
    distance < limit || (inclusive && distance = limit)
  let low := value / grid
  let down := value - low * grid
  let up := (low + 1) * grid - value
  let lowFits := low != 0 && within down below
  let highFits := within up above
  let digits (candidate : Nat) : Digits :=
    if candidate = Nat.pow 10 count then ⟨1, 1, leading + 2⟩ else ⟨candidate, count, leading + 1⟩
  if lowFits && highFits then
    some (digits (if down < up || (down = up && low % 2 = 0) then low else low + 1))
  else if lowFits then some (digits low)
  else if highFits then some (digits (low + 1))
  else none

/-- The shortest decimal that reads back as the fraction. -/
def shortest (binary : Binary) : Digits :=
  let rec search (steps count : Nat) : Digits :=
    match steps with
    | 0 => ⟨0, 1, 1⟩
    | steps + 1 => (onGrid? binary count).getD (search steps (count + 1))
  search 17 1

/-- The least and the greatest position of the decimal point at which a number
is written without an exponent. -/
structure Layout where
  /-- At this position and below, an exponent is written. -/
  belowPoint : Int := -4
  /-- Above this position, an exponent is written. -/
  abovePoint : Int := 16
  /-- The exponent has at least this many digits. -/
  exponentWidth : Nat := 2

/-- A number written out: digits around a decimal point, or one digit, a
fraction and an exponent of ten. A whole number keeps one zero after the
point. -/
def Layout.render (layout : Layout) (digits : Digits) : List Char :=
  let written := Nat.toDigits 10 digits.value
  if layout.belowPoint < digits.point && digits.point ≤ layout.abovePoint then
    if digits.point ≤ 0 then
      '0' :: '.' :: List.replicate (-digits.point).toNat '0' ++ written
    else
      let whole := written.take digits.point.toNat
      let fraction := written.drop digits.point.toNat
      whole ++ List.replicate (digits.point.toNat - written.length) '0' ++
        '.' :: (if fraction.isEmpty then ['0'] else fraction)
  else
    let exponent := digits.point - 1
    let size := Nat.toDigits 10 exponent.natAbs
    let fraction := written.drop 1
    written.take 1 ++ (if fraction.isEmpty then [] else '.' :: fraction) ++
      'e' :: (if exponent < 0 then '-' else '+') ::
        List.replicate (layout.exponentWidth - size.length) '0' ++ size

end DocPress.Decimal
