/-
  This file defines the shortest decimal that stands for a
  binary64 number: the fewest digits that read back as the
  same number, and of those the nearest to it.

  The decimals that read back as a number fill the interval
  half way to its neighbors on either side. On the grid of
  decimals with a given number of digits only the two points
  next to the number have to be tried, because if any point
  of the grid lies in the interval then one of these does.

  Key definitions include:
    * `Decimal`
    * `ReadBack`
    * `ReadBack.ofBinary`
    * `Decimal.shortest`
-/

namespace ModelNumber

/- The number `digits * 10 ^ exponent`. -/
structure Decimal where
  digits : Nat
  exponent : Int
deriving DecidableEq, Repr

/-
  The positive numbers that read back as one value, as
  numerators over a common denominator. The ends belong to a
  closed interval only.
-/
structure ReadBack where
  low : Nat
  value : Nat
  high : Nat
  denominator : Nat
  closed : Bool
deriving DecidableEq, Repr

namespace ReadBack

------------------------------------------------------------
-- Intervals
------------------------------------------------------------

/-
  The interval of `m * 2 ^ e`. The neighbor below is half as
  far away when the mantissa is the least normal one. Ties go
  to the even mantissa, so an even one owns both ends.
-/
def ofBinary
    (m : Nat)
    (e : Int) : ReadBack :=
  let scale := Nat.pow 2 (e - 2).toNat
  let below := if m = Nat.pow 2 52 && e ≠ -1074 then 1 else 2
  { low := (4 * m - below) * scale
    value := 4 * m * scale
    high := (4 * m + 2) * scale
    denominator := Nat.pow 2 (2 - e).toNat
    closed := m % 2 == 0 }

/- Measure an interval in units of `10 ^ k`. -/
def inUnits
    (r : ReadBack)
    (k : Int) : ReadBack :=
  let up := Nat.pow 10 (-k).toNat
  { r with
    low := r.low * up
    value := r.value * up
    high := r.high * up
    denominator := r.denominator * Nat.pow 10 k.toNat }

/- A whole number lies in an interval. -/
def holds
    (r : ReadBack)
    (n : Nat) : Bool :=
  let point := n * r.denominator
  if r.closed then
    r.low ≤ point && point ≤ r.high
  else
    r.low < point && point < r.high

/-
  The whole number nearest to the value among those that read
  back, with a tie going to the even one.
-/
def nearest? (r : ReadBack) : Option Nat :=
  let lower := r.value / r.denominator
  let upper := lower + 1
  match r.holds lower, r.holds upper with
  | true, true =>
      let toLower := r.value - lower * r.denominator
      let toUpper := upper * r.denominator - r.value
      if toLower < toUpper then
        some lower
      else if toUpper < toLower then
        some upper
      else if lower % 2 = 0 then
        some lower
      else
        some upper
  | true, false => some lower
  | false, true => some upper
  | false, false => none

/-
  The number of digits before the decimal point. It is
  negative or zero when zeros follow the point.
-/
def magnitude (r : ReadBack) : Int :=
  if r.denominator ≤ r.value then
    (Nat.toDigits 10 (r.value / r.denominator)).length
  else
    let reaches := fun k =>
      r.denominator ≤ r.value * Nat.pow 10 (k + 1)
    let zeros := ((List.range 330).find? reaches).getD 0
    Int.neg zeros

end ReadBack

namespace Decimal

------------------------------------------------------------
-- The shortest decimal
------------------------------------------------------------

/- Move zeros at the end of the digits into the exponent. -/
private def withoutTrailingZeros : Nat → Decimal → Decimal
| 0, d => d
| fuel + 1, d =>
    if d.digits % 10 = 0 then
      withoutTrailingZeros fuel
        ⟨d.digits / 10, d.exponent + 1⟩
    else
      d

/-
  The shortest decimal for a positive number. Seventeen
  digits always suffice.
-/
def shortest
    (m : Nat)
    (e : Int) : Decimal :=
  let r := ReadBack.ofBinary m e
  let point := r.magnitude
  let found := (List.range 17).findSome? fun (n : Nat) =>
    let k := point - ((n : Int) + 1)
    ((r.inUnits k).nearest?).map fun digits =>
      (⟨digits, k⟩ : Decimal)
  withoutTrailingZeros 17 (found.getD ⟨0, 0⟩)

end Decimal

end ModelNumber
