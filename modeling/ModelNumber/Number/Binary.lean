/-
  This file defines the exact value of a binary64 number: a
  sign and a whole number times a power of two.

  Key definitions include:
    * `FloatValue`
    * `FloatValue.ofFloat`
    * `FloatValue.toRat?`
    * `FloatValue.truncated?`
-/

namespace ModelNumber

/-
  What a binary64 number stands for. A finite number is
  `mantissa * 2 ^ exponent` with a sign, and zero keeps its
  sign.
-/
inductive FloatValue where
| finite (negative : Bool) (mantissa : Nat) (exponent : Int)
| infinite (negative : Bool)
| nan
deriving DecidableEq, Repr

namespace FloatValue

/- Read the fields of a binary64 number. -/
def ofFloat (x : Float) : FloatValue :=
  let bits := x.toBits.toNat
  let negative := bits / Nat.pow 2 63 % 2 == 1
  let power : Nat := bits / Nat.pow 2 52 % Nat.pow 2 11
  let fraction := bits % Nat.pow 2 52
  if power = 2047 then
    if fraction = 0 then .infinite negative else .nan
  else if power = 0 then
    .finite negative fraction (-1074)
  else
    .finite negative (Nat.pow 2 52 + fraction)
      ((power : Int) - 1075)

/- Give a number a sign. -/
private def signed
    (negative : Bool)
    (n : Nat) : Int :=
  if negative then -(n : Int) else n

/- The exact value of a finite number. -/
def toRat? : FloatValue → Option Rat
| .finite negative m e =>
    some (mkRat (signed negative (m * Nat.pow 2 e.toNat))
      (Nat.pow 2 (-e).toNat))
| _ => none

/- A finite number without its fraction. -/
def truncated? : FloatValue → Option Int
| .finite negative m e =>
    some (signed negative
      (m * Nat.pow 2 e.toNat / Nat.pow 2 (-e).toNat))
| _ => none

end FloatValue

end ModelNumber
