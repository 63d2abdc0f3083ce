import ModelNumber.Number.Binary
import ModelNumber.Number.Shortest

/-
  This file defines how numbers are written: the choice
  between positional and exponent form, thousands groups, and
  a fixed number of places.

  Key definitions include:
    * `FloatLayout`
    * `FloatLayout.write`
    * `Number.grouped`
    * `Number.writeGrouped`
    * `Number.roundHalfEven`
    * `Number.oneDecimal`
-/

namespace ModelNumber

------------------------------------------------------------
-- Layouts
------------------------------------------------------------

/-
  The decisions in writing a floating-point number: which
  powers of ten are written positionally, and the words for
  what is no finite number.
-/
structure FloatLayout where
  leastPositional : Int := -4
  pastPositional : Int := 16
  infinity : String
  nan : String
deriving DecidableEq, Repr

namespace FloatLayout

/- Digits with a point among or beside them. -/
private def positional
    (digits : List Char)
    (point : Int) : List Char × List Char :=
  if point ≤ 0 then
    (['0'], List.replicate (-point).toNat '0' ++ digits)
  else if digits.length ≤ point.toNat then
    (digits ++ List.replicate (point.toNat - digits.length) '0',
      ['0'])
  else
    (digits.take point.toNat, digits.drop point.toNat)

/- An exponent with its sign and at least two digits. -/
private def exponentMark (power : Int) : List Char :=
  let digits := Nat.toDigits 10 power.natAbs
  let padded :=
    if digits.length < 2 then '0' :: digits else digits
  ['e', if power < 0 then '-' else '+'] ++ padded

/-
  The whole part of a decimal and what follows it: a fraction,
  an exponent, or both.
-/
private def parts
    (layout : FloatLayout)
    (d : Decimal) : List Char × List Char :=
  let digits := Nat.toDigits 10 d.digits
  let point := (digits.length : Int) + d.exponent
  let power := point - 1
  if layout.leastPositional ≤ power
      && power < layout.pastPositional then
    let (whole, fraction) := positional digits point
    (whole, '.' :: fraction)
  else
    let fraction := digits.drop 1
    let tail :=
      if fraction.isEmpty then [] else '.' :: fraction
    (digits.take 1, tail ++ exponentMark power)

/- Sign, whole part and the rest of a written number. -/
private def pieces
    (layout : FloatLayout)
    (x : Float) : List Char × List Char × List Char :=
  match FloatValue.ofFloat x with
  | .nan => ([], [], layout.nan.toList)
  | .infinite negative =>
      (if negative then ['-'] else [], [],
        layout.infinity.toList)
  | .finite negative m e =>
      let sign := if negative then ['-'] else []
      if m = 0 then
        (sign, ['0'], ['.', '0'])
      else
        (sign, layout.parts (Decimal.shortest m e))

/- Write a number with the fewest digits that read back. -/
def write
    (layout : FloatLayout)
    (x : Float) : String :=
  let (sign, whole, rest) := layout.pieces x
  String.ofList (sign ++ whole ++ rest)

end FloatLayout

------------------------------------------------------------
-- Thousands groups
------------------------------------------------------------

namespace Number

/- Digits, last one first, with a comma after every third. -/
private def groupReversed : List Char → List Char
| a :: b :: c :: d :: rest =>
    a :: b :: c :: ',' :: groupReversed (d :: rest)
| short => short

/- Digits with a comma between groups of three. -/
def grouped (digits : List Char) : List Char :=
  (groupReversed digits.reverse).reverse

/- Write a whole number in groups of three digits. -/
def writeGrouped (n : Int) : String :=
  let sign := if n < 0 then ['-'] else []
  String.ofList
    (sign ++ grouped (Nat.toDigits 10 n.natAbs))

end Number

/- Write a number with its whole part in groups of three. -/
def FloatLayout.writeGrouped
    (layout : FloatLayout)
    (x : Float) : String :=
  let (sign, whole, rest) := layout.pieces x
  String.ofList (sign ++ Number.grouped whole ++ rest)

------------------------------------------------------------
-- Fixed places
------------------------------------------------------------

namespace Number

/- The nearest whole number to a quotient, ties to even. -/
def roundHalfEven (num den : Nat) : Nat :=
  let quotient := num / den
  let twice := 2 * (num % den)
  if twice < den then
    quotient
  else if den < twice then
    quotient + 1
  else if quotient % 2 = 0 then
    quotient
  else
    quotient + 1

/- Write the exact value of a number with one decimal place. -/
def oneDecimal
    (layout : FloatLayout)
    (x : Float) : String :=
  match FloatValue.ofFloat x with
  | .nan => layout.nan
  | .infinite negative =>
      (if negative then "-" else "") ++ layout.infinity
  | .finite negative m e =>
      let tenths := roundHalfEven
        (m * Nat.pow 2 e.toNat * 10) (Nat.pow 2 (-e).toNat)
      (if negative then "-" else "")
        ++ toString (tenths / 10) ++ "."
        ++ toString (tenths % 10)

end Number

end ModelNumber
