import ModelNumber.Text.Blank
import ModelNumber.Text.Digit

/-
  This file defines the reading of numerals: whole numbers and
  decimal numbers in a text, with blanks around them, a sign,
  and single underscores between digits. Digits of all scripts
  are accepted.

  Key definitions include:
    * `Numeral.digitRun?`
    * `Numeral.ofDigits`
    * `Numeral.scaled`
    * `Numeral.int?`
    * `Numeral.float?`
-/

namespace ModelNumber

namespace Numeral

------------------------------------------------------------
-- Digits
------------------------------------------------------------

/-
  Blanks that may surround a numeral. The four separator
  controls are no part of them.
-/
def isMargin (c : Char) : Bool :=
  Text.isBlank c && !(0x1C ≤ c.toNat && c.toNat ≤ 0x1F)

/- A text without the blanks around a numeral. -/
private def core (s : List Char) : List Char :=
  ((s.dropWhile isMargin).reverse.dropWhile isMargin).reverse

/- Digits with single underscores between them. -/
def digitRun? : List Char → Option (List Nat)
| [] => none
| [c] => (Text.digit? c).map fun d => [d]
| c :: '_' :: rest => do
    let d ← Text.digit? c
    let ds ← digitRun? rest
    return d :: ds
| c :: rest => do
    let d ← Text.digit? c
    let ds ← digitRun? rest
    return d :: ds

/- The number that decimal digits write. -/
def ofDigits (ds : List Nat) : Nat :=
  ds.foldl (fun n d => 10 * n + d) 0

/- A leading sign, and what follows it. -/
def signAndRest : List Char → Bool × List Char
| '-' :: rest => (true, rest)
| '+' :: rest => (false, rest)
| rest => (false, rest)

------------------------------------------------------------
-- Whole numbers
------------------------------------------------------------

/- A whole number may be written with so many digits. -/
def digitLimit : Nat := 4300

/- Read a whole number. -/
def int? (s : String) : Option Int := do
  let (negative, body) := signAndRest (core s.toList)
  let ds ← digitRun? body
  if digitLimit < ds.length then
    none
  else
    let n : Int := ofDigits ds
    return if negative then -n else n

------------------------------------------------------------
-- Decimal numbers
------------------------------------------------------------

/-
  The number `n * 10 ^ e`, rounded to the nearest binary64
  number. Far beyond the largest and below the least number
  the power need not be computed.
-/
def scaled
    (n : Nat)
    (e : Int) : Float :=
  let top := ((Nat.toDigits 10 n).length : Int) + e
  if n = 0 || top < -400 then
    0.0
  else if 400 < top then
    1.0 / 0.0
  else
    Float.ofScientific n (e < 0) e.natAbs

/- Give a number a sign. -/
def negateIf
    (negative : Bool)
    (x : Float) : Float :=
  if negative then -x else x

/- Digits that may be missing. -/
private def optionalRun?
    (s : List Char) : Option (List Nat) :=
  if s.isEmpty then some [] else digitRun? s

/- Read a signed exponent. -/
private def exponent? (s : List Char) : Option Int := do
  let (negative, body) := signAndRest s
  let n : Int := ofDigits (← digitRun? body)
  return if negative then -n else n

/- Read digits with an optional point and exponent. -/
private def unsigned? (s : List Char) : Option Float := do
  let isMark := fun c => c == 'e' || c == 'E'
  let number := s.takeWhile (!isMark ·)
  let power ←
    match s.dropWhile (!isMark ·) with
    | [] => some 0
    | _ :: rest => exponent? rest
  let whole ← optionalRun? (number.takeWhile (· != '.'))
  let fraction ← optionalRun?
    ((number.dropWhile (· != '.')).drop 1)
  if whole.isEmpty && fraction.isEmpty then
    none
  else
    return scaled (ofDigits (whole ++ fraction))
      (power - fraction.length)

/- Read a decimal number, an infinity, or the word `nan`. -/
def float? (s : String) : Option Float := do
  let (negative, body) := signAndRest (core s.toList)
  let word := String.ofList (body.map Char.toLower)
  let x ←
    if word == "inf" || word == "infinity" then
      some (1.0 / 0.0)
    else if word == "nan" then
      some (0.0 / 0.0)
    else
      unsigned? body
  return negateIf negative x

end Numeral

end ModelNumber
