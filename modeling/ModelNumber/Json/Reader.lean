import ModelNumber.Json.Defect
import ModelNumber.Number.Numeral

/-
  This file defines the reading of documents. A name that an
  object holds twice keeps its first place and takes its last
  value, the words `NaN`, `Infinity` and `-Infinity` are
  numbers, and control characters inside texts are refused.

  Key definitions include:
    * `Json.Reader.number`
    * `Json.Reader.text`
    * `Json.Reader.value`
    * `Json.parse`
-/

namespace ModelNumber

namespace Json

namespace Reader

/- The text cannot be read on. -/
def refuse {α : Type} : Except Defect α :=
  .error .unreadable

------------------------------------------------------------
-- Blanks and words
------------------------------------------------------------

/- A character that may stand between parts of a document. -/
def isGap (c : Char) : Bool :=
  c == ' ' || c == '\t' || c == '\n' || c == '\r'

/- Skip the gap in front. -/
def skipGap (s : List Char) : List Char :=
  s.dropWhile isGap

/- What remains after a word in front. -/
def afterWord?
    (word : String)
    (s : List Char) : Option (List Char) :=
  if word.toList.isPrefixOf s then
    some (s.drop word.length)
  else
    none

------------------------------------------------------------
-- Numbers
------------------------------------------------------------

/- The values of decimal digits. -/
def digitValues (ds : List Char) : List Nat :=
  ds.map fun c => c.toNat - '0'.toNat

/- Digits after a point, if there are any. -/
def fractionDigits
    (s : List Char) : Option (List Char × List Char) :=
  match s with
  | '.' :: rest =>
      let ds := rest.takeWhile Char.isDigit
      if ds.isEmpty then none else some (ds, rest.drop ds.length)
  | _ => none

/- An exponent, if there is one. -/
def exponentPart
    (s : List Char) : Option (Int × List Char) :=
  match s with
  | c :: rest =>
      if c == 'e' || c == 'E' then
        let (negative, body) := Numeral.signAndRest rest
        let ds := body.takeWhile Char.isDigit
        if ds.isEmpty then
          none
        else
          let n : Int := Numeral.ofDigits (digitValues ds)
          some (if negative then -n else n, body.drop ds.length)
      else
        none
  | [] => none

/- The whole part of a number: a zero, or digits after none. -/
def wholeDigits (s : List Char) : List Char :=
  match s with
  | '0' :: _ => ['0']
  | _ => s.takeWhile Char.isDigit

/-
  Read a number after its sign. One without fraction and
  exponent is a whole number, of limited length.
-/
def unsigned
    (negative : Bool)
    (s : List Char) : Except Defect (Json × List Char) :=
  let whole := wholeDigits s
  let rest := s.drop whole.length
  if whole.isEmpty then
    refuse
  else
    let fraction := fractionDigits rest
    let (fractionChars, rest) := fraction.getD ([], rest)
    let power := exponentPart rest
    let (exponent, rest) := power.getD (0, rest)
    if fraction.isSome || power.isSome then
      let n := Numeral.ofDigits
        (digitValues (whole ++ fractionChars))
      let x := Numeral.scaled n (exponent - fractionChars.length)
      .ok (.float (Numeral.negateIf negative x), rest)
    else if Numeral.digitLimit < whole.length then
      .error .invalid
    else
      let n : Int := Numeral.ofDigits (digitValues whole)
      .ok (.int (if negative then -n else n), rest)

/- Read a number. -/
def number (s : List Char) : Except Defect (Json × List Char) :=
  match s with
  | '-' :: rest => unsigned true rest
  | _ => unsigned false s

------------------------------------------------------------
-- Texts
------------------------------------------------------------

/- The value of a hexadecimal digit. -/
def hexDigit? (c : Char) : Option Nat :=
  if c.isDigit then
    some (c.toNat - '0'.toNat)
  else if 'a' ≤ c ∧ c ≤ 'f' then
    some (c.toNat - 'a'.toNat + 10)
  else if 'A' ≤ c ∧ c ≤ 'F' then
    some (c.toNat - 'A'.toNat + 10)
  else
    none

/- Four hexadecimal digits. -/
def unit? (a b c d : Char) : Option Nat := do
  let a ← hexDigit? a
  let b ← hexDigit? b
  let c ← hexDigit? c
  let d ← hexDigit? d
  return ((a * 16 + b) * 16 + c) * 16 + d

/- The character that a single letter after a backslash names. -/
def simpleEscape? (c : Char) : Option Char :=
  match c with
  | '"' => some '"'
  | '\\' => some '\\'
  | '/' => some '/'
  | 'b' => some '\x08'
  | 'f' => some '\x0C'
  | 'n' => some '\n'
  | 'r' => some '\r'
  | 't' => some '\t'
  | _ => none

/- The first code unit of a pair of surrogates. -/
def isHighSurrogate (n : Nat) : Bool :=
  0xD800 ≤ n && n ≤ 0xDBFF

/- The second code unit of a pair of surrogates. -/
def isLowSurrogate (n : Nat) : Bool :=
  0xDC00 ≤ n && n ≤ 0xDFFF

/-
  The character of a code unit. A surrogate alone stands for
  no character and becomes the replacement character.
-/
def charOfUnit (n : Nat) : Char :=
  if isHighSurrogate n || isLowSurrogate n then
    '\uFFFD'
  else
    Char.ofNat n

/- The character of a pair of surrogates. -/
def charOfPair (high low : Nat) : Char :=
  Char.ofNat
    (0x10000 + (high - 0xD800) * 0x400 + (low - 0xDC00))

/-
  Read the rest of a text up to its closing quote, given the
  characters before it in reverse order. A high surrogate
  waits for its partner.
-/
def textFrom :
    Option Nat → List Char → List Char → Except Defect (String × List Char)
| _, _, [] => refuse
| pending, read, '\\' :: 'u' :: a :: b :: c :: d :: rest =>
    match unit? a b c d with
    | none => refuse
    | some n =>
        match pending with
        | some high =>
            if isLowSurrogate n then
              textFrom none (charOfPair high n :: read) rest
            else if isHighSurrogate n then
              textFrom (some n) (charOfUnit high :: read) rest
            else
              textFrom none
                (charOfUnit n :: charOfUnit high :: read) rest
        | none =>
            if isHighSurrogate n then
              textFrom (some n) read rest
            else
              textFrom none (charOfUnit n :: read) rest
| pending, read, c :: rest =>
    let read :=
      match pending with
      | some high => charOfUnit high :: read
      | none => read
    if c = '"' then
      .ok (String.ofList read.reverse, rest)
    else if c = '\\' then
      match rest with
      | e :: rest =>
          match simpleEscape? e with
          | some c => textFrom none (c :: read) rest
          | none => refuse
      | [] => refuse
    else if c.toNat < 0x20 then
      refuse
    else
      textFrom none (c :: read) rest

/- Read a text after its opening quote. -/
def text (s : List Char) : Except Defect (String × List Char) :=
  textFrom none [] s

------------------------------------------------------------
-- Values
------------------------------------------------------------

/- Read a value that is not a list, an object or a text. -/
def atom (s : List Char) : Except Defect (Json × List Char) :=
  let words : List (String × Json) :=
    [("null", .null), ("true", .bool true),
      ("false", .bool false), ("NaN", .float (0.0 / 0.0)),
      ("Infinity", .float (1.0 / 0.0)),
      ("-Infinity", .float (-1.0 / 0.0))]
  let word := words.findSome? fun w =>
    (afterWord? w.1 s).map fun rest => (w.2, rest)
  match word with
  | some step => .ok step
  | none => number s

mutual

/-
  Read a value. The fuel bounds the number of steps, of which
  a character takes at most two.
-/
def value : Nat → List Char → Except Defect (Json × List Char)
| 0, _ => refuse
| fuel + 1, s =>
    match s with
    | '"' :: rest => do
        let (t, rest) ← text rest
        return (.str t, rest)
    | '[' :: rest =>
        match skipGap rest with
        | ']' :: rest => .ok (.arr [], rest)
        | rest => do
            let (vs, rest) ← items fuel rest
            return (.arr vs, rest)
    | '\x7b' :: rest =>
        match skipGap rest with
        | '\x7d' :: rest => .ok (.obj [], rest)
        | rest => do
            let (fs, rest) ← members fuel rest
            return (.ofFields fs, rest)
    | _ => atom s

/- Read the items of a list up to its closing bracket. -/
def items : Nat → List Char → Except Defect (List Json × List Char)
| 0, _ => refuse
| fuel + 1, s => do
    let (v, rest) ← value fuel s
    match skipGap rest with
    | ']' :: rest => return ([v], rest)
    | ',' :: rest =>
        let (vs, rest) ← items fuel (skipGap rest)
        return (v :: vs, rest)
    | _ => refuse

/- Read the fields of an object up to its closing brace. -/
def members : Nat → List Char → Except Defect (List (String × Json) × List Char)
| 0, _ => refuse
| fuel + 1, s =>
    match s with
    | '"' :: rest => do
        let (name, rest) ← text rest
        match skipGap rest with
        | ':' :: rest =>
            let (v, rest) ← value fuel (skipGap rest)
            match skipGap rest with
            | '\x7d' :: rest => return ([(name, v)], rest)
            | ',' :: rest =>
                let (fs, rest) ← members fuel (skipGap rest)
                return ((name, v) :: fs, rest)
            | _ => refuse
        | _ => refuse
    | _ => refuse

end

end Reader

/- Read a whole document. -/
def parse (s : String) : Except Defect Json := do
  let cs := s.toList
  let (v, rest) ←
    Reader.value (2 * cs.length + 2) (Reader.skipGap cs)
  if (Reader.skipGap rest).isEmpty then
    return v
  else
    throw .unreadable

end Json

end ModelNumber
