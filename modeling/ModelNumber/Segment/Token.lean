import ModelNumber.Text.Basic
import ModelNumber.Text.Blank

/-
  This file defines the tokens between separators. A token
  neither starts nor ends with a blank, may hold blanks in
  between, and is never empty.

  The scanner reads a text once, from left to right, and knows
  where each token starts. `Token.codes` gives the same tokens
  without places: the chunks between separators, trimmed, with
  blank ones dropped.

  Key definitions include:
    * `Token`
    * `Token.Scan`
    * `Token.scan`
    * `Token.codes`
-/

namespace ModelNumber

/- Some characters and the place where they start. -/
structure Token where
  start : Nat
  code : List Char
deriving DecidableEq, Repr

namespace Token

/- The place after the last character. -/
def stop (t : Token) : Nat :=
  t.start + t.code.length

------------------------------------------------------------
-- Scanning
------------------------------------------------------------

/-
  The scanner is between tokens, or inside one. Inside, it
  holds the start, the characters up to the last one that is
  not blank, and the blanks since then, both in reverse order.
-/
inductive Scan where
| between
| inside (start : Nat) (read gap : List Char)
deriving DecidableEq, Repr

namespace Scan

/- The token that ends here, if there is one. -/
def finished : Scan → List Token
| .between => []
| .inside start read _ => [⟨start, read.reverse⟩]

/- Read a character that is no separator. -/
def next
    (place : Nat)
    (c : Char) : Scan → Scan
| .between =>
    if Text.isBlank c then .between else .inside place [c] []
| .inside start read gap =>
    if Text.isBlank c then
      .inside start read (c :: gap)
    else
      .inside start (c :: gap ++ read) []

end Scan

/- The tokens of a text that starts at some place. -/
def scanFrom
    (isSeparator : Char → Bool) :
    Scan → Nat → List Char → List Token
| state, _, [] => state.finished
| state, place, c :: rest =>
    if isSeparator c then
      state.finished
        ++ scanFrom isSeparator .between (place + 1) rest
    else
      scanFrom isSeparator (state.next place c) (place + 1) rest

/- The tokens of a text whose first character has a place. -/
def scan
    (isSeparator : Char → Bool)
    (place : Nat)
    (s : List Char) : List Token :=
  scanFrom isSeparator .between place s

------------------------------------------------------------
-- Tokens without places
------------------------------------------------------------

/- The chunks between separators, trimmed, without blank ones. -/
def codes
    (isSeparator : Char → Bool)
    (s : List Char) : List (List Char) :=
  ((Text.chunks isSeparator s).map Text.trim).filter
    (!·.isEmpty)

end Token

end ModelNumber
