/-
  This file defines blank characters and the trimming of
  texts.

  Key definitions include:
    * `Text.isBlank`
    * `Text.trimStart`
    * `Text.trimEnd`
    * `Text.trim`
    * `Text.stripped`
-/

namespace ModelNumber

namespace Text

------------------------------------------------------------
-- Blank characters
------------------------------------------------------------

/- Code points of blank characters, as inclusive ranges. -/
def blankRanges : List (Nat × Nat) :=
  [(0x09, 0x0D), (0x1C, 0x20), (0x85, 0x85), (0xA0, 0xA0),
  (0x1680, 0x1680), (0x2000, 0x200A), (0x2028, 0x2029),
  (0x202F, 0x202F), (0x205F, 0x205F), (0x3000, 0x3000)]

/- A character that counts as white space. -/
def isBlank (c : Char) : Bool :=
  blankRanges.any fun r => r.1 ≤ c.toNat && c.toNat ≤ r.2

------------------------------------------------------------
-- Trimming
------------------------------------------------------------

/- Drop the blanks at the start. -/
def trimStart (s : List Char) : List Char :=
  s.dropWhile isBlank

/- Drop the blanks at the end. -/
def trimEnd (s : List Char) : List Char :=
  (trimStart s.reverse).reverse

/- Drop the blanks at both ends. -/
def trim (s : List Char) : List Char :=
  trimEnd (trimStart s)

/- A text without the blanks at its ends. -/
def stripped (s : String) : String :=
  String.ofList (trim s.toList)

end Text

end ModelNumber
