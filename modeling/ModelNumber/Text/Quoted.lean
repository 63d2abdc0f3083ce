import ModelNumber.Text.Basic
import ModelNumber.Text.Printable

/-
  This file defines quoted texts, the form in which a text is
  shown inside a list or another value.

  Key definitions include:
    * `Text.quoteMark`
    * `Text.quoted`
-/

namespace ModelNumber

namespace Text

/-
  Single quotes enclose a text, unless it holds single quotes
  and no double quote.
-/
def quoteMark (s : List Char) : Char :=
  if s.contains '\'' && !s.contains '"' then '"' else '\''

/- A character inside a quoted text. -/
private def quotedChar
    (mark : Char)
    (c : Char) : String :=
  if c = '\\' || c = mark then
    String.ofList ['\\', c]
  else if c = '\n' then
    "\\n"
  else if c = '\r' then
    "\\r"
  else if c = '\t' then
    "\\t"
  else if isPrintable c then
    String.singleton c
  else if c.toNat < 0x100 then
    "\\x" ++ hex 2 c.toNat
  else if c.toNat < 0x10000 then
    "\\u" ++ hex 4 c.toNat
  else
    "\\U" ++ hex 8 c.toNat

/- A text in quotes, with all that is not printable escaped. -/
def quoted (s : String) : String :=
  let mark := quoteMark s.toList
  String.singleton mark
    ++ String.join (s.toList.map (quotedChar mark))
    ++ String.singleton mark

end Text

end ModelNumber
