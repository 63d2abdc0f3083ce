import ModelNumber.Json.Basic
import ModelNumber.Number.Layout
import ModelNumber.Text.Basic

/-
  This file defines the written forms of documents.

  Key definitions include:
    * `Json.Form`
    * `Json.Form.indented`
    * `Json.Form.indentedAscii`
    * `Json.Form.oneLine`
    * `Json.Form.compact`
    * `Json.print`
-/

namespace ModelNumber

namespace Json

------------------------------------------------------------
-- Forms
------------------------------------------------------------

/-
  The decisions in writing a document: how far each level is
  indented, if it starts a line of its own at all, what stands
  between items and after a field name, and whether characters
  beyond ASCII are escaped.
-/
structure Form where
  indent : Option Nat
  itemSeparator : String
  nameSeparator : String
  ascii : Bool
deriving DecidableEq, Repr

namespace Form

/- Each item on a line of its own. -/
def indented : Form where
  indent := some 2
  itemSeparator := ","
  nameSeparator := ": "
  ascii := false

/- Each item on a line of its own, in ASCII alone. -/
def indentedAscii : Form :=
  { indented with ascii := true }

/- All on one line, with spaces. -/
def oneLine : Form where
  indent := none
  itemSeparator := ", "
  nameSeparator := ": "
  ascii := false

/- All on one line, without spaces. -/
def compact : Form where
  indent := none
  itemSeparator := ","
  nameSeparator := ":"
  ascii := false

end Form

------------------------------------------------------------
-- Scalars
------------------------------------------------------------

/- How numbers are written in documents. -/
def documentLayout : FloatLayout where
  infinity := "Infinity"
  nan := "NaN"

/- A code unit of sixteen bits as an escape. -/
def unitEscape (n : Nat) : String :=
  "\\u" ++ Text.hex 4 n

/-
  A character as escapes. One beyond the basic plane takes two
  surrogates.
-/
def escape (c : Char) : String :=
  let n := c.toNat
  if n < 0x10000 then
    unitEscape n
  else
    let offset := n - 0x10000
    unitEscape (0xD800 + offset / 0x400)
      ++ unitEscape (0xDC00 + offset % 0x400)

/- A character inside a text. -/
def printChar
    (form : Form)
    (c : Char) : String :=
  if c = '"' then
    "\\\""
  else if c = '\\' then
    "\\\\"
  else if c = '\n' then
    "\\n"
  else if c = '\r' then
    "\\r"
  else if c = '\t' then
    "\\t"
  else if c = '\x08' then
    "\\b"
  else if c = '\x0C' then
    "\\f"
  else if c.toNat < 0x20 || form.ascii && 0x7F ≤ c.toNat then
    escape c
  else
    String.singleton c

/- A text in double quotes. -/
def printText
    (form : Form)
    (s : String) : String :=
  "\"" ++ String.join (s.toList.map (printChar form)) ++ "\""

/- A scalar. -/
def printScalar
    (form : Form) : Scalar → String
| .null => "null"
| .bool true => "true"
| .bool false => "false"
| .int n => toString n
| .float x => documentLayout.write x
| .str s => printText form s

/- A key as the name of a field. -/
def fieldName : Scalar → String
| .str s => s
| s => printScalar .compact s

------------------------------------------------------------
-- Values
------------------------------------------------------------

/- The start of a line at some depth. -/
def lineStart
    (form : Form)
    (depth : Nat) : String :=
  match form.indent with
  | none => ""
  | some width =>
      "\n" ++ String.ofList (List.replicate (width * depth) ' ')

/- Parts between brackets, at the depth of the brackets. -/
def enclose
    (form : Form)
    (depth : Nat)
    (opening closing : String)
    (parts : List String) : String :=
  if parts.isEmpty then
    opening ++ closing
  else
    let start := lineStart form (depth + 1)
    opening ++ start
      ++ (form.itemSeparator ++ start).intercalate parts
      ++ lineStart form depth ++ closing

mutual

/- A value at some depth. -/
def printAt
    (form : Form)
    (depth : Nat) : Json → String
| .scalar s => printScalar form s
| .arr items =>
    enclose form depth "[" "]" (printItems form (depth + 1) items)
| .obj fields =>
    enclose form depth "\x7b" "\x7d"
      (printFields form (depth + 1) fields)
termination_by structural v => v

/- The items of a list. -/
def printItems
    (form : Form)
    (depth : Nat) : List Json → List String
| [] => []
| v :: rest =>
    printAt form depth v :: printItems form depth rest
termination_by structural items => items

/- The fields of an object. -/
def printFields
    (form : Form)
    (depth : Nat) : List (String × Json) → List String
| [] => []
| (name, v) :: rest =>
    (printText form name ++ form.nameSeparator
        ++ printAt form depth v)
      :: printFields form depth rest
termination_by structural fields => fields

end

/- Write a document. -/
def print
    (form : Form)
    (v : Json) : String :=
  printAt form 0 v

end Json

end ModelNumber
