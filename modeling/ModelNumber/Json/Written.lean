import ModelNumber.Json.Basic
import ModelNumber.Number.Layout
import ModelNumber.Text.Quoted

/-
  This file defines how values appear inside messages. A text
  stands there as it is, and inside a list or an object it is
  quoted.

  Key definitions include:
    * `Scalar.written`
    * `Json.written`
    * `Json.shown`
-/

namespace ModelNumber

namespace Scalar

/- How numbers appear in messages. -/
def messageLayout : FloatLayout where
  infinity := "inf"
  nan := "nan"

/- A scalar with texts in quotes. -/
def written : Scalar → String
| .null => "None"
| .bool true => "True"
| .bool false => "False"
| .int n => toString n
| .float x => messageLayout.write x
| .str s => Text.quoted s

/- A scalar as a part of a message. -/
def shown : Scalar → String
| .str s => s
| s => s.written

/- A list of scalars in brackets. -/
def writtenList (scalars : List Scalar) : String :=
  "[" ++ ", ".intercalate (scalars.map written) ++ "]"

end Scalar

namespace Json

mutual

/- A value with texts in quotes. -/
def written : Json → String
| .scalar s => s.written
| .arr items => "[" ++ ", ".intercalate (writtenItems items) ++ "]"
| .obj fields =>
    "\x7b" ++ ", ".intercalate (writtenFields fields) ++ "\x7d"
termination_by structural v => v

/- The items of a list. -/
def writtenItems : List Json → List String
| [] => []
| v :: rest => written v :: writtenItems rest
termination_by structural items => items

/- The fields of an object. -/
def writtenFields : List (String × Json) → List String
| [] => []
| (name, v) :: rest =>
    (Text.quoted name ++ ": " ++ written v)
      :: writtenFields rest
termination_by structural fields => fields

end

/- A value as a part of a message. -/
def shown : Json → String
| .scalar s => s.shown
| v => v.written

end Json

end ModelNumber
