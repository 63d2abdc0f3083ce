import ModelNumber.Json.Written

/-
  This file defines what can be wrong with a value that is
  read from a document or computed with.

  Key definitions include:
    * `Defect`
    * `Defect.message`
    * `Defect.label`
-/

namespace ModelNumber

/- What is wrong with a value. -/
inductive Defect where
/- The value has a type that the operation does not take. -/
| mistyped
/- Values of this type do not have the operation at all. -/
| unsupported
/- The value has the right type but a content that is none. -/
| invalid
/- The number has no counterpart of the wanted kind. -/
| unbounded
/- An entry lacks a required field. -/
| missingField (name : String)
/- A rule sets two flags that exclude each other. -/
| conflictingFlags (affects : Json)
/- A text is no document. -/
| unreadable
/- The bytes of a file are no text. -/
| undecodable

namespace Defect

/- What a rule with two flags is told. -/
def conflictMessage (affects : Json) : String :=
  "rule for '" ++ affects.shown
    ++ "' cannot be both info and enables"

/- The text that goes with a defect, if there is one. -/
def message? : Defect → Option String
| .missingField name => some (Text.quoted name)
| .conflictingFlags affects => some (conflictMessage affects)
| _ => none

/- How a configuration problem names the defect behind it. -/
def label : Defect → String
| .mistyped => "TypeError"
| .unsupported => "AttributeError"
| .invalid => "ValueError"
| .unbounded => "OverflowError"
| .missingField name =>
    "KeyError(" ++ Text.quoted name ++ ")"
| .conflictingFlags affects =>
    "ValueError(" ++ Text.quoted (conflictMessage affects)
      ++ ")"
| .unreadable => "JSONDecodeError"
| .undecodable => "UnicodeDecodeError"

/-
  A defect of a single entry. The others end the reading of a
  whole document.
-/
def isOfEntry : Defect → Bool
| .mistyped => true
| .invalid => true
| .missingField _ => true
| .conflictingFlags _ => true
| _ => false

end Defect

end ModelNumber
