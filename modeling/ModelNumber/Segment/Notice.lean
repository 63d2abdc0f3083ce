import ModelNumber.Grammar
import ModelNumber.Json.Written

/-
  This file defines notices: what was odd about a typed model
  number and yet did not keep it from being decoded.

  Key definitions include:
    * `Notice`
    * `Notice.code`
    * `Notice.message`
    * `Notice.segment?`
    * `Notice.category?`
    * `Notice.place`
-/

namespace ModelNumber

/- An observation about a typed model number. -/
inductive Notice where
/- A segment for which its part has no category left. -/
| unrecognizedSegment
    (part : Part) (code : String) (start expected : Nat)
/- A colon after the first one. -/
| malformedSeparator (place : Nat)
/- A segment whose category the catalog does not have. -/
| unknownCategory
    (category : Scalar) (code : String) (start : Nat)
    (modelType : Json)
/- A segment whose code its category does not have. -/
| unknownCode
    (category : Scalar) (code : String) (start : Nat)
    (name position : Json)

namespace Notice

/- The name of the kind of a notice. -/
def code : Notice → String
| .unrecognizedSegment .. => "UNRECOGNIZED_SEGMENT"
| .malformedSeparator .. => "MALFORMED_SEPARATOR"
| .unknownCategory .. => "UNKNOWN_CATEGORY"
| .unknownCode .. => "UNKNOWN_CODE"

/- What a notice says. -/
def message : Notice → String
| .unrecognizedSegment part code _ expected =>
    "Unrecognized " ++ part.name ++ " segment '" ++ code
      ++ "' (expected " ++ toString expected ++ " "
      ++ part.name ++ " segments)"
| .malformedSeparator _ =>
    "Only the first ':' separates the feature string; "
      ++ "later colons are read as segment separators"
| .unknownCategory category _ _ modelType =>
    "Category '" ++ category.shown ++ "' is not in the "
      ++ modelType.shown ++ " catalog"
| .unknownCode _ code _ name position =>
    "Unknown code '" ++ code ++ "' for " ++ name.shown
      ++ " (" ++ position.shown ++ ")"

/- The code of the segment that a notice is about. -/
def segment? : Notice → Option String
| .unrecognizedSegment _ code _ _ => some code
| .malformedSeparator _ => none
| .unknownCategory _ code _ _ => some code
| .unknownCode _ code _ _ _ => some code

/- The category that a notice is about. -/
def category? : Notice → Option Scalar
| .unknownCategory category _ _ _ => some category
| .unknownCode category _ _ _ _ => some category
| _ => none

/- The place in the normal form that a notice is about. -/
def place : Notice → Nat
| .unrecognizedSegment _ _ start _ => start
| .malformedSeparator place => place
| .unknownCategory _ _ start _ => start
| .unknownCode _ _ start _ _ => start

end Notice

end ModelNumber
