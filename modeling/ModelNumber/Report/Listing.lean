import ModelNumber.Decoding.Basic

/-
  This file defines the listing of a decoding on a screen with
  characters of fixed width.

  Key definitions include:
    * `Listing.cell`
    * `Decoding.listing`
    * `Listing.text`
-/

namespace ModelNumber

namespace Listing

/- A text that is filled up to the width of its column. -/
def cell
    (width : Nat) : Json → Except Defect String
| .str s => .ok (Text.padRight width s)
| .null => .error .mistyped
| .scalar _ => .error .invalid
| _ => .error .mistyped

/- The line of an attribute. -/
def attributeLine (a : Attribute) : Except Defect String := do
  let position ← cell 5 a.position
  let code ← cell 4 (.str a.code)
  let name ← cell 30 a.name
  return "  " ++ position ++ " " ++ code ++ " " ++ name ++ " "
    ++ a.description.shown

/- The line of a notice. -/
def noticeLine (n : Notice) : String :=
  "  [" ++ n.code ++ "] " ++ n.message

/- The line of a warning or note. -/
def warningLine (w : Warning) : String :=
  "  [" ++ w.severity.name ++ "] " ++ w.message.shown ++ " -> "
    ++ w.hint.shown

/- Printed lines as a text, each with an end of line. -/
def text (printed : List String) : String :=
  String.join (printed.map (· ++ "\n"))

end Listing

/- The attributes, notices and warnings, a line for each. -/
def Decoding.listing
    (d : Decoding) : Except Defect (List String) := do
  let attributes ← d.attributes.mapM Listing.attributeLine
  return attributes ++ d.notices.map Listing.noticeLine
    ++ d.warnings.map Listing.warningLine

end ModelNumber
