import ModelNumber.Decoding.Basic

/-
  This file defines the rows in which attributes and messages
  are shown in tables.

  Key definitions include:
    * `Row`
    * `Decoding.attributeRows`
    * `Decoding.warningRows`
-/

namespace ModelNumber

/- The cells of a row, each with the name of its column. -/
abbrev Row :=
  List (String × Json)

namespace Decoding

/- A row for each attribute. -/
def attributeRows (d : Decoding) : List Row :=
  d.attributes.map fun a =>
    [("Position", a.position), ("Code", a.code),
      ("Attribute", a.name), ("Description", a.description)]

/- A category that has to be a text. -/
private def categoryText : Json → Except Defect String
| .str s => .ok s
| _ => .error .mistyped

/- The categories of a warning in a single cell. -/
def joinedCategories (w : Warning) : Except Defect String := do
  return ", ".intercalate (← w.categories.mapM categoryText)

/- A row for each warning and note. -/
def warningRows (d : Decoding) : Except Defect (List Row) :=
  d.warnings.mapM fun w => do
    return [("Severity", w.severity.name),
      ("Message", w.message), ("Hint", w.hint),
      ("Categories", ← joinedCategories w)]

end Decoding

end ModelNumber
