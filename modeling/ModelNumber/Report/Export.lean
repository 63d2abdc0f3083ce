import ModelNumber.Decoding.Basic
import ModelNumber.Json.Printer
import ModelNumber.Json.Reader

/-
  This file defines the export of decoded model numbers as
  documents. Attributes are fields named by what they are
  shown as; a name that is taken gets the position added.

  Key definitions include:
    * `Attribute.toJson`
    * `Notice.toJson`
    * `Warning.toJson`
    * `Decoding.exportedAttributes`
    * `Decoding.toJson`
    * `Decoding.toText`
    * `Decoding.toDocument`
-/

namespace ModelNumber

------------------------------------------------------------
-- Parts of a decoding
------------------------------------------------------------

/- An attribute with all that is shown of it. -/
def Attribute.toJson (a : Attribute) : Json :=
  .obj
    [("category", a.category), ("code", a.code),
      ("name", a.name), ("position", a.position),
      ("description", a.description)]

/- A text that may be absent. -/
def optionalText (s : Option String) : Json :=
  .optional (s.map Json.str)

/- A notice. -/
def Notice.toJson (n : Notice) : Json :=
  .obj
    [("code", n.code), ("message", n.message),
      ("segment", optionalText n.segment?),
      ("category", .optional (n.category?.map Json.scalar)),
      ("at_index", .int n.place)]

/- A warning or note. -/
def Warning.toJson (w : Warning) : Json :=
  .obj
    [("severity", w.severity.name), ("message", w.message),
      ("hint", w.hint), ("categories", .arr w.categories),
      ("rule_kind", w.kind.name)]

------------------------------------------------------------
-- Whole decodings
------------------------------------------------------------

namespace Decoding

/- Add an attribute to those exported so far. -/
def enterAttribute
    (exported : OrderedMap Scalar Json)
    (a : Attribute) : Except Defect (OrderedMap Scalar Json) := do
  let name ← a.name.key
  let free :=
    if exported.contains name then
      .str (name.shown ++ " (" ++ a.position.shown ++ ")")
    else
      name
  return exported.insert free
    (.obj [("code", a.code), ("description", a.description)])

/- The attributes by the names they are exported under. -/
def exportedAttributes
    (d : Decoding) : Except Defect (OrderedMap Scalar Json) :=
  d.attributes.foldlM enterAttribute ∅

/- A field that is only there when it is wanted. -/
def fieldIf
    (wanted : Bool)
    (name : String)
    (value : Json) : List (String × Json) :=
  if wanted then [(name, value)] else []

/- Export a decoding, with or without its messages. -/
def toJson
    (d : Decoding)
    (withWarnings withNotices : Bool) : Except Defect Json := do
  let attributes ← d.exportedAttributes
  let fields := attributes.entries.map fun e =>
    (Json.fieldName e.1, e.2)
  return .obj
    ([("Model Type", d.modelType),
        ("Model Number", .str d.normalized),
        ("Attributes", .obj fields)]
      ++ fieldIf withWarnings "Warnings"
        (.arr (d.warnings.map Warning.toJson))
      ++ fieldIf withNotices "Notices"
        (.arr (d.notices.map Notice.toJson)))

/- The text of an exported decoding. -/
def toText
    (d : Decoding)
    (withWarnings withNotices : Bool) :
    Except Defect String := do
  return Json.print .indented
    (← d.toJson withWarnings withNotices)

/- What the text of an exported decoding is read back as. -/
def toDocument
    (d : Decoding)
    (withNotices : Bool) : Except Defect Json := do
  Json.parse (← d.toText true withNotices)

end Decoding

end ModelNumber
