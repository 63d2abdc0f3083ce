import ModelNumber.Configuration.Basic
import ModelNumber.Json.Printer
import ModelNumber.Rule.Record

/-
  This file defines the writing of configurations. The reader
  takes a written configuration back to the same one.

  Key definitions include:
    * `PositionRange.toJson`
    * `Category.toJson`
    * `Configuration.toJson`
    * `Configuration.toText`
-/

namespace ModelNumber

/-
  Write a range: a pair of bounds, or an object where
  characters are shared.
-/
def PositionRange.toJson (r : PositionRange) : Json :=
  if r.sharedWith.isEmpty then
    .arr [.int r.start, .int r.stop]
  else
    .obj
      [("start", .int r.start), ("end", .int r.stop),
        ("shared_with", .arr r.sharedWith)]

/- Write a category. -/
def Category.toJson (c : Category) : Json :=
  .obj
    [("id", c.id), ("name", c.name), ("position", c.position),
      ("group", c.group),
      ("codes", .obj (c.codes.entries.map fun e =>
        (Json.fieldName e.1, e.2)))]

/- Write a line of the reference list. -/
def NavigationEntry.toJson (n : NavigationEntry) : Json :=
  .obj
    [("category", n.category), ("name", n.name),
      ("indent", .bool n.indent)]

/- Write a grammar. -/
def Grammar.toJson (g : Grammar) : Json :=
  .obj
    [("model_part", .arr g.modelPart),
      ("feature_part", .arr g.featurePart)]

namespace Configuration

/- Write a configuration. -/
def toJson (c : Configuration) : Except Defect Json := do
  let rules ← c.rules.mapM Rule.toJson
  return .obj
    [("key", c.key), ("title", c.title),
      ("reference_string", c.referenceString),
      ("grammar", c.grammar.toJson),
      ("categories",
        .arr (c.catalog.categories.map Category.toJson)),
      ("navigation",
        .arr (c.navigation.map NavigationEntry.toJson)),
      ("positions", .obj (c.positions.entries.map fun e =>
        (Json.fieldName e.1, e.2.toJson))),
      ("rules", .arr rules),
      ("enhancers", .arr c.enhancers),
      ("enhancement_tables", c.tables)]

/- The text of the document of a configuration. -/
def toText (c : Configuration) : Except Defect String := do
  return Json.print .indentedAscii (← c.toJson)

end Configuration

end ModelNumber
