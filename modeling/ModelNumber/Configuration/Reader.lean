import ModelNumber.Configuration.Basic
import ModelNumber.Configuration.Problem
import ModelNumber.Json.Printer
import ModelNumber.Json.Reader
import ModelNumber.Rule.Record

/-
  This file defines the reading of configurations from
  documents. A defect of a single entry is reported as a
  problem of the configuration.

  Key definitions include:
    * `Configuration.requiredKeys`
    * `Configuration.readCategory`
    * `Configuration.readRange`
    * `Configuration.readGrammar`
    * `Configuration.readTables`
    * `Configuration.ofJson`
    * `Configuration.ofText`
-/

namespace ModelNumber

namespace Configuration

------------------------------------------------------------
-- Categories
------------------------------------------------------------

/-
  Read a category but for its id, which becomes a key when the
  category is entered into the catalog.
-/
def readCategory
    (v : Json) : Except Defect (Json × (Scalar → Category)) := do
  let id ← v.required "id"
  let name ← v.required "name"
  let position ← v.optionalField "position" id
  let group ← v.optionalField "group" ""
  let codes ← (← v.optionalField "codes" (.obj [])).toMap
  return (id, fun id => { id, name, position, group, codes })

/- Enter categories into a catalog, one by one. -/
def enterCategories
    (key : Json) :
    Catalog → List (Json × (Scalar → Category)) →
      Except Fault Catalog
| catalog, [] => .ok catalog
| catalog, (id, category) :: rest =>
    match id.key with
    | .error d => .error (.ofEntry key d)
    | .ok id =>
        match catalog.add (category id) with
        | .error id => .error (.invalid [.duplicateCategory id] key)
        | .ok catalog => enterCategories key catalog rest

------------------------------------------------------------
-- Positions, grammar and navigation
------------------------------------------------------------

/-
  Read the range of a category: an object with bounds and
  shared categories, or a pair of bounds.
-/
def readRange
    (category : String)
    (v : Json) : Except Defect PositionRange := do
  match v with
  | .obj _ =>
      let start ← (← v.required "start").toInt
      let stop ← (← v.required "end").toInt
      let sharedWith ←
        (← v.optionalField "shared_with" (.arr [])).elements
      return { category := category, start, stop, sharedWith }
  | _ =>
      let (start, stop) ← v.pair
      let start ← start.toInt
      let stop ← stop.toInt
      return { category := category, start, stop, sharedWith := [] }

/- Read the ranges of all categories. -/
def readRanges
    (v : Json) : Except Defect (List PositionRange) := do
  (← v.fields).mapM fun f => readRange f.1 f.2

/- Read a grammar. -/
def readGrammar (v : Json) : Except Defect Grammar := do
  let modelPart ←
    (← v.optionalField "model_part" (.arr [])).elements
  let featurePart ←
    (← v.optionalField "feature_part" (.arr [])).elements
  return { modelPart, featurePart }

/- Read a line of the reference list. -/
def readNavigation
    (v : Json) : Except Defect NavigationEntry := do
  let category ← v.optionalField "category" .null
  let name ← v.required "name"
  let indent ← v.optionalField "indent" (.bool false)
  return { category, name, indent := indent.isTrue }

------------------------------------------------------------
-- Tables
------------------------------------------------------------

/- Read a record of a table. -/
def readRecord (v : Json) : Except Defect Json := do
  let record ← v.toMap
  return .obj (record.entries.map fun e =>
    (Json.fieldName e.1, e.2))

/- Read a table of records. -/
def readTable (v : Json) : Except Defect Json := do
  let rows ← (← v.fields).mapM fun f => do
    return (f.1, ← readRecord f.2)
  return .obj rows

/- Read all enhancement tables. -/
def readTables (v : Json) : Except Defect Json := do
  let tables ← (← v.fields).mapM fun f => do
    return (f.1, ← readTable f.2)
  return .obj tables

------------------------------------------------------------
-- Documents
------------------------------------------------------------

/- The fields that a document must have. -/
def requiredKeys : List String :=
  ["key", "categories", "grammar", "positions",
    "reference_string"]

/- The required fields that a document does not mention. -/
def missingKeys (v : Json) : Except Defect (List String) := do
  let mentioned ← requiredKeys.mapM v.mentions
  return (requiredKeys.zip mentioned).filterMap fun p =>
    if p.2 then none else some p.1

/- Read the elements of a field that may be missing. -/
def readList
    {α : Type}
    (v : Json)
    (name : String)
    (read : Json → Except Defect α) :
    Except Defect (List α) := do
  (← (← v.optionalField name (.arr [])).elements).mapM read

/- Read a document that has all required fields. -/
def readComplete
    (v : Json)
    (key : Json) : Except Fault Configuration := do
  let categories ← Except.mapError (.ofEntry key) do
    (← (← v.required "categories").elements).mapM readCategory
  let catalog ← enterCategories key ∅ categories
  let ranges ← Except.mapError (.ofEntry key) do
    readRanges (← v.required "positions")
  let grammar ← Except.mapError (.ofEntry key) do
    readGrammar (← v.required "grammar")
  let rules ← Except.mapError (.ofEntry key)
    (readList v "rules" Rule.ofJson)
  let navigation ← Except.mapError (.ofEntry key)
    (readList v "navigation" readNavigation)
  Except.mapError .defect do
    let tables ← readTables
      (← v.optionalField "enhancement_tables" (.obj []))
    let title ← v.optionalField "title" key
    let referenceString ← v.required "reference_string"
    let enhancers ←
      (← v.optionalField "enhancers" (.arr [])).elements
    return {
      key, title, catalog
      positions := .ofRanges ranges
      grammar, referenceString, rules, navigation, enhancers
      tables }

/- Read a configuration. -/
def ofJson (v : Json) : Except Fault Configuration := do
  let missing ← Except.mapError .defect (missingKeys v)
  if missing.isEmpty then
    let key ← Except.mapError .defect (v.required "key")
    readComplete v key
  else
    let key ← Except.mapError .defect
      (v.optionalField "key" .null)
    throw (.invalid (missing.map .missingKey) key)

/- Read a configuration from the text of a document. -/
def ofText (s : String) : Except Fault Configuration := do
  ofJson (← Except.mapError .defect (Json.parse s))

end Configuration

end ModelNumber
