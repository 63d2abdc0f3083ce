import ModelNumber.Configuration.Basic
import ModelNumber.Enhancement.Builtin
import ModelNumber.Segment.Split

/-
  This file defines the decoding of a typed model number: it
  is split into segments, each segment is looked up in the
  catalog, enhancers add derived data, and the dependency
  rules are evaluated.

  Key definitions include:
    * `Decoding`
    * `Decoding.isComplete`
    * `Decoding.attribute?`
    * `Configuration.decode`
-/

namespace ModelNumber

------------------------------------------------------------
-- Results
------------------------------------------------------------

/- What a typed model number was decoded to. -/
structure Decoding where
  raw : String
  normalized : String
  modelType : Json
  attributes : List Attribute
  notices : List Notice
  warnings : List Warning
  expectedSegments : Nat

namespace Decoding

/- There is an attribute for each segment of the grammar. -/
def isComplete (d : Decoding) : Bool :=
  d.expectedSegments ≤ d.attributes.length

/- One of the messages is a warning. -/
def hasWarnings (d : Decoding) : Bool :=
  d.warnings.any (·.isWarning)

/- The attribute of a category: the last one. -/
def attribute?
    (d : Decoding)
    (category : Scalar) : Option Attribute :=
  Attribute.last? d.attributes category

end Decoding

------------------------------------------------------------
-- Single segments
------------------------------------------------------------

/- The codes of attributes, by category. -/
def Codes.ofAttributes
    (attributes : List Attribute) : Codes :=
  .ofList (attributes.map fun a => (a.category, .str a.code))

namespace Configuration

/- The attribute of a segment with a category. -/
def attributeOf
    (config : Configuration)
    (category : Scalar)
    (s : Segment) : Attribute :=
  let resolution := config.catalog.resolve category s.code
  { category := category
    code := s.code
    name := resolution.name
    position := resolution.position
    description := resolution.description
    start := s.start
    stop := s.stop }

/- The notice about a segment with a category, if any. -/
def noticeOf
    (config : Configuration)
    (category : Scalar)
    (s : Segment) : Option Notice :=
  let resolution := config.catalog.resolve category s.code
  if !resolution.knownCategory then
    some (.unknownCategory category s.code s.start config.key)
  else if !resolution.knownCode then
    some (.unknownCode category s.code s.start
      resolution.name resolution.position)
  else
    none

------------------------------------------------------------
-- Decoding
------------------------------------------------------------

/- The derived data of attributes, if it is wanted. -/
def enhanced
    (config : Configuration)
    (options : Options)
    (attributes : List Attribute) :
    Except Defect (List Attribute) := do
  if options.enhance then
    Enhancer.runAll (← Enhancer.named config.enhancers)
      config.tables attributes
  else
    return attributes

/- The scope of a model type's own rules. -/
def ruleScope
    (config : Configuration) : Except Defect Rule.Scope := do
  let slots ← config.grammar.categories.mapM Json.key
  return { catalog := some config.catalog, slots := some slots }

/- The warnings about attributes, if they are wanted. -/
def warningsOf
    (config : Configuration)
    (options : Options)
    (attributes : List Attribute) :
    Except Defect (List Warning) := do
  if options.validate then
    Rule.warnings config.rules (← config.ruleScope)
      (Codes.ofAttributes attributes)
  else
    return []

/- Decode a typed model number. -/
def decode
    (config : Configuration)
    (options : Options)
    (text : String) : Except Defect Decoding := do
  let split ← Split.ofText options config.grammar text
  let keyed ← split.mapped.mapM fun m => do
    return (← m.1.key, m.2)
  let unknown :=
    if options.reportUnknown then
      keyed.filterMap fun m => config.noticeOf m.1 m.2
    else
      []
  let attributes ← config.enhanced options
    (keyed.map fun m => config.attributeOf m.1 m.2)
  let warnings ← config.warningsOf options attributes
  return {
    raw := text
    normalized := split.normalized
    modelType := config.key
    attributes := attributes
    notices := split.notices ++ unknown
    warnings := warnings
    expectedSegments := config.grammar.categories.length }

end Configuration

end ModelNumber
