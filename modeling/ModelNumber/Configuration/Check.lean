import ModelNumber.Configuration.Basic
import ModelNumber.Configuration.Problem
import ModelNumber.Enhancement.Builtin
import ModelNumber.Segment.Split

/-
  This file defines the check of a configuration: that its
  position map fits the reference string, that the grammar
  agrees with both, and that rules and enhancers only refer to
  what the configuration has.

  Key definitions include:
    * `Configuration.checkPositions`
    * `Configuration.checkGrammar`
    * `Configuration.checkRules`
    * `Configuration.checkEnhancers`
    * `Configuration.check`
-/

namespace ModelNumber

namespace Configuration

/- A problem unless a condition is met. -/
def problemUnless
    (ok : Bool)
    (problem : Problem) : List Problem :=
  if ok then [] else [problem]

/- A category of any type is in the catalog. -/
def hasCategory
    (c : Configuration)
    (category : Json) : Except Defect Bool := do
  return c.catalog.contains (← category.key)

------------------------------------------------------------
-- Positions
------------------------------------------------------------

/- The length of the reference string. -/
def referenceLength (c : Configuration) : Except Defect Nat :=
  match c.referenceString with
  | .str s => .ok s.length
  | .arr items => .ok items.length
  | .obj fields => .ok fields.length
  | _ => .error .mistyped

/- The problems of a single range. -/
def checkRange
    (c : Configuration)
    (length : Nat)
    (r : PositionRange) : List Problem :=
  problemUnless (c.catalog.contains r.category)
      (.positionWithoutCategory r.category)
    ++ problemUnless (0 ≤ r.start && r.stop ≤ length)
      (.rangeOutside r length)
    ++ problemUnless (r.start < r.stop) (.rangeEmpty r.category)

/- The problem of two ranges, if there is one. -/
def checkOverlap (r s : PositionRange) : List Problem :=
  problemUnless
    (!r.overlaps s || r.documents s.category
      || s.documents r.category)
    (.undocumentedOverlap r s)

/- The problems of each range with those that come after it. -/
def checkOverlaps : List PositionRange → List Problem
| [] => []
| r :: rest =>
    rest.flatMap (checkOverlap r) ++ checkOverlaps rest

/- The problems of the position map. -/
def checkPositions
    (c : Configuration) : Except Defect (List Problem) := do
  let length ← c.referenceLength
  let ranges := c.positions.ranges
  return ranges.flatMap (c.checkRange length)
    ++ checkOverlaps ranges

------------------------------------------------------------
-- Grammar
------------------------------------------------------------

/- The characters of the reference string. -/
def referenceText
    (c : Configuration) : Except Defect (List Char) :=
  match c.referenceString with
  | .str s => .ok s.toList
  | _ => .error .unsupported

/- The problems of the categories that a grammar names. -/
def checkCategories
    (c : Configuration) : Except Defect (List Problem) := do
  let problems ← c.grammar.categories.mapM fun category => do
    return problemUnless (← c.hasCategory category)
      (.unknownGrammarCategory category)
  return problems.flatten

/-
  The problem of a range on the wrong side of the colon, if
  there is a colon.
-/
def checkSide
    (part : Part)
    (colon : Option Nat)
    (category : Json)
    (r : PositionRange) : List Problem :=
  match part, colon with
  | _, none => []
  | .model, some colon =>
      problemUnless (r.stop ≤ colon) (.mappedAfterColon category)
  | .feature, some colon =>
      problemUnless (colon < r.start) (.mappedBeforeColon category)

/-
  The problems of the order of ranges along a part, given the
  range of the last category that has one.
-/
def checkOrder
    (positions : PositionMap)
    (part : Part)
    (colon : Option Nat) :
    Option PositionRange → List Json →
      Except Defect (List Problem)
| _, [] => .ok []
| previous, category :: rest => do
    match positions.get? (← category.key) with
    | none => checkOrder positions part colon previous rest
    | some r =>
        let order :=
          match previous with
          | some p =>
              problemUnless (p.start ≤ r.start)
                (.startsEarlier category p.category)
          | none => []
        let problems ←
          checkOrder positions part colon (some r) rest
        return checkSide part colon category r ++ order ++ problems

/- The problems of a segment of the reference string. -/
def checkSegment
    (c : Configuration)
    (reference : List Char)
    (category : Json)
    (code : List Char) : Except Defect (List Problem) := do
  let key ← category.key
  let text := String.ofList code
  let known :=
    match c.catalog.get? key with
    | some definition => definition.codes.contains (.str text)
    | none => true
  let place :=
    match c.positions.get? key with
    | some r =>
        let covered := Text.slice reference r.start r.stop
        problemUnless (!r.sharedWith.isEmpty || covered == code)
          (.misplacedRange category (String.ofList covered) text)
    | none => []
  return problemUnless known (.invalidReferenceCode category text)
    ++ place

/- The problems of one part of the reference string. -/
def checkReference
    (c : Configuration)
    (reference : List Char)
    (slots : List Json)
    (text : List Char) : Except Defect (List Problem) := do
  let segments :=
    (Text.chunks (· == '-') text).filter (!·.isEmpty)
  let problems ← (slots.zip segments).mapM fun p =>
    c.checkSegment reference p.1 p.2
  return problemUnless (segments.length == slots.length)
      (.segmentCount segments.length slots.length)
    ++ problems.flatten

/- The problems of the grammar. -/
def checkGrammar
    (c : Configuration) : Except Defect (List Problem) := do
  let reference ← c.referenceText
  let colon := reference.findIdx? (· == ':')
  let categories ← c.checkCategories
  let modelOrder ← checkOrder c.positions .model colon none
    c.grammar.modelPart
  let featureOrder ← checkOrder c.positions .feature colon none
    c.grammar.featurePart
  let model ← c.checkReference reference c.grammar.modelPart
    (Text.modelPart reference)
  let feature ← c.checkReference reference c.grammar.featurePart
    ((Text.featurePart? reference).getD [])
  return categories ++ modelOrder ++ featureOrder ++ model
    ++ feature

------------------------------------------------------------
-- Rules
------------------------------------------------------------

/- The problem of a category that a rule names, if any. -/
def checkRuleCategory
    (c : Configuration)
    (index : Nat)
    (slots : List Scalar)
    (category : Json) : Except Defect (List Problem) := do
  let key ← category.key
  if c.catalog.contains key then
    return problemUnless (slots.any (· == key))
      (.ruleOutsideGrammar index category)
  else
    return [.unknownRuleCategory index category]

/- The problem of the codes that a rule names, if any. -/
def checkRuleCodes
    (c : Configuration)
    (index : Nat)
    (category : Json)
    (codes : CodeSet) : Except Defect (List Problem) := do
  match c.catalog.get? (← category.key) with
  | none => return []
  | some definition =>
      let unknown ← CodeSet.sortedMembers
        (codes.without definition.codes.keys)
      return problemUnless unknown.isEmpty
        (.undefinedCodes index unknown category)

/- The problems of a rule. -/
def checkRule
    (c : Configuration)
    (slots : List Scalar)
    (rule : Rule)
    (index : Nat) : Except Defect (List Problem) := do
  let categories ← rule.categories.mapM
    (c.checkRuleCategory index slots)
  let codes ← rule.codeReferences.mapM fun reference =>
    c.checkRuleCodes index reference.1 reference.2
  return categories.flatten ++ codes.flatten

/- The problems of the rules. -/
def checkRules
    (c : Configuration) : Except Defect (List Problem) := do
  let slots ← c.grammar.categories.mapM Json.key
  let problems ← c.rules.zipIdx.mapM fun p =>
    c.checkRule slots p.1 p.2
  return problems.flatten

------------------------------------------------------------
-- Enhancers
------------------------------------------------------------

/- The problems of an enhancer. -/
def checkEnhancer
    (c : Configuration)
    (e : Enhancer) : List Problem :=
  e.tables.flatMap (fun table =>
      problemUnless (c.tables.field? table).isSome
        (.missingTable e.name table))
    ++ (e.reads.map Scalar.str ++ [e.writes]).flatMap
      fun category =>
        problemUnless (c.catalog.contains category)
          (.unknownEnhancerCategory e.name category)

/- The problems of the enhancers. -/
def checkEnhancers
    (c : Configuration) : Except Defect (List Problem) := do
  let problems ← c.enhancers.mapM fun name => do
    match Enhancer.find? (← name.key) with
    | none => return [.unknownEnhancer name]
    | some e => return c.checkEnhancer e
  return problems.flatten

------------------------------------------------------------
-- The whole check
------------------------------------------------------------

/- The problems of a configuration. A sound one has none. -/
def check
    (c : Configuration) : Except Defect (List Problem) := do
  let positions ← c.checkPositions
  let grammar ← c.checkGrammar
  let rules ← c.checkRules
  let enhancers ← c.checkEnhancers
  return positions ++ grammar ++ rules ++ enhancers

end Configuration

end ModelNumber
