import ModelNumber.Json.Defect
import ModelNumber.Position

/-
  This file defines what can be wrong with a configuration,
  and the faults that reading, loading and decoding end with.

  Key definitions include:
    * `Problem`
    * `Problem.message`
    * `Fault`
    * `Fault.problems`
    * `Fault.message`
-/

namespace ModelNumber

------------------------------------------------------------
-- Problems
------------------------------------------------------------

/- Something wrong with a configuration. -/
inductive Problem where
/- The document lacks a required field. -/
| missingKey (name : String)
/- An entry of the document cannot be read. -/
| malformedEntry (defect : Defect)
/- Two categories have the same id. -/
| duplicateCategory (id : Scalar)
/- A range belongs to no category of the catalog. -/
| positionWithoutCategory (category : Scalar)
/- A range leaves the reference string. -/
| rangeOutside (range : PositionRange) (length : Nat)
/- A range has no characters. -/
| rangeEmpty (category : Scalar)
/- Two ranges overlap and neither of them says so. -/
| undocumentedOverlap (first second : PositionRange)
/- The grammar names a category that the catalog lacks. -/
| unknownGrammarCategory (category : Json)
/- A category of the model part lies after the colon. -/
| mappedAfterColon (category : Json)
/- A category of the feature part lies before the colon. -/
| mappedBeforeColon (category : Json)
/- A range starts before that of the preceding category. -/
| startsEarlier (category : Json) (previous : Scalar)
/- The reference string has too few or too many segments. -/
| segmentCount (found expected : Nat)
/- A code of the reference string is unknown to its category. -/
| invalidReferenceCode (category : Json) (code : String)
/- A range does not cover its segment. -/
| misplacedRange (category : Json) (covered code : String)
/- A rule names a category that the catalog lacks. -/
| unknownRuleCategory (index : Nat) (category : Json)
/- A rule names a category that no segment can fill. -/
| ruleOutsideGrammar (index : Nat) (category : Json)
/- A rule names codes that the category lacks. -/
| undefinedCodes
    (index : Nat) (codes : List Scalar) (category : Json)
/- No enhancer has this name. -/
| unknownEnhancer (name : Json)
/- An enhancer needs a table that is missing. -/
| missingTable (enhancer table : String)
/- An enhancer needs a category that the catalog lacks. -/
| unknownEnhancerCategory
    (enhancer : String) (category : Scalar)
/- No model type has the requested key. -/
| noConfiguration (available : List String)

namespace Problem

/- A text in single quotes. -/
private def marked (s : String) : String :=
  "'" ++ s ++ "'"

/- The bounds of a range. -/
private def bounds (r : PositionRange) : String :=
  "[" ++ toString r.start ++ ", " ++ toString r.stop ++ ")"

/- What a problem says. -/
def message : Problem → String
| .missingKey name => "missing required key " ++ marked name
| .malformedEntry defect => "malformed entry: " ++ defect.label
| .duplicateCategory id =>
    "duplicate category id " ++ marked id.shown
| .positionWithoutCategory category =>
    "position map entry " ++ marked category.shown
      ++ " has no catalog entry"
| .rangeOutside r length =>
    "position range for " ++ marked r.category.shown ++ " "
      ++ bounds r ++ " lies outside the reference string (length "
      ++ toString length ++ ")"
| .rangeEmpty category =>
    "position range for " ++ marked category.shown ++ " is empty"
| .undocumentedOverlap r s =>
    "undocumented overlap between " ++ marked r.category.shown
      ++ " " ++ bounds r ++ " and " ++ marked s.category.shown
      ++ " " ++ bounds s
| .unknownGrammarCategory category =>
    "grammar references unknown category "
      ++ marked category.shown
| .mappedAfterColon category =>
    "model-part category " ++ marked category.shown
      ++ " is mapped after the colon"
| .mappedBeforeColon category =>
    "feature-part category " ++ marked category.shown
      ++ " is mapped before the colon"
| .startsEarlier category previous =>
    "grammar order places " ++ marked category.shown
      ++ " after " ++ marked previous.shown
      ++ " but its position range starts earlier"
| .segmentCount found expected =>
    "reference string has " ++ toString found
      ++ " segments where the grammar expects "
      ++ toString expected
| .invalidReferenceCode category code =>
    "reference string code " ++ marked code
      ++ " is not valid for " ++ marked category.shown
| .misplacedRange category covered code =>
    "position range for " ++ marked category.shown
      ++ " covers " ++ marked covered
      ++ " instead of segment " ++ marked code
| .unknownRuleCategory index category =>
    "rule " ++ toString index
      ++ " references unknown category "
      ++ marked category.shown
| .ruleOutsideGrammar index category =>
    "rule " ++ toString index ++ " references category "
      ++ marked category.shown ++ " that is not in the grammar"
| .undefinedCodes index codes category =>
    "rule " ++ toString index ++ " uses codes "
      ++ Scalar.writtenList codes ++ " not defined for "
      ++ marked category.shown
| .unknownEnhancer name =>
    "unknown enhancer " ++ marked name.shown
| .missingTable enhancer table =>
    "enhancer " ++ marked enhancer ++ " needs missing table "
      ++ marked table
| .unknownEnhancerCategory enhancer category =>
    "enhancer " ++ marked enhancer
      ++ " references unknown category " ++ marked category.shown
| .noConfiguration available =>
    "no configuration found (available: "
      ++ ", ".intercalate available ++ ")"

end Problem

------------------------------------------------------------
-- Faults
------------------------------------------------------------

/- What an operation ends with instead of a result. -/
inductive Fault where
/- A value is not what it has to be. -/
| defect (defect : Defect)
/- A configuration has problems. -/
| invalid (problems : List Problem) (key : Json)
/- No model type has the key. -/
| unknownModelType (key : String) (available : List String)

namespace Fault

/- The problems behind a fault. -/
def problems : Fault → List Problem
| .defect _ => []
| .invalid problems _ => problems
| .unknownModelType _ available => [.noConfiguration available]

/- The key of the configuration that a fault is about. -/
def key : Fault → Json
| .defect _ => .null
| .invalid _ key => key
| .unknownModelType key _ => key

/- The start of a message about a configuration. -/
private def opening (key : Json) : String :=
  if key.isTrue then
    "Invalid configuration for model type '" ++ key.shown ++ "'"
  else
    "Invalid configuration"

/- The text that goes with a fault, if there is one. -/
def message? : Fault → Option String
| .defect d => d.message?
| fault =>
    some (opening fault.key ++ ": "
      ++ "; ".intercalate (fault.problems.map Problem.message))

/- A defect in reading the entries of a keyed document. -/
def ofEntry
    (key : Json)
    (d : Defect) : Fault :=
  if d.isOfEntry then
    .invalid [.malformedEntry d] key
  else
    .defect d

end Fault

end ModelNumber
