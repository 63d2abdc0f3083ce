import ModelNumber.Rule.Basic

/-
  This file defines the records in which rules are kept. The
  kind of a rule is carried by two flags, and a second
  condition stands in a field of its own.

  Key definitions include:
    * `Condition.ofJson`
    * `Condition.toJson`
    * `Rule.ofJson`
    * `Rule.toJson`
    * `Rule.same`
-/

namespace ModelNumber

------------------------------------------------------------
-- Conditions
------------------------------------------------------------

namespace Condition

/- Read a condition. -/
def ofJson (v : Json) : Except Defect Condition := do
  let category ← v.required "category"
  let codes ← CodeSet.ofJson (← v.required "codes")
  return { category, codes }

/- Write a condition, with its codes in order. -/
def toJson (c : Condition) : Except Defect Json := do
  let codes ← c.codes.sorted
  return .obj
    [("category", c.category),
      ("codes", .arr (codes.map Json.scalar))]

/- Conditions are the same field by field. -/
def same (c d : Condition) : Bool :=
  c.category.same d.category && c.codes == d.codes

end Condition

------------------------------------------------------------
-- Rules
------------------------------------------------------------

namespace Rule

/- The kind of a rule by its two flags. -/
def kindOfFlags
    (info enables : Bool) : RuleKind :=
  if info then
    .informational
  else if enables then
    .enablement
  else
    .restriction

/- Read a second condition, unless its field counts as false. -/
def readSecond
    (v : Json) : Except Defect (Option Condition) := do
  if v.isTrue then
    return some (← Condition.ofJson v)
  else
    return none

/- Read a rule. Both flags at once are refused. -/
def ofJson (v : Json) : Except Defect Rule := do
  let info := (← v.optionalField "info" (.bool false)).isTrue
  let enables :=
    (← v.optionalField "enables" (.bool false)).isTrue
  if info && enables then
    throw (.conflictingFlags (← v.optionalField "affects" .null))
  let second ← v.optionalField "and" .null
  let condition ← Condition.ofJson (← v.required "condition")
  let secondCondition ← readSecond second
  let affects ← v.required "affects"
  let validCodes ←
    CodeSet.ofJson (← v.optionalField "valid_codes" (.arr []))
  let message ← v.required "message"
  let hint ← v.optionalField "hint" ""
  return {
    kind := kindOfFlags info enables
    condition, secondCondition, affects, validCodes, message
    hint }

/- The flag of a kind of rules. -/
def flag : RuleKind → List (String × Json)
| .restriction => []
| .informational => [("info", .bool true)]
| .enablement => [("enables", .bool true)]

/- Write a rule, with all codes in order. -/
def toJson (r : Rule) : Except Defect Json := do
  let condition ← r.condition.toJson
  let validCodes ← r.validCodes.sorted
  let second ← r.secondCondition.toList.mapM fun c => do
    return ("and", ← c.toJson)
  return .obj
    ([("condition", condition),
        ("affects", r.affects),
        ("valid_codes", .arr (validCodes.map Json.scalar)),
        ("message", r.message),
        ("hint", r.hint)]
      ++ second ++ flag r.kind)

/- Rules are the same field by field. -/
def same (r s : Rule) : Bool :=
  r.kind == s.kind
    && r.condition.same s.condition
    && (match r.secondCondition, s.secondCondition with
      | some c, some d => c.same d
      | none, none => true
      | _, _ => false)
    && r.affects.same s.affects
    && r.validCodes == s.validCodes
    && r.message.same s.message
    && r.hint.same s.hint

end Rule

end ModelNumber
