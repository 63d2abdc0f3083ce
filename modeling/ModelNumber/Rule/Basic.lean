import ModelNumber.Catalog
import ModelNumber.Rule.CodeSet

/-
  This file defines dependency rules and their evaluation
  against the codes that have been entered.

  A restriction warns when its affected category carries a
  code outside the valid ones, an informational rule always
  speaks, and an enablement advertises its codes until one of
  them is chosen. A category that has not been entered is
  never warned about.

  Key definitions include:
    * `RuleKind`
    * `Condition`
    * `Rule`
    * `Codes`
    * `Rule.triggered`
    * `Rule.evaluate`
    * `Warning`
    * `Rule.warnings`
-/

namespace ModelNumber

------------------------------------------------------------
-- Rules
------------------------------------------------------------

/- What a rule does once it is triggered. -/
inductive RuleKind where
| restriction
| informational
| enablement
deriving DecidableEq, Repr

/- The name of a kind of rules. -/
def RuleKind.name : RuleKind → String
| .restriction => "restriction"
| .informational => "informational"
| .enablement => "enablement"

/- Holds when the category has one of the codes. -/
structure Condition where
  category : Json
  codes : CodeSet

/-
  A dependency rule. It is triggered by its condition together
  with its second condition, if it has one, and speaks about
  the category that it affects.
-/
structure Rule where
  kind : RuleKind
  condition : Condition
  secondCondition : Option Condition
  affects : Json
  validCodes : CodeSet
  message : Json
  hint : Json

namespace Rule

/- All conditions, in order. -/
def conditions (r : Rule) : List Condition :=
  r.condition :: r.secondCondition.toList

/-
  The categories of the conditions, and the affected category
  unless it is one of them.
-/
def categories (r : Rule) : List Json :=
  let involved := r.conditions.map Condition.category
  if involved.any r.affects.same then
    involved
  else
    involved ++ [r.affects]

/- The categories of a rule, each with the codes it names. -/
def codeReferences (r : Rule) : List (Json × CodeSet) :=
  r.conditions.map (fun c => (c.category, c.codes))
    ++ [(r.affects, r.validCodes)]

end Rule

------------------------------------------------------------
-- Entered codes
------------------------------------------------------------

/-
  The code of each category. An absent code is the same as no
  entry.
-/
abbrev Codes :=
  OrderedMap Scalar Scalar

/- The code of a category, if one has been entered. -/
def Codes.entered
    (codes : Codes)
    (category : Json) : Except Defect (Option Scalar) := do
  match codes.get? (← category.key) with
  | some .null => return none
  | found => return found

/- The category has one of the codes of a condition. -/
def Condition.holds
    (c : Condition)
    (codes : Codes) : Except Defect Bool := do
  match ← codes.entered c.category with
  | some code => return c.codes.contains code
  | none => return false

------------------------------------------------------------
-- Evaluation
------------------------------------------------------------

/- How serious the outcome of a rule is. -/
inductive Severity where
| warning
| info
deriving DecidableEq, Repr

/- The name of a severity. -/
def Severity.name : Severity → String
| .warning => "WARNING"
| .info => "INFO"

/- A warning or a note produced by a rule. -/
structure Warning where
  severity : Severity
  message : Json
  hint : Json
  categories : List Json
  kind : RuleKind

/- A warning proper, and not a note. -/
def Warning.isWarning (w : Warning) : Bool :=
  w.severity == .warning

namespace Rule

/- All conditions of a rule hold. -/
def triggered
    (r : Rule)
    (codes : Codes) : Except Defect Bool := do
  if ← r.condition.holds codes then
    match r.secondCondition with
    | some second => second.holds codes
    | none => return true
  else
    return false

/- A triggered rule speaks, given the affected code. -/
def speaks
    (r : Rule)
    (affected : Option Scalar) : Bool :=
  match r.kind, affected with
  | .restriction, some code => !r.validCodes.contains code
  | .restriction, none => false
  | .informational, _ => true
  | .enablement, some code => !r.validCodes.contains code
  | .enablement, none => true

/- What a rule says when it speaks. -/
def warning (r : Rule) : Warning where
  severity :=
    match r.kind with
    | .restriction => .warning
    | _ => .info
  message := r.message
  hint := r.hint
  categories := r.categories
  kind := r.kind

/- What a triggered rule says, if it speaks. -/
def evaluate
    (r : Rule)
    (codes : Codes) : Except Defect (Option Warning) := do
  let affected ← codes.entered r.affects
  return if r.speaks affected then some r.warning else none

/-
  Where rules are looked at: with a catalog, or with the
  categories of a grammar, a rule that names any other
  category is skipped.
-/
structure Scope where
  catalog : Option Catalog
  slots : Option (List Scalar)

/- The scope in which no rule is skipped. -/
def Scope.all : Scope where
  catalog := none
  slots := none

/- All categories of a rule satisfy a test on keys. -/
def allCategories
    (r : Rule)
    (test : Scalar → Bool) : Except Defect Bool := do
  let keys ← r.categories.mapM Json.key
  return keys.all test

/- A rule is looked at in a scope. -/
def inScope
    (r : Rule)
    (scope : Scope) : Except Defect Bool := do
  let known ←
    match scope.catalog with
    | some catalog => r.allCategories catalog.contains
    | none => pure true
  if known then
    match scope.slots with
    | some slots =>
        r.allCategories fun c => slots.any (· == c)
    | none => return true
  else
    return false

/- What a rule contributes in a scope. -/
def outcome
    (r : Rule)
    (scope : Scope)
    (codes : Codes) : Except Defect (Option Warning) := do
  if ← r.inScope scope then
    if ← r.triggered codes then
      r.evaluate codes
    else
      return none
  else
    return none

/- The warnings and notes of rules, in the order of the rules. -/
def warnings
    (rules : List Rule)
    (scope : Scope)
    (codes : Codes) : Except Defect (List Warning) := do
  let outcomes ← rules.mapM (·.outcome scope codes)
  return outcomes.filterMap id

end Rule

end ModelNumber
