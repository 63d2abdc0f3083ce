import ModelNumber.Attribute
import ModelNumber.Json.Convert

/-
  This file defines enhancers. An enhancer derives a suffix
  from the decoded attributes and a model type's tables, and
  appends it to the description of the last attribute of the
  category that it writes. A suffix that a description already
  ends with is not appended again.

  Key definitions include:
    * `Enhancer`
    * `Enhancer.suffix`
    * `Attribute.append`
    * `Enhancer.run`
    * `Enhancer.runAll`
-/

namespace ModelNumber

/-
  A step of enhancement: the categories it looks at, the
  category it writes, the tables it needs, and the derivation
  of a suffix, which may find that there is none.
-/
structure Enhancer where
  name : String
  reads : List String
  writes : Scalar
  tables : List String
  derive :
    OrderedMap Scalar Attribute → Json →
      Except Defect (Option String)

/-
  Append a suffix to a description, after a space, unless the
  description ends like this already.
-/
def Attribute.append
    (a : Attribute)
    (suffix : String) : Except Defect Attribute :=
  match a.description with
  | .str description =>
      let ending := " " ++ suffix
      if ending.toList.isSuffixOf description.toList then
        .ok a
      else
        .ok { a with description := .str (description ++ ending) }
  | _ => .error .unsupported

namespace Enhancer

/- The suffix that an enhancer derives. It is not empty. -/
def suffix
    (e : Enhancer)
    (attributes : List Attribute)
    (tables : Json) : Except Defect (Option String) := do
  let derived ←
    e.derive (Attribute.byCategory attributes) tables
  return derived.filter (!·.isEmpty)

/- Run one enhancer. -/
def run
    (tables : Json)
    (attributes : List Attribute)
    (e : Enhancer) : Except Defect (List Attribute) := do
  match splitLast? (·.category == e.writes) attributes with
  | none => return attributes
  | some (before, target, after) =>
      match ← e.suffix attributes tables with
      | none => return attributes
      | some suffix =>
          return before ++ (← target.append suffix) :: after

/-
  Run enhancers in order. Each one sees the descriptions that
  the ones before it have written.
-/
def runAll
    (enhancers : List Enhancer)
    (tables : Json)
    (attributes : List Attribute) :
    Except Defect (List Attribute) :=
  enhancers.foldlM (run tables) attributes

end Enhancer

end ModelNumber
