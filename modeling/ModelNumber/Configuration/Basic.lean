import ModelNumber.Catalog
import ModelNumber.Grammar
import ModelNumber.Position
import ModelNumber.Rule.Basic

/-
  This file defines the configuration of a model type: all
  that is needed to decode, check, search and show its model
  numbers.

  Key definitions include:
    * `NavigationEntry`
    * `Configuration`
-/

namespace ModelNumber

/-
  A line of the reference list: a category, or a heading in
  its absence.
-/
structure NavigationEntry where
  category : Json
  name : Json
  indent : Bool

/-
  The configuration of a model type. The reference string is a
  complete model number, to which the position map refers.
-/
structure Configuration where
  key : Json
  title : Json
  catalog : Catalog
  positions : PositionMap
  grammar : Grammar
  referenceString : Json
  rules : List Rule
  navigation : List NavigationEntry
  enhancers : List Json
  tables : Json

end ModelNumber
