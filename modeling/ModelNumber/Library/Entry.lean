import ModelNumber.Configuration.Basic

/-
  This file defines short forms for writing configurations
  down: all names and codes in them are texts.

  Key definitions include:
    * `Category.ofCodes`
    * `PositionMap.ofBounds`
    * `Grammar.ofNames`
    * `CodeSet.ofTexts`
    * `Condition.ofCodes`
    * `NavigationEntry.heading`
    * `NavigationEntry.item`
    * `Library.table`
-/

namespace ModelNumber

/- A category with its codes and their descriptions. -/
def Category.ofCodes
    (id name position group : String)
    (codes : List (String × String)) : Category where
  id := id
  name := name
  position := position
  group := group
  codes := .ofList (codes.map fun c => (.str c.1, .str c.2))

/- A position map from bounds, without shared characters. -/
def PositionMap.ofBounds
    (bounds : List (String × Int × Int)) : PositionMap :=
  .ofRanges (bounds.map fun b =>
    { category := b.1
      start := b.2.1
      stop := b.2.2
      sharedWith := [] })

/- A grammar from the names of categories. -/
def Grammar.ofNames
    (modelPart featurePart : List String) : Grammar where
  modelPart := modelPart.map Json.str
  featurePart := featurePart.map Json.str

/- A set of codes that are texts. -/
def CodeSet.ofTexts (codes : List String) : CodeSet :=
  .ofList (codes.map Scalar.str)

/- A condition on codes that are texts. -/
def Condition.ofCodes
    (category : String)
    (codes : List String) : Condition where
  category := category
  codes := .ofTexts codes

/- A heading of the reference list. -/
def NavigationEntry.heading (name : String) : NavigationEntry where
  category := .null
  name := name
  indent := false

/- A category in the reference list, below its heading. -/
def NavigationEntry.item
    (category name : String) : NavigationEntry where
  category := category
  name := name
  indent := true

/- A table of records of whole numbers. -/
def Library.table
    (rows : List (String × List (String × Int))) : Json :=
  .obj (rows.map fun row =>
    (row.1, .obj (row.2.map fun f => (f.1, .int f.2))))

end ModelNumber
