import ModelNumber.Catalog
import ModelNumber.Json.Defect
import ModelNumber.Text.Basic
import ModelNumber.Text.Blank
import ModelNumber.Text.CaseFold

/-
  This file defines the search for codes by what they mean: a
  code is found when its description or the name of its
  category contains the query, in any letter case. A blank
  query finds nothing.

  Key definitions include:
    * `Match`
    * `Catalog.needle`
    * `Category.search`
    * `Catalog.search`
-/

namespace ModelNumber

/- A code that was found. -/
structure Match where
  category : Scalar
  code : Scalar
  position : Json
  name : Json
  description : Json

/- The characters of a text, folded. -/
def foldedText : Json → Except Defect (List Char)
| .str s => .ok (CaseMap.caseFold.apply s.toList)
| _ => .error .unsupported

namespace Category

/- The match for a code of a category. -/
def matchOf
    (c : Category)
    (code : Scalar × Json) : Match where
  category := c.id
  code := code.1
  position := c.position
  name := c.name
  description := code.2

/- The codes of a category whose text contains a needle. -/
def search
    (needle : List Char)
    (c : Category) : Except Defect (List Match) := do
  let byName := Text.occursIn needle (← foldedText c.name)
  let found ← c.codes.entries.mapM fun code => do
    if byName then
      return [c.matchOf code]
    else if Text.occursIn needle (← foldedText code.2) then
      return [c.matchOf code]
    else
      return []
  return found.flatten

end Category

namespace Catalog

/- What is looked for: the query, trimmed and folded. -/
def needle (query : String) : List Char :=
  CaseMap.caseFold.apply (Text.trim query.toList)

/- The codes found for a query, in the order of the catalog. -/
def search
    (catalog : Catalog)
    (query : String) : Except Defect (List Match) := do
  let needle := needle query
  if needle.isEmpty then
    return []
  else
    let found ← catalog.categories.mapM (Category.search needle)
    return found.flatten

end Catalog

end ModelNumber
