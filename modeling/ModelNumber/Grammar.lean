import ModelNumber.Json.Basic

/-
  This file defines the segment grammar of a model type: which
  category each segment of a model number belongs to.

  Key definitions include:
    * `Part`
    * `Grammar`
    * `Grammar.slots`
    * `Grammar.categories`
-/

namespace ModelNumber

/-
  A model number has a model part and, after the first colon, a
  feature part.
-/
inductive Part where
| model
| feature
deriving DecidableEq, Repr

/- The name of a part. -/
def Part.name : Part → String
| .model => "model"
| .feature => "feature"

/- The categories of the segments of each part, in order. -/
structure Grammar where
  modelPart : List Json
  featurePart : List Json

namespace Grammar

/- The categories of one part. -/
def slots (g : Grammar) : Part → List Json
| .model => g.modelPart
| .feature => g.featurePart

/- The categories of both parts. -/
def categories (g : Grammar) : List Json :=
  g.modelPart ++ g.featurePart

end Grammar

end ModelNumber
