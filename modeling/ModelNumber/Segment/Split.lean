import ModelNumber.Segment.Normal
import ModelNumber.Segment.Notice
import ModelNumber.Segment.Token

/-
  This file defines how a typed model number is split into
  segments. Hyphens separate the segments of the model part,
  which ends at the first colon, and hyphens and further
  colons those of the feature part. The grammar gives the
  segments of each part their categories, in order.

  Key definitions include:
    * `Segment`
    * `Split`
    * `Split.ofNormal`
    * `Split.ofText`
    * `Split.mapped`
    * `Split.pairs`
-/

namespace ModelNumber

/-
  A segment of a model number and its place in the normal
  form. A segment beyond the grammar has no category.
-/
structure Segment where
  code : String
  part : Part
  start : Nat
  stop : Nat
  category : Option Json

/- The segments of a text and the notices about them. -/
structure Split where
  normalized : String
  segments : List Segment
  notices : List Notice

------------------------------------------------------------
-- Separators
------------------------------------------------------------

/- What separates the segments of a part. -/
def Part.isSeparator : Part → Char → Bool
| .model, c => c == '-'
| .feature, c => c == '-' || c == ':'

/- The model part of a normal form: all before the first colon. -/
def Text.modelPart (s : List Char) : List Char :=
  s.takeWhile (· != ':')

/- The feature part of a normal form, if it has a colon. -/
def Text.featurePart? (s : List Char) : Option (List Char) :=
  match s.dropWhile (· != ':') with
  | [] => none
  | _ :: rest => some rest

------------------------------------------------------------
-- Segments of a part
------------------------------------------------------------

/- A category from a grammar. The absent value is none. -/
def slotCategory : Json → Option Json
| .null => none
| v => some v

/- A token as a segment of a part. -/
def segmentOfToken
    (part : Part)
    (category : Option Json)
    (t : Token) : Segment where
  code := String.ofList t.code
  part := part
  start := t.start
  stop := t.stop
  category := category

/- Give the tokens of a part their categories, in order. -/
def Part.segments
    (part : Part) : List Json → List Token → List Segment
| _, [] => []
| [], t :: rest =>
    segmentOfToken part none t :: part.segments [] rest
| slot :: slots, t :: rest =>
    segmentOfToken part (slotCategory slot) t
      :: part.segments slots rest

/- The notices about tokens beyond the categories of a part. -/
def Part.surplus
    (part : Part)
    (slots : List Json)
    (tokens : List Token) : List Notice :=
  (tokens.drop slots.length).map fun t =>
    .unrecognizedSegment part (String.ofList t.code) t.start
      slots.length

------------------------------------------------------------
-- Splitting
------------------------------------------------------------

namespace Split

/- The notice about a second colon, if there is one. -/
def laterColon
    (offset : Nat)
    (feature : List Char) : List Notice :=
  match feature.findIdx? (· == ':') with
  | some i => [.malformedSeparator (offset + i)]
  | none => []

/- Split a text that is in normal form. -/
def ofNormal
    (g : Grammar)
    (s : List Char) : Split :=
  let model := Text.modelPart s
  let modelTokens := Token.scan (Part.isSeparator .model) 0 model
  let modelSegments := Part.model.segments g.modelPart modelTokens
  let modelNotices := Part.model.surplus g.modelPart modelTokens
  match Text.featurePart? s with
  | none =>
      { normalized := String.ofList s
        segments := modelSegments
        notices := modelNotices }
  | some feature =>
      let offset := model.length + 1
      let tokens :=
        Token.scan (Part.isSeparator .feature) offset feature
      { normalized := String.ofList s
        segments := modelSegments
          ++ Part.feature.segments g.featurePart tokens
        notices := modelNotices ++ laterColon offset feature
          ++ Part.feature.surplus g.featurePart tokens }

/- Split a typed model number. -/
def ofText
    (options : Options)
    (g : Grammar)
    (text : String) : Except Defect Split := do
  let normalized ← options.normalize text
  return ofNormal g normalized.toList

/- The segments that have a category. -/
def mapped (s : Split) : List (Json × Segment) :=
  s.segments.filterMap fun seg =>
    seg.category.map fun category => (category, seg)

/- The segments that have no category. -/
def unmapped (s : Split) : List Segment :=
  s.segments.filter (·.category.isNone)

/- The categories and codes of the mapped segments, in order. -/
def pairs (s : Split) : List (Json × String) :=
  s.mapped.map fun m => (m.1, m.2.code)

end Split

end ModelNumber
