import ModelNumber.Attribute
import ModelNumber.Json.Convert
import ModelNumber.Position

/-
  This file defines the highlighting of model numbers: which
  characters belong to the chosen categories, which separate
  segments, and which are plain.

  Key definitions include:
    * `MarkKind`
    * `Mark`
    * `Highlight.indices` and `Highlight.covers`
    * `Highlight.marks`
    * `Highlight.render`
    * `Highlight.renderValue`
    * `Highlight.markerLine`
    * `PositionMap.ofAttributes`
-/

namespace ModelNumber

------------------------------------------------------------
-- Marks
------------------------------------------------------------

/- How a character is shown. -/
inductive MarkKind where
| highlighted
| separator
| plain
deriving DecidableEq, Repr

/- The name of a kind of marks. -/
def MarkKind.name : MarkKind → String
| .highlighted => "highlighted"
| .separator => "separator"
| .plain => "plain"

/- A character, its place, and how it is shown. -/
structure Mark where
  index : Nat
  char : Char
  kind : MarkKind
deriving DecidableEq, Repr

/-
  Where each attribute stands in its text. Of several with the
  same category the last one counts.
-/
def PositionMap.ofAttributes
    (attributes : List Attribute) : PositionMap :=
  .ofRanges (attributes.map fun a =>
    { category := a.category
      start := a.start
      stop := a.stop
      sharedWith := [] })

namespace Highlight

------------------------------------------------------------
-- Positions of categories
------------------------------------------------------------

/- The ranges of the categories that have one. -/
def ranges
    (positions : PositionMap)
    (categories : List Scalar) : List PositionRange :=
  categories.filterMap positions.get?

/- Drop repetitions from a list in order. -/
private def distinctInOrder : List Int → List Int
| [] => []
| [i] => [i]
| i :: j :: rest =>
    if i = j then
      distinctInOrder (j :: rest)
    else
      i :: distinctInOrder (j :: rest)

/- The positions of all categories together, in order. -/
def indices
    (positions : PositionMap)
    (categories : List Scalar) : List Int :=
  let all :=
    (ranges positions categories).flatMap PositionRange.indices
  distinctInOrder (all.mergeSort fun i j => decide (i ≤ j))

/- A position lies in the range of one of the categories. -/
def covers
    (positions : PositionMap)
    (categories : List Scalar)
    (i : Int) : Bool :=
  (ranges positions categories).any fun r =>
    r.start ≤ i && i < r.stop

/- Dropping repetitions keeps every member. -/
private theorem mem_distinctInOrder_iff
    {is : List Int}
    {i : Int} :
    i ∈ distinctInOrder is ↔ i ∈ is := by
  induction is using distinctInOrder.induct with
  | case1 => rfl
  | case2 j => rfl
  | case3 j rest ih =>
      rw [distinctInOrder, if_pos rfl, ih]
      simp
  | case4 j k rest hNe ih =>
      rw [distinctInOrder, if_neg hNe, List.mem_cons, ih,
        ← List.mem_cons]

/- The positions of all categories are the covered ones. -/
theorem mem_indices_iff
    {positions : PositionMap}
    {categories : List Scalar}
    {i : Int} :
    i ∈ indices positions categories ↔
      covers positions categories i = true := by
  rw [indices, mem_distinctInOrder_iff, List.mem_mergeSort,
    List.mem_flatMap, covers, List.any_eq_true]
  simp only [PositionRange.mem_indices_iff, Bool.and_eq_true,
    decide_eq_true_eq]

------------------------------------------------------------
-- Rendering
------------------------------------------------------------

/- Hyphens and colons separate segments. -/
def isSeparator (c : Char) : Bool :=
  c == '-' || c == ':'

/- How a character is shown. Highlighting comes first. -/
def kind
    (highlighted : Bool)
    (c : Char) : MarkKind :=
  if highlighted then
    .highlighted
  else if isSeparator c then
    .separator
  else
    .plain

/- Mark the characters of a text. -/
def marks
    (text : List Char)
    (positions : PositionMap)
    (categories : List Scalar) : List Mark :=
  text.zipIdx.map fun p =>
    { index := p.2
      char := p.1
      kind := kind (covers positions categories p.2) p.1 }

/- Mark the characters of a text, for categories of any type. -/
def render
    (text : String)
    (positions : PositionMap)
    (categories : List Json) : Except Defect (List Mark) := do
  let keys ← categories.mapM Json.key
  return marks text.toList positions keys

/- Mark the characters of a value that has to be a text. -/
def renderValue
    (shown : Json)
    (positions : PositionMap)
    (categories : List Json) : Except Defect (List Mark) :=
  match shown with
  | .str text => render text positions categories
  | _ => .error .mistyped

/-
  A line to stand below the text, with a marker under each
  highlighted character and no blanks at its end.
-/
def markerLine
    (ms : List Mark)
    (marker : String) : String :=
  let cells := ms.flatMap fun m =>
    if m.kind = .highlighted then marker.toList else [' ']
  String.ofList (Text.trimEnd cells)

end Highlight

end ModelNumber
