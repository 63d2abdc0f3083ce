import ModelNumber.Json.Basic

/-
  This file defines the position map of a model type: which
  characters of a model number belong to which category.

  Key definitions include:
    * `PositionRange`
    * `PositionRange.indices`
    * `PositionRange.overlaps`
    * `PositionRange.documents`
    * `PositionMap`
    * `PositionMap.ofRanges`
    * `PositionMap.indices`
-/

namespace ModelNumber

------------------------------------------------------------
-- Ranges
------------------------------------------------------------

/-
  The characters from `start` up to, but not including, `stop`.
  `sharedWith` names the categories that use some of the same
  characters on purpose.
-/
structure PositionRange where
  category : Scalar
  start : Int
  stop : Int
  sharedWith : List Json

namespace PositionRange

/- The positions in a range, in order. -/
def indices (r : PositionRange) : List Int :=
  (List.range (r.stop - r.start).toNat).map
    fun (i : Nat) => r.start + i

/- A position lies in a range. -/
theorem mem_indices_iff
    {r : PositionRange}
    {i : Int} :
    i ∈ r.indices ↔ r.start ≤ i ∧ i < r.stop := by
  simp only [indices, List.mem_map, List.mem_range]
  constructor
  · rintro ⟨n, hn, rfl⟩
    omega
  · rintro ⟨hs, hp⟩
    exact ⟨(i - r.start).toNat, by omega, by omega⟩

/- Each of two ranges starts before the other one stops. -/
def overlaps (r s : PositionRange) : Bool :=
  r.start < s.stop && s.start < r.stop

/- A range names a category as one it shares characters with. -/
def documents
    (r : PositionRange)
    (category : Scalar) : Bool :=
  r.sharedWith.any fun v => v.same (.scalar category)

end PositionRange

------------------------------------------------------------
-- Maps
------------------------------------------------------------

/- The range of each category, in document order. -/
abbrev PositionMap :=
  OrderedMap Scalar PositionRange

namespace PositionMap

/-
  The map of a list of ranges. A category given twice keeps
  its first place and has its last range.
-/
def ofRanges (rs : List PositionRange) : PositionMap :=
  .ofList (rs.map fun r => (r.category, r))

/- The ranges, in order. -/
def ranges (m : PositionMap) : List PositionRange :=
  m.values

/- The positions of a category, none if it has no range. -/
def indices
    (m : PositionMap)
    (category : Scalar) : List Int :=
  match m.get? category with
  | some r => r.indices
  | none => []

end PositionMap

end ModelNumber
