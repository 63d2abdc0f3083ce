import ModelNumber.Highlight
import ModelNumber.Proofs.Attribute
import ModelNumber.Proofs.Outcome
import ModelNumber.Proofs.Segment.Token

/-
  What the marks of a text depend on: on its characters, and
  on where the ranges of the chosen categories start and stop.
  In the position map of attributes a category has the bounds
  of its last attribute, and the characters that are marked
  for one range alone are the slice between its bounds.

  Main declarations:
    * `PositionRange.bounds`
    * `Highlight.covers_eq_any_bounds`
    * `Highlight.marks_congr`
    * `PositionMap.bounds_ofAttributes`
    * `Highlight.covers_ofAttributes`
    * `Highlight.highlighted_eq_slice`
-/

namespace ModelNumber

------------------------------------------------------------
-- Bounds
------------------------------------------------------------

/- Where a range starts and stops. -/
def PositionRange.bounds (r : PositionRange) : Int × Int :=
  (r.start, r.stop)

namespace Highlight

variable {p q : PositionMap} {keys : List Scalar}

/- A place is covered by the bounds of some range. -/
theorem covers_eq_any_bounds
    (p : PositionMap)
    (keys : List Scalar)
    (i : Int) :
    covers p keys i =
      keys.any fun key =>
        ((p.get? key).map PositionRange.bounds).any fun b =>
          b.1 ≤ i && i < b.2 := by
  rw [covers, ranges, List.any_filterMap]
  congr
  funext key
  cases p.get? key <;> rfl

/- Ranges with the same bounds cover the same places. -/
theorem covers_congr
    (hBounds :
      ∀ key ∈ keys,
        (p.get? key).map PositionRange.bounds =
          (q.get? key).map PositionRange.bounds)
    (i : Int) :
    covers p keys i = covers q keys i := by
  rw [covers_eq_any_bounds, covers_eq_any_bounds]
  induction keys with
  | nil => rfl
  | cons key keys ih =>
      rw [List.forall_mem_cons] at hBounds
      rw [List.any_cons, List.any_cons, hBounds.1, ih hBounds.2]

/- Ranges with the same bounds give the same marks. -/
theorem marks_congr
    (hBounds :
      ∀ key ∈ keys,
        (p.get? key).map PositionRange.bounds =
          (q.get? key).map PositionRange.bounds)
    (text : List Char) :
    marks text p keys = marks text q keys := by
  simp only [marks, covers_congr hBounds]

/- Maps with the same bounds for all categories render alike. -/
theorem exists_render
    {text : String}
    {categories : List Json}
    (hBounds :
      ∀ category ∈ categories,
        ∃ key,
          category = .scalar key ∧
            (p.get? key).map PositionRange.bounds =
              (q.get? key).map PositionRange.bounds) :
    ∃ marks,
      render text p categories = .ok marks ∧
        render text q categories = .ok marks := by
  have hKey :
      ∀ category ∈ categories, ∃ key, category.key = .ok key := by
    intro category hCategory
    rcases hBounds category hCategory with ⟨key, rfl, _⟩
    exact ⟨key, rfl⟩
  rcases Outcome.exists_mapM_eq_ok hKey with ⟨keys, hKeys⟩
  have hSame :
      ∀ key ∈ keys,
        (p.get? key).map PositionRange.bounds =
          (q.get? key).map PositionRange.bounds := by
    intro key hMem
    rcases Outcome.exists_of_mem_result hKeys hMem with
      ⟨category, hCategory, hIsKey⟩
    rcases hBounds category hCategory with ⟨_, rfl, hBoth⟩
    cases hIsKey
    exact hBoth
  refine ⟨marks text.toList q keys, ?_, ?_⟩
  · rw [render, hKeys, ← marks_congr hSame]
    rfl
  · rw [render, hKeys]
    rfl

end Highlight

------------------------------------------------------------
-- Ranges of attributes
------------------------------------------------------------

/- A category has the range of its last attribute. -/
theorem PositionMap.get?_ofAttributes
    (attributes : List Attribute)
    (key : Scalar) :
    (ofAttributes attributes).get? key =
      (Attribute.last? attributes key).map fun a =>
        { category := a.category
          start := a.start
          stop := a.stop
          sharedWith := [] } := by
  rw [ofAttributes, ofRanges, List.map_map]
  exact Attribute.get?_ofList_map _ attributes key

/- A category has the bounds of its last attribute. -/
theorem PositionMap.bounds_ofAttributes
    (attributes : List Attribute)
    (key : Scalar) :
    ((ofAttributes attributes).get? key).map
        PositionRange.bounds =
      (Attribute.last? attributes key).map fun a =>
        (a.start, a.stop) := by
  rw [get?_ofAttributes, Option.map_map]
  rfl

namespace Highlight

/- A place is covered by the last attribute of a category. -/
theorem covers_ofAttributes
    {attributes : List Attribute}
    {keys : List Scalar}
    {i : Int} :
    covers (.ofAttributes attributes) keys i = true ↔
      ∃ key ∈ keys, ∃ a,
        Attribute.last? attributes key = some a ∧
          a.start ≤ i ∧ i < a.stop := by
  rw [covers_eq_any_bounds, List.any_eq_true]
  simp only [PositionMap.bounds_ofAttributes, Option.any_map,
    Option.any_eq_true, Bool.and_eq_true, decide_eq_true_eq]

------------------------------------------------------------
-- Marks
------------------------------------------------------------

/- The marks spell the text. -/
theorem marks_map_char
    (text : List Char)
    (positions : PositionMap)
    (keys : List Scalar) :
    (marks text positions keys).map Mark.char = text := by
  rw [marks, List.map_map]
  exact List.zipIdx_map_fst 0 text

/- The marks are numbered from left to right. -/
theorem marks_map_index
    (text : List Char)
    (positions : PositionMap)
    (keys : List Scalar) :
    (marks text positions keys).map Mark.index =
      List.range text.length := by
  rw [marks, List.map_map, List.range_eq_range']
  exact List.zipIdx_map_snd 0 text

/- A mark is that of a character at its place in the text. -/
theorem mem_marks_iff
    {text : List Char}
    {positions : PositionMap}
    {keys : List Scalar}
    {m : Mark} :
    m ∈ marks text positions keys ↔
      text[m.index]? = some m.char ∧
        m.kind = kind (covers positions keys m.index) m.char := by
  rw [marks, List.mem_map]
  constructor
  · rintro ⟨⟨c, i⟩, hMem, rfl⟩
    exact ⟨List.mem_zipIdx_iff_getElem?.mp hMem, rfl⟩
  · rintro ⟨hChar, hKind⟩
    refine
      ⟨(m.char, m.index),
        List.mem_zipIdx_iff_getElem?.mpr hChar, ?_⟩
    rw [← hKind]

/- A mark is highlighted where its place is covered. -/
theorem kind_eq_highlighted_iff
    {covered : Bool}
    {c : Char} :
    kind covered c = .highlighted ↔ covered = true := by
  cases covered with
  | true => simp [kind]
  | false =>
      cases hSeparator : isSeparator c <;> simp [kind, hSeparator]

/- The characters from one place on and before another one. -/
theorem filter_zipIdx_eq_drop_take
    (first past : Nat)
    (s : List Char)
    (place : Nat) :
    ((s.zipIdx place).filter fun p =>
        decide (first ≤ p.2 ∧ p.2 < past)).map Prod.fst =
      (s.take (past - place)).drop (first - place) := by
  induction s generalizing place with
  | nil => simp
  | cons c s ih =>
      rw [List.zipIdx_cons, List.filter_cons]
      by_cases hPast : place < past
      · have hTake :
            past - place = (past - (place + 1)) + 1 := by
          omega
        rw [hTake, List.take_succ_cons]
        by_cases hFirst : first ≤ place
        · rw [if_pos (by simp [hFirst, hPast]), List.map_cons, ih,
            Nat.sub_eq_zero_of_le hFirst,
            Nat.sub_eq_zero_of_le (Nat.le_succ_of_le hFirst)]
          rfl
        · have hDrop :
              first - place = (first - (place + 1)) + 1 := by
            omega
          rw [if_neg (by simp [hFirst]), ih, hDrop,
            List.drop_succ_cons]
      · have hNone : past - place = 0 := by omega
        have hNext : past - (place + 1) = 0 := by omega
        rw [if_neg (by simp [hPast]), ih, hNone, hNext]
        simp

/- The characters highlighted between two places are a slice. -/
theorem highlighted_eq_slice
    {text : List Char}
    {positions : PositionMap}
    {keys : List Scalar}
    {first past : Nat}
    (hCovers :
      ∀ i : Nat,
        covers positions keys i = true ↔ first ≤ i ∧ i < past)
    (hPast : past ≤ text.length)
    (hFirst : first ≤ past) :
    ((marks text positions keys).filter
        (·.kind = .highlighted)).map Mark.char =
      Text.slice text first past := by
  have hTest :
      ∀ p : Char × Nat,
        decide (kind (covers positions keys p.2) p.1 =
            .highlighted) =
          decide (first ≤ p.2 ∧ p.2 < past) := by
    intro p
    rw [decide_eq_decide, kind_eq_highlighted_iff, hCovers]
  have hSlice :
      Text.slice text first past =
        (text.take past).drop first := by
    rw [Text.slice, Text.place_natCast hPast,
      Text.place_natCast (Nat.le_trans hFirst hPast)]
  rw [hSlice, marks, List.filter_map, List.map_map]
  simp only [Function.comp_def, hTest]
  exact filter_zipIdx_eq_drop_take first past text 0

/- Where nothing is covered, nothing is highlighted. -/
theorem highlighted_eq_nil
    {text : List Char}
    {positions : PositionMap}
    {keys : List Scalar}
    (hNone : ∀ i, covers positions keys i = false) :
    (marks text positions keys).filter
        (·.kind = .highlighted) =
      [] := by
  rw [List.filter_eq_nil_iff]
  intro m hm
  rw [(mem_marks_iff.mp hm).2, decide_eq_true_iff,
    kind_eq_highlighted_iff, hNone]
  exact Bool.false_ne_true

/- Keys are categories that can be highlighted. -/
theorem render_keys
    (text : String)
    (positions : PositionMap)
    (keys : List Scalar) :
    render text positions (keys.map Json.scalar) =
      .ok (marks text.toList positions keys) := by
  have hKeys :
      (keys.map Json.scalar).mapM Json.key = .ok keys :=
    Outcome.mapM_map_eq_ok fun _ _ => rfl
  rw [render, hKeys]
  rfl

end Highlight

end ModelNumber
