import ModelNumber.Proofs.Highlight
import ModelNumber.Proofs.Text.Trim

/-
  The marks of a text and the line below it stand in place.
  There is one mark for each character, whatever the ranges
  are, and only the set of the chosen categories counts. The
  line ends right after the last highlighted character: its
  trimming takes the blanks behind that one away, and never a
  marker.

  Main declarations:
    * `Highlight.covers_iff_contains`
    * `Highlight.Aligned`
    * `Highlight.reach`
    * `Highlight.index_lt_reach` and `Highlight.trimEnd_cells`
    * `Highlight.Underlines`
    * `Highlight.Rendering`
    * `Highlight.exists_rendering`
-/

namespace ModelNumber

namespace Highlight

variable {positions : PositionMap}

------------------------------------------------------------
-- Sets of categories
------------------------------------------------------------

/- A place is covered by the range of some category. -/
theorem covers_iff
    {keys : List Scalar}
    {i : Int} :
    covers positions keys i = true ↔
      ∃ key ∈ keys, ∃ r,
        positions.get? key = some r ∧
          r.start ≤ i ∧ i < r.stop := by
  simp only [covers, ranges, List.any_eq_true,
    List.mem_filterMap, Bool.and_eq_true, decide_eq_true_eq]
  constructor
  · rintro ⟨r, ⟨key, hKey, hRange⟩, hPlace⟩
    exact ⟨key, hKey, r, hRange, hPlace⟩
  · rintro ⟨key, hKey, r, hRange, hPlace⟩
    exact ⟨r, ⟨key, hKey, hRange⟩, hPlace⟩

/- Equal keys count as the same category. -/
theorem covers_iff_contains
    {keys : List Scalar}
    {i : Int} :
    covers positions keys i = true ↔
      ∃ key, keys.contains key = true ∧ ∃ r,
        positions.get? key = some r ∧
          r.start ≤ i ∧ i < r.stop := by
  rw [covers_iff]
  constructor
  · rintro ⟨key, hKey, hRange⟩
    exact ⟨key, List.contains_iff_exists_mem_beq.mpr
      ⟨key, hKey, BEq.rfl⟩, hRange⟩
  · rintro ⟨key, hContains, hRange⟩
    rcases List.contains_iff_exists_mem_beq.mp hContains with
      ⟨listed, hListed, hEqual⟩
    rw [OrderedMap.get?_congr positions hEqual] at hRange
    exact ⟨listed, hListed, hRange⟩

/- The same categories cover the same places. -/
theorem covers_congr_contains
    {keys others : List Scalar}
    (hSame : ∀ key, others.contains key = keys.contains key)
    (i : Int) :
    covers positions others i = covers positions keys i := by
  rw [Bool.eq_iff_iff, covers_iff_contains, covers_iff_contains]
  simp only [hSame]

/- A union of categories covers what either of them does. -/
theorem covers_union
    {keys others both : List Scalar}
    (hUnion :
      ∀ key,
        both.contains key =
          (keys.contains key || others.contains key))
    (i : Int) :
    covers positions both i = true ↔
      covers positions keys i = true ∨
        covers positions others i = true := by
  simp only [covers_iff_contains, hUnion, Bool.or_eq_true,
    or_and_right, exists_or]

------------------------------------------------------------
-- Marks in place
------------------------------------------------------------

/- The marks are numbered from left to right. -/
def Numbered (ms : List Mark) : Prop :=
  ms.map Mark.index = List.range ms.length

/-
  The marks stand for the characters of a text, in order, and
  show which of them are in the range of a category.
-/
structure Aligned
    (text : List Char)
    (positions : PositionMap)
    (keys : List Scalar)
    (ms : List Mark) : Prop where
  chars : ms.map Mark.char = text
  numbers : ms.map Mark.index = List.range text.length
  listed :
    ∀ m ∈ ms,
      m.kind = .highlighted ↔
        (m.index : Int) ∈ indices positions keys
  highlighted :
    ∀ m ∈ ms,
      m.kind = .highlighted ↔
        ∃ key ∈ keys, ∃ r,
          positions.get? key = some r ∧
            r.start ≤ m.index ∧ m.index < r.stop
  separator :
    ∀ m ∈ ms,
      m.kind ≠ .highlighted →
        (m.kind = .separator ↔ m.char = '-' ∨ m.char = ':')

/- A mark is a separator where a hyphen or colon is uncovered. -/
theorem kind_eq_separator_iff
    {c : Char} :
    kind false c = .separator ↔ c = '-' ∨ c = ':' := by
  rw [kind, if_neg Bool.false_ne_true]
  cases hSeparator : isSeparator c <;>
    simp_all [isSeparator]

/- The marks of a text are in place. -/
theorem aligned_marks
    (text : List Char)
    (positions : PositionMap)
    (keys : List Scalar) :
    Aligned text positions keys (marks text positions keys) where
  chars := marks_map_char text positions keys
  numbers := marks_map_index text positions keys
  listed := by
    intro m hm
    rw [(mem_marks_iff.mp hm).2, kind_eq_highlighted_iff,
      mem_indices_iff]
  highlighted := by
    intro m hm
    rw [(mem_marks_iff.mp hm).2, kind_eq_highlighted_iff,
      covers_iff]
  separator := by
    intro m hm
    rw [(mem_marks_iff.mp hm).2]
    intro hOther
    rw [Ne, kind_eq_highlighted_iff, Bool.not_eq_true] at hOther
    rw [hOther, kind_eq_separator_iff]

/- Marks in place are numbered. -/
theorem Aligned.numbered
    {text : List Char}
    {keys : List Scalar}
    {ms : List Mark}
    (hAligned : Aligned text positions keys ms) :
    Numbered ms := by
  have hLength : ms.length = text.length := by
    rw [← hAligned.chars, List.length_map]
  rw [Numbered, hAligned.numbers, hLength]

/- The character at a place is shown as highlighted. -/
def HighlightedAt
    (ms : List Mark)
    (i : Nat) : Prop :=
  ∃ m ∈ ms, m.index = i ∧ m.kind = .highlighted

/- The covered places of a text are highlighted. -/
theorem highlightedAt_marks_iff
    {text : List Char}
    {keys : List Scalar}
    {i : Nat} :
    HighlightedAt (marks text positions keys) i ↔
      i < text.length ∧ covers positions keys i = true := by
  constructor
  · rintro ⟨m, hm, rfl, hKind⟩
    rcases mem_marks_iff.mp hm with ⟨hChar, hShown⟩
    rw [hShown, kind_eq_highlighted_iff] at hKind
    exact ⟨(List.getElem?_eq_some_iff.mp hChar).1, hKind⟩
  · rintro ⟨hPlace, hCovers⟩
    refine ⟨⟨i, text[i], .highlighted⟩, ?_, rfl, rfl⟩
    refine
      mem_marks_iff.mpr ⟨List.getElem?_eq_getElem hPlace, ?_⟩
    exact (kind_eq_highlighted_iff.mpr hCovers).symm

/- A union is highlighted where either of its parts is. -/
theorem highlightedAt_union
    {text : List Char}
    {keys others both : List Scalar}
    (hUnion :
      ∀ key,
        both.contains key =
          (keys.contains key || others.contains key))
    (i : Nat) :
    HighlightedAt (marks text positions both) i ↔
      HighlightedAt (marks text positions keys) i ∨
        HighlightedAt (marks text positions others) i := by
  rw [highlightedAt_marks_iff, highlightedAt_marks_iff,
    highlightedAt_marks_iff, covers_union hUnion, and_or_left]

------------------------------------------------------------
-- The line below
------------------------------------------------------------

/- The place behind the last highlighted character. -/
def reach (ms : List Mark) : Nat :=
  ((ms.filter (·.kind = .highlighted)).getLast?).elim 0
    (·.index + 1)

/- What stands below a mark. -/
def cell
    (c : Char)
    (m : Mark) : Char :=
  if m.kind = .highlighted then c else ' '

/- A last mark that is highlighted is the last one of them. -/
theorem reach_concat_of_eq
    (ms : List Mark)
    {m : Mark}
    (hKind : m.kind = .highlighted) :
    reach (ms ++ [m]) = m.index + 1 := by
  simp [reach, List.filter_append, hKind]

/- A last mark that is not highlighted does not count. -/
theorem reach_concat_of_ne
    (ms : List Mark)
    {m : Mark}
    (hKind : m.kind ≠ .highlighted) :
    reach (ms ++ [m]) = reach ms := by
  simp [reach, List.filter_append, hKind]

/- The last of numbered marks has the last number. -/
theorem numbered_concat
    {ms : List Mark}
    {m : Mark}
    (hNumbered : Numbered (ms ++ [m])) :
    Numbered ms ∧ m.index = ms.length := by
  rw [Numbered, List.map_append, List.length_append,
    List.length_singleton, List.range_succ] at hNumbered
  have hBoth := List.append_inj' hNumbered rfl
  exact ⟨hBoth.1, (List.cons.inj hBoth.2).1⟩

/- Each of the numbered marks has a number below their count. -/
theorem index_lt_length
    {ms : List Mark}
    (hNumbered : Numbered ms)
    {m : Mark}
    (hm : m ∈ ms) :
    m.index < ms.length := by
  rw [← List.mem_range, ← hNumbered]
  exact List.mem_map_of_mem hm

/- Numbered marks stand at their numbers. -/
theorem getElem?_index
    {ms : List Mark}
    (hNumbered : Numbered ms)
    {m : Mark}
    (hm : m ∈ ms) :
    ms[m.index]? = some m := by
  rcases List.getElem_of_mem hm with ⟨i, hi, rfl⟩
  have hIndex : ms[i].index = i := by
    have hSame := congrArg (·[i]?) hNumbered
    simpa [hi] using hSame
  rw [hIndex, List.getElem?_eq_getElem hi]

/- No character behind the text is reached. -/
theorem reach_le_length
    {ms : List Mark}
    (hNumbered : Numbered ms) :
    reach ms ≤ ms.length := by
  rw [reach]
  cases hLast : (ms.filter (·.kind = .highlighted)).getLast? with
  | none => exact Nat.zero_le _
  | some m =>
      have hm := List.mem_of_getLast? hLast
      exact
        index_lt_length hNumbered (List.mem_of_mem_filter hm)

/- No highlighted character lies behind the last one of them. -/
theorem index_lt_reach
    {ms : List Mark}
    (hNumbered : Numbered ms)
    {m : Mark}
    (hm : m ∈ ms)
    (hKind : m.kind = .highlighted) :
    m.index < reach ms := by
  -- Marks are added at the end, where the reach can grow.
  induction ms using List.reverseRecOn with
  | nil => exact absurd hm List.not_mem_nil
  | append_singleton ms last ih =>
      rcases numbered_concat hNumbered with ⟨hEarlier, hLast⟩
      by_cases hAlso : last.kind = .highlighted
      · rw [reach_concat_of_eq ms hAlso, hLast]
        simpa using index_lt_length hNumbered hm
      · rw [reach_concat_of_ne ms hAlso]
        rcases List.mem_append.mp hm with hEarly | hSame
        · exact ih hEarlier hEarly
        · rw [List.mem_singleton.mp hSame] at hKind
          exact absurd hKind hAlso

/- Trimming stops right behind the last highlighted character. -/
theorem trimEnd_cells
    {c : Char}
    (hMarker : Text.isBlank c = false)
    {ms : List Mark}
    (hNumbered : Numbered ms) :
    Text.trimEnd (ms.map (cell c)) =
      (ms.map (cell c)).take (reach ms) := by
  induction ms using List.reverseRecOn with
  | nil => rfl
  | append_singleton ms last ih =>
      rcases numbered_concat hNumbered with ⟨hEarlier, hLast⟩
      rw [List.map_append, List.map_singleton]
      by_cases hKind : last.kind = .highlighted
      · rw [cell, if_pos hKind, Text.trimEnd_concat _ hMarker,
          reach_concat_of_eq ms hKind, hLast,
          List.take_of_length_le (by simp)]
      · have hBlank :
            ∀ d ∈ [' '], Text.isBlank d = true := by
          intro d hd
          rw [List.mem_singleton.mp hd]
          rfl
        have hReach : reach ms ≤ (ms.map (cell c)).length := by
          rw [List.length_map]
          exact reach_le_length hEarlier
        rw [cell, if_neg hKind,
          Text.trimEnd_append_blank _ hBlank, ih hEarlier,
          reach_concat_of_ne ms hKind,
          List.take_append_of_le_length hReach]

/-
  A line has a marker below each highlighted character, blanks
  between them, and ends with the last marker.
-/
structure Underlines
    (ms : List Mark)
    (c : Char)
    (row : List Char) : Prop where
  length : row.length = reach ms
  markers :
    ∀ m ∈ ms, m.kind = .highlighted → row[m.index]? = some c
  blanks :
    ∀ m ∈ ms,
      m.kind ≠ .highlighted →
        m.index < row.length → row[m.index]? = some ' '

/- The line of a marker underlines the numbered marks. -/
theorem underlines_markerLine
    {c : Char}
    (hMarker : Text.isBlank c = false)
    {ms : List Mark}
    (hNumbered : Numbered ms) :
    Underlines ms c
      (markerLine ms (String.singleton c)).toList := by
  have hLine :
      (markerLine ms (String.singleton c)).toList =
        (ms.map (cell c)).take (reach ms) := by
    rw [← trimEnd_cells hMarker hNumbered, markerLine,
      String.toList_ofList, List.map_eq_flatMap]
    congr 2
    funext m
    by_cases hKind : m.kind = .highlighted <;>
      simp [cell, hKind]
  have hCell :
      ∀ m ∈ ms, m.index < reach ms →
        ((ms.map (cell c)).take (reach ms))[m.index]? =
          some (cell c m) := by
    intro m hm hIndex
    rw [List.getElem?_take_of_lt hIndex, List.getElem?_map,
      getElem?_index hNumbered hm]
    rfl
  rw [hLine]
  refine ⟨?_, ?_, ?_⟩
  · rw [List.length_take, List.length_map,
      Nat.min_eq_left (reach_le_length hNumbered)]
  · intro m hm hKind
    rw [hCell m hm (index_lt_reach hNumbered hm hKind), cell,
      if_pos hKind]
  · intro m hm hKind hIndex
    rw [List.length_take] at hIndex
    rw [hCell m hm (by omega), cell, if_neg hKind]

------------------------------------------------------------
-- Rendering
------------------------------------------------------------

/-
  What is rendered for a list of categories: marks in place,
  the same ones for the same set of categories, joined marks
  for a union of two sets, and a line with each marker that
  is no blank.
-/
structure Rendering
    (text : String)
    (positions : PositionMap)
    (keys : List Scalar)
    (ms : List Mark) : Prop
    extends Aligned text.toList positions keys ms where
  sameSet :
    ∀ others : List Scalar,
      (∀ key, others.contains key = keys.contains key) →
        render text positions (others.map Json.scalar) = .ok ms
  union :
    ∀ others both : List Scalar,
      (∀ key,
        both.contains key =
          (keys.contains key || others.contains key)) →
        ∃ ns joined,
          render text positions (others.map Json.scalar) =
              .ok ns ∧
            render text positions (both.map Json.scalar) =
              .ok joined ∧
            ∀ i,
              HighlightedAt joined i ↔
                HighlightedAt ms i ∨ HighlightedAt ns i
  underlined :
    ∀ c : Char,
      Text.isBlank c = false →
        Underlines ms c
          (markerLine ms (String.singleton c)).toList

/- Every text is rendered for all ranges and categories. -/
theorem exists_rendering
    (text : String)
    (positions : PositionMap)
    (keys : List Scalar) :
    ∃ ms,
      render text positions (keys.map Json.scalar) = .ok ms ∧
        Rendering text positions keys ms := by
  have hAligned := aligned_marks text.toList positions keys
  refine
    ⟨marks text.toList positions keys,
      render_keys text positions keys,
      { toAligned := hAligned, sameSet := ?_, union := ?_,
        underlined := ?_ }⟩
  · intro others hSame
    rw [render_keys, marks, marks]
    simp only [covers_congr_contains hSame]
  · intro others both hUnion
    exact
      ⟨_, _, render_keys text positions others,
        render_keys text positions both,
        highlightedAt_union hUnion⟩
  · intro c hMarker
    exact underlines_markerLine hMarker hAligned.numbered

/- Ranges may be reversed, start early, or stop late. -/
example :
    let positions : PositionMap :=
      .ofRanges
        [⟨.str "A", -4, 1, []⟩, ⟨.str "B", 5, 3, []⟩,
          ⟨.str "C", 4, 5, []⟩, ⟨.str "D", 9, 12, []⟩]
    ((render "AB-C:D" positions
        [.str "C", .str "B", .str "A", .str "D"]).toOption.map
      (markerLine · "^")) = some "^   ^" := by
  decide +kernel

end Highlight

end ModelNumber
