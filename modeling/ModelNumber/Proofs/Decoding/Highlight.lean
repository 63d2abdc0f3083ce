import ModelNumber.Proofs.Decoding.Steps
import ModelNumber.Proofs.Highlight
import ModelNumber.Session

/-
  Live highlighting marks what was typed for the categories
  that are chosen, and nothing else. The attributes of a
  decode keep the places of their segments, so the range of a
  category is the segment of its last attribute: it spells the
  code, and there is no separator in it.

  Main declarations:
    * `Configuration.Steps.exists_segment`
    * `Decoding.Highlights`
    * `Session.highlights_of_decode`
-/

namespace ModelNumber

------------------------------------------------------------
-- Attributes and segments
------------------------------------------------------------

/- An attribute of a decode stands where its segment does. -/
theorem Configuration.Steps.exists_segment
    {config : Configuration}
    {options : Options}
    {text : String}
    {split : Split}
    {keyed : List (Scalar × Segment)}
    {d : Decoding}
    (hSteps : config.Steps options text split keyed d)
    {a : Attribute}
    (ha : a ∈ d.attributes) :
    ∃ s ∈ split.segments,
      a.code = s.code ∧ a.start = s.start ∧ a.stop = s.stop := by
  rcases hSteps.exists_attributeOf ha with
    ⟨key, s, hKeyed, hSame⟩
  rw [Attribute.Redescribes] at hSame
  rw [hSame]
  exact ⟨s, (hSteps.mem_keyed_iff.mp hKeyed).1, rfl, rfl, rfl⟩

------------------------------------------------------------
-- Marks of a decode
------------------------------------------------------------

/-
  Marks highlight categories in a decode. They spell its
  normal form, what is highlighted is what the attributes that
  speak for the categories take up, and no separator is. For a
  category alone this is the code of its attribute.
-/
structure Decoding.Highlights
    (d : Decoding)
    (keys : List Scalar)
    (ms : List Mark) : Prop where
  chars : ms.map Mark.char = d.normalized.toList
  places : ms.map Mark.index = List.range d.normalized.length
  highlighted :
    ∀ i : Int,
      (∃ m ∈ ms, (m.index : Int) = i ∧ m.kind = .highlighted) ↔
        ∃ key ∈ keys, ∃ a,
          d.attribute? key = some a ∧ a.start ≤ i ∧ i < a.stop
  alone :
    ∀ key,
      keys = [key] →
        (ms.filter (·.kind = .highlighted)).map Mark.char =
          ((d.attribute? key).map fun a => a.code.toList).getD []
  separators :
    ∀ m ∈ ms,
      m.kind = .highlighted → m.char ≠ '-' ∧ m.char ≠ ':'

namespace Configuration

namespace Steps

variable {config : Configuration} {options : Options}
variable {text : String} {s : List Char}
variable {keyed : List (Scalar × Segment)} {d : Decoding}
variable {keys : List Scalar}

/- A highlighted place lies in a segment. -/
theorem exists_holds_of_covers
    (hSteps :
      config.Steps options text
        (.ofNormal config.grammar s) keyed d)
    {i : Int}
    (hCovers :
      Highlight.covers (.ofAttributes d.attributes) keys i =
        true) :
    ∃ place : Nat,
      i = place ∧
        ∃ seg ∈ (Split.ofNormal config.grammar s).segments,
          seg.Holds place := by
  rcases Highlight.covers_ofAttributes.mp hCovers with
    ⟨key, _, a, hLast, hStart, hStop⟩
  rcases hSteps.exists_segment (Attribute.mem_of_last? hLast)
    with ⟨seg, hSeg, _, hFirst, hPast⟩
  rw [hFirst] at hStart
  rw [hPast] at hStop
  rcases Int.eq_ofNat_of_zero_le
      (Int.le_trans (Int.natCast_nonneg _) hStart) with
    ⟨place, rfl⟩
  exact
    ⟨place, rfl, seg, hSeg, Int.ofNat_le.mp hStart,
      Int.ofNat_lt.mp hStop⟩

/- There is a mark at each highlighted place. -/
theorem exists_mark_of_covers
    (hSteps :
      config.Steps options text
        (.ofNormal config.grammar s) keyed d)
    {i : Int}
    (hCovers :
      Highlight.covers (.ofAttributes d.attributes) keys i =
        true) :
    ∃ m ∈ Highlight.marks s (.ofAttributes d.attributes) keys,
      (m.index : Int) = i ∧ m.kind = .highlighted := by
  rcases hSteps.exists_holds_of_covers hCovers with
    ⟨place, rfl, seg, hSeg, hHolds⟩
  have hPlace : place < s.length :=
    Nat.lt_of_lt_of_le hHolds.2 (Split.stop_le_length hSeg)
  have hKind :
      Highlight.kind
          (Highlight.covers (.ofAttributes d.attributes) keys
            place)
          s[place] =
        .highlighted :=
    Highlight.kind_eq_highlighted_iff.mpr hCovers
  refine
    ⟨⟨place, s[place], .highlighted⟩,
      Highlight.mem_marks_iff.mpr ⟨?_, hKind.symm⟩, rfl, rfl⟩
  exact List.getElem?_eq_getElem hPlace

/- The attribute of a category is highlighted by its code. -/
theorem highlighted_alone
    (hSteps :
      config.Steps options text
        (.ofNormal config.grammar s) keyed d)
    (key : Scalar) :
    ((Highlight.marks s (.ofAttributes d.attributes)
        [key]).filter (·.kind = .highlighted)).map Mark.char =
      ((d.attribute? key).map fun a => a.code.toList).getD [] := by
  have hCovers := Split.coversText_ofNormal config.grammar s
  unfold Decoding.attribute?
  cases hLast : Attribute.last? d.attributes key with
  | none =>
      rw [Highlight.highlighted_eq_nil]
      · rfl
      · intro i
        rw [← Bool.not_eq_true, Highlight.covers_ofAttributes]
        rintro ⟨_, hKey, a, hSome, _⟩
        rw [List.mem_singleton.mp hKey, hLast] at hSome
        cases hSome
  | some a =>
      rcases hSteps.exists_segment (Attribute.mem_of_last? hLast)
        with ⟨seg, hSeg, hCode, hStart, hStop⟩
      have hSlice := hCovers.slice seg hSeg
      rw [Split.ofNormal_normalized, String.toList_ofList]
        at hSlice
      have hRange :
          ∀ i : Nat,
            Highlight.covers (.ofAttributes d.attributes) [key] i =
                true ↔
              seg.start ≤ i ∧ i < seg.stop := by
        intro i
        rw [Highlight.covers_ofAttributes]
        simp only [List.mem_singleton, exists_eq_left, hLast,
          Option.some.injEq, exists_eq_left', hStart, hStop,
          Int.ofNat_le, Int.ofNat_lt]
      rw [Highlight.highlighted_eq_slice hRange
          (Split.stop_le_length hSeg)
          (Nat.le_of_lt (hCovers.nonempty seg hSeg)),
        hSlice, Option.map_some, Option.getD_some, hCode]

/- The marks by the attributes of a decode highlight it. -/
theorem highlights
    (hSteps :
      config.Steps options text
        (.ofNormal config.grammar s) keyed d)
    (keys : List Scalar) :
    d.Highlights keys
      (Highlight.marks s (.ofAttributes d.attributes) keys) := by
  have hCovers := Split.coversText_ofNormal config.grammar s
  have hNormal : d.normalized = String.ofList s := by
    rw [hSteps.normalized, Split.ofNormal_normalized]
  constructor
  · rw [Highlight.marks_map_char, hNormal, String.toList_ofList]
  · rw [Highlight.marks_map_index, hNormal, String.length_ofList]
  · intro i
    unfold Decoding.attribute?
    rw [← Highlight.covers_ofAttributes]
    constructor
    · rintro ⟨m, hm, rfl, hKind⟩
      rwa [(Highlight.mem_marks_iff.mp hm).2,
        Highlight.kind_eq_highlighted_iff] at hKind
    · exact hSteps.exists_mark_of_covers
  · rintro key rfl
    exact hSteps.highlighted_alone key
  · intro m hm hKind
    rcases Highlight.mem_marks_iff.mp hm with ⟨hChar, hSame⟩
    rw [hSame, Highlight.kind_eq_highlighted_iff] at hKind
    rcases hSteps.exists_holds_of_covers hKind with
      ⟨place, hPlace, seg, hSeg, hHolds⟩
    rw [Int.ofNat_inj] at hPlace
    rw [← hPlace] at hHolds
    refine hCovers.uncut m.index m.char ?_ seg hSeg hHolds
    rw [Split.ofNormal_normalized, String.toList_ofList]
    exact hChar

end Steps

end Configuration

/-
  Whatever is typed, and whichever categories are chosen, live
  highlighting of a decode marks the codes that were typed for
  them.
-/
theorem Session.highlights_of_decode
    {config : Configuration}
    {options : Options}
    {text : String}
    {d : Decoding}
    (hd : config.decode options text = .ok d)
    (session : Session)
    (keys : List Scalar) :
    ∃ ms,
      session.highlightLive (keys.map Json.scalar) (some d) =
          .ok ms ∧
        d.Highlights keys ms := by
  rcases Configuration.decode_eq_ok_iff.mp hd with
    ⟨split, keyed, hSteps⟩
  rcases Split.exists_of_ofText_eq_ok hSteps.splits with
    ⟨dashes, _, rfl⟩
  have hNormal := hSteps.normalized
  rw [Split.ofNormal_normalized] at hNormal
  refine ⟨_, ?_, hSteps.highlights keys⟩
  change
    Highlight.render d.normalized (.ofAttributes d.attributes)
        (keys.map Json.scalar) =
      _
  rw [Highlight.render_keys, hNormal, String.toList_ofList]

/- A code behind the colon, and a category without a code. -/
theorem Session.highlights_rn :
    ∃ d ms blank,
      Library.rn.decode {} " rn-025--3:bb - 7" = .ok d ∧
        (Session.mk {} Library.rn none).highlightLive ["C1"]
            (some d) =
          .ok ms ∧
        d.Highlights ["C1"] ms ∧
        (ms.filter (·.kind = .highlighted)).map Mark.char =
          ['B', 'B'] ∧
        (Session.mk {} Library.rn none).highlightLive
            ["B3", "Z9", "B3"] (some d) =
          .ok blank ∧
        d.Highlights ["B3", "Z9", "B3"] blank ∧
        ∀ m ∈ blank, m.kind ≠ .highlighted := by
  have hCodes :
      (Library.rn.decode {} " rn-025--3:bb - 7").toOption.map
          (fun d => ["C1", "B3", "Z9"].map fun key =>
            (d.attribute? (.str key)).map Attribute.code) =
        some [some "BB", none, none] := by
    decide +kernel
  rcases Option.map_eq_some_iff.mp hCodes with ⟨d, hSome, hAll⟩
  have hd := Outcome.toOption_eq_some_iff.mp hSome
  simp only [List.map_cons, List.map_nil, List.cons.injEq,
    Option.map_eq_some_iff, Option.map_eq_none_iff] at hAll
  rcases hAll with ⟨⟨a, hLast, hCode⟩, hB3, hZ9, _⟩
  let session := Session.mk {} Library.rn none
  rcases highlights_of_decode hd session ["C1"] with
    ⟨ms, hMarks, hHighlights⟩
  rcases highlights_of_decode hd session ["B3", "Z9", "B3"] with
    ⟨blank, hBlank, hNothing⟩
  refine
    ⟨d, ms, blank, hd, hMarks, hHighlights, ?_, hBlank,
      hNothing, ?_⟩
  · rw [hHighlights.alone "C1" rfl, hLast, Option.map_some,
      Option.getD_some, hCode]
    rfl
  · intro m hm hKind
    rcases (hNothing.highlighted m.index).mp
        ⟨m, hm, rfl, hKind⟩ with
      ⟨key, hKey, b, hb, _⟩
    simp only [List.mem_cons, List.not_mem_nil, or_false]
      at hKey
    have hNone : d.attribute? key = none := by
      rcases hKey with rfl | rfl | rfl
      · exact hB3
      · exact hZ9
      · exact hB3
    rw [hNone] at hb
    cases hb

end ModelNumber
