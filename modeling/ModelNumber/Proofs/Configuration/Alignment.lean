import ModelNumber.Proofs.Configuration.Order
import ModelNumber.Proofs.Decoding.Continuation
import ModelNumber.Proofs.Highlight
import ModelNumber.Proofs.Segment.Alignment

/-
  The position map of a configuration without problems tells
  where the segments of its reference string are found. The
  check never compares the two. It only tests that the ranges
  of the grammar cut out the chunks, are apart from each other
  and start in order, and this leaves each of them one place.
  So highlighting by the position map and by the attributes of
  the decoded reference string comes to the same.

  Main declarations:
    * `PositionMap.rangeOf?` and `PositionMap.IsOwn`
    * `PositionRange.token`
    * `Configuration.Layout` and `Layout.tokens_eq`
    * `Configuration.Aligns`
    * `Configuration.aligns_and_renders_reference`
-/

namespace ModelNumber

------------------------------------------------------------
-- Ranges as tokens
------------------------------------------------------------

/- Bounds in the right order inside a text are its own places. -/
theorem Text.slice_of_inside
    {s : List Char}
    {start stop : Int}
    (hStart : 0 ≤ start)
    (hOrder : start ≤ stop)
    (hStop : stop ≤ s.length) :
    slice s start stop =
      (s.take stop.toNat).drop start.toNat := by
  unfold slice place
  rw [if_neg (by omega), if_neg (by omega),
    Nat.min_eq_left (by omega), Nat.min_eq_left (by omega)]

namespace PositionRange

/- What a range cuts out of a text, and where. -/
def token
    (r : PositionRange)
    (s : List Char) : Token where
  start := r.start.toNat
  code := Text.slice s r.start r.stop

namespace IsInside

variable {r : PositionRange} {s : List Char}

/- The token of a range starts where the range does. -/
theorem start_token (hInside : r.IsInside s.length) :
    ((r.token s).start : Int) = r.start :=
  Int.toNat_of_nonneg hInside.start

/- The token of a range stops where the range does. -/
theorem stop_token (hInside : r.IsInside s.length) :
    ((r.token s).stop : Int) = r.stop := by
  have hPlace := hInside.start_token
  have hNonempty := hInside.nonempty
  have hStop := hInside.stop
  have hLength :
      (r.token s).code.length = r.stop.toNat - r.start.toNat := by
    rw [token,
      Text.slice_of_inside hInside.start
        (Int.le_of_lt hNonempty) hStop,
      List.length_drop, List.length_take,
      Nat.min_eq_left (by omega)]
  rw [Token.stop]
  omega

/- What stands in the text at a place of a range is cut out. -/
theorem exists_of_holds
    (hInside : r.IsInside s.length)
    {i : Nat}
    (hi : (r.token s).Holds i) :
    ∃ c ∈ (r.token s).code, s[i]? = some c := by
  have hStart := hInside.start_token
  have hStop := hInside.stop_token
  have hLength := hInside.stop
  rcases hi with ⟨hLow, hHigh⟩
  have hIndex : i < s.length := by omega
  refine ⟨s[i], ?_, List.getElem?_eq_getElem hIndex⟩
  rw [token,
    Text.slice_of_inside hInside.start
      (Int.le_of_lt hInside.nonempty) hLength]
  apply List.mem_of_getElem? (i := i - r.start.toNat)
  rw [List.getElem?_drop, List.getElem?_take_of_lt (by omega)]
  have hShift : r.start.toNat + (i - r.start.toNat) = i := by
    omega
  rw [hShift, List.getElem?_eq_getElem hIndex]

end IsInside

end PositionRange

------------------------------------------------------------
-- Ranges of slots
------------------------------------------------------------

namespace PositionMap

/-
  The range of the category of a slot. The absent value is no
  category, and no document has a range for it.
-/
def rangeOf?
    (m : PositionMap)
    (slot : Json) : Option PositionRange :=
  match slotCategory slot with
  | some (.scalar key) => m.get? key
  | _ => none

/- A slot has a range if its category is a key that has one. -/
theorem rangeOf?_eq_some_iff
    {m : PositionMap}
    {slot : Json}
    {r : PositionRange} :
    m.rangeOf? slot = some r ↔
      ∃ key,
        slot = .scalar key ∧
          slotCategory slot = some slot ∧
          m.get? key = some r := by
  unfold rangeOf?
  constructor
  · intro h
    split at h
    · rename_i key hSlot
      have hKey := eq_of_slotCategory_eq_some hSlot
      subst hKey
      exact ⟨key, rfl, hSlot, h⟩
    · cases h
  · rintro ⟨key, rfl, hSlot, h⟩
    rw [hSlot]
    exact h

/- An entry of a map is for a slot and shared with no other. -/
structure IsOwn
    (m : PositionMap)
    (e : Scalar × PositionRange) : Prop where
  named : slotCategory (.scalar e.1) = some (.scalar e.1)
  found : m.get? e.1 = some e.2
  alone : e.2.sharedWith = []

/- Slots with ranges of their own are keys of entries. -/
theorem exists_entries
    {m : PositionMap} :
    ∀ {slots : List Json},
      (∀ slot ∈ slots,
        ∃ r ∈ m.rangeOf? slot, r.sharedWith = []) →
        ∃ entries : List (Scalar × PositionRange),
          slots = (entries.map fun e => Json.scalar e.1) ∧
            ∀ e ∈ entries, m.IsOwn e
| [], _ => ⟨[], rfl, by simp⟩
| slot :: slots, h => by
    rw [List.forall_mem_cons] at h
    rcases h.1 with ⟨r, hRange, hAlone⟩
    rcases rangeOf?_eq_some_iff.mp hRange with
      ⟨key, rfl, hNamed, hFound⟩
    rcases exists_entries h.2 with ⟨entries, rfl, hOwn⟩
    refine ⟨(key, r) :: entries, rfl, ?_⟩
    exact List.forall_mem_cons.mpr ⟨⟨hNamed, hFound, hAlone⟩, hOwn⟩

end PositionMap

------------------------------------------------------------
-- The ranges of a reference string
------------------------------------------------------------

namespace Configuration

/- Each slot of the grammar has a range shared with no category. -/
def HasOwnRanges (c : Configuration) : Prop :=
  ∀ slot ∈ c.grammar.categories,
    ∃ r ∈ c.positions.rangeOf? slot, r.sharedWith = []

instance (c : Configuration) : Decidable c.HasOwnRanges :=
  inferInstanceAs
    (Decidable (∀ slot ∈ c.grammar.categories,
      ∃ r ∈ c.positions.rangeOf? slot, r.sharedWith = []))

/-
  A configuration without problems, its plain reference
  string, and the entries of its position map that belong to
  the slots of each part.
-/
structure Layout
    (c : Configuration)
    (reference : List Char)
    (entries : Part → List (Scalar × PositionRange)) :
    Prop where
  grammar : c.CheckedGrammar reference
  positions : c.CheckedPositions reference.length
  plain : Text.IsPlain reference
  distinct : c.grammar.IsDistinct
  slots :
    ∀ part : Part,
      c.grammar.slots part =
        (entries part).map fun e => Json.scalar e.1
  own : ∀ part : Part, ∀ e ∈ entries part, c.positions.IsOwn e

namespace Layout

variable {c : Configuration} {reference : List Char}
variable {entries : Part → List (Scalar × PositionRange)}

/- The ranges of the slots lie inside the reference string. -/
theorem isInside
    (hLayout : c.Layout reference entries)
    {part : Part}
    {e : Scalar × PositionRange}
    (he : e ∈ entries part) :
    e.2.IsInside reference.length :=
  hLayout.positions.inside e.2
    (OrderedMap.mem_values_of_get? (hLayout.own part e he).found)

/- The ranges of a part cut out its chunks. -/
theorem map_token_code
    (hLayout : c.Layout reference entries)
    (part : Part) :
    ((entries part).map fun e => (e.2.token reference).code) =
      part.chunks reference := by
  have hChunks := hLayout.grammar.forall₂_chunks part
  rw [hLayout.slots part, List.forall₂_map_left_iff] at hChunks
  rw [← List.forall₂_eq_eq_eq, List.forall₂_map_left_iff]
  rcases List.forall₂_iff_zip.mp hChunks with
    ⟨hLength, hSegments⟩
  refine List.forall₂_iff_zip.mpr ⟨hLength, ?_⟩
  intro e chunk hPair
  have hOwn := hLayout.own part e (List.of_mem_zip hPair).1
  have hSegment := hSegments hPair
  simp only [checkSegment, Outcome.bind_eq_ok_iff,
    Outcome.pure_eq_ok_iff, List.append_eq_nil_iff,
    problemUnless_eq_nil_iff, Json.key_eq_ok_iff] at hSegment
  rcases hSegment with ⟨_, hKey, _, hPlace⟩
  cases hKey
  rw [hOwn.found] at hPlace
  simpa [problemUnless_eq_nil_iff, hOwn.alone,
    PositionRange.token] using hPlace

/- The ranges of a part stand where the token codes are cut out. -/
theorem codes_eq
    (hLayout : c.Layout reference entries)
    (part : Part) :
    ((entries part).map fun e => e.2.token reference).map
        Token.code =
      (part.tokens reference).map Token.code := by
  rw [Part.codes_tokens_of_isPlain hLayout.plain part,
    List.map_map]
  exact hLayout.map_token_code part

/- Two ranges of slots do not overlap. -/
theorem pairwise_apart
    (hLayout : c.Layout reference entries) :
    (entries .model ++ entries .feature).Pairwise fun d e =>
      d.2.overlaps e.2 = false := by
  have hDistinct := hLayout.distinct
  have hModel := hLayout.slots .model
  have hFeature := hLayout.slots .feature
  simp only [Grammar.slots] at hModel hFeature
  rw [Grammar.IsDistinct, Grammar.categories, hModel, hFeature,
    ← List.map_append, List.pairwise_map] at hDistinct
  have hOwn :
      ∀ e ∈ entries .model ++ entries .feature,
        c.positions.IsOwn e := by
    intro e he
    rcases List.mem_append.mp he with he | he
    · exact hLayout.own _ e he
    · exact hLayout.own _ e he
  have hSymm :
      Std.Symm fun r s : PositionRange =>
        r.sharedWith = [] →
          s.sharedWith = [] → r.overlaps s = false := by
    constructor
    intro r s hPair hAlone hOtherAlone
    rw [PositionRange.overlaps, Bool.and_comm]
    exact hPair hOtherAlone hAlone
  refine hDistinct.imp_of_mem ?_
  intro d e hd he hOther
  exact
    OrderedMap.rel_of_get? hLayout.positions.apart
      (by simpa [Json.same] using hOther) (hOwn d hd).found
      (hOwn e he).found (hOwn d hd).alone (hOwn e he).alone

/- The ranges of slots start from left to right. -/
theorem pairwise_starts
    (hLayout : c.Layout reference entries) :
    (entries .model ++ entries .feature).Pairwise fun d e =>
      d.2.start ≤ e.2.start := by
  have hRanges :
      ∀ part : Part,
        (c.grammar.slots part).filterMap c.positions.rangeAt? =
          (entries part).map Prod.snd := by
    intro part
    rw [hLayout.slots part, List.filterMap_map,
      ← List.filterMap_eq_map]
    exact
      List.filterMap_congr fun e he =>
        (hLayout.own part e he).found
  have hRuns :=
    hLayout.grammar.runsInOrder fun r hr =>
      (hLayout.positions.inside r hr).nonempty
  have hModel := hRanges .model
  have hFeature := hRanges .feature
  simp only [Grammar.slots] at hModel hFeature
  have hStarts := hRuns.starts
  rwa [Grammar.categories, List.filterMap_append, hModel,
    hFeature, ← List.map_append, List.pairwise_map] at hStarts

/- The tokens of both parts are cut out by the ranges. -/
theorem map_token_append
    (hLayout : c.Layout reference entries) :
    ((entries .model ++ entries .feature).map fun e =>
        e.2.token reference) =
      Part.model.tokens reference
        ++ Part.feature.tokens reference := by
  have hCovers := Token.covers_parts reference
  have hInside :
      ∀ e ∈ entries .model ++ entries .feature,
        e.2.IsInside reference.length := by
    intro e he
    rcases List.mem_append.mp he with he | he
    · exact hLayout.isInside he
    · exact hLayout.isInside he
  have hCodes :
      ((entries .model ++ entries .feature).map fun e =>
          e.2.token reference).map Token.code =
        (Part.model.tokens reference
          ++ Part.feature.tokens reference).map Token.code := by
    rw [List.map_append, List.map_append, List.map_append,
      hLayout.codes_eq .model, hLayout.codes_eq .feature]
  apply Token.eq_of_holds hCodes hCovers.nonempty _
    hCovers.ordered
  · intro u hu i hi
    rcases List.mem_map.mp hu with ⟨e, he, rfl⟩
    rcases (hInside e he).exists_of_holds hi with ⟨d, hd, hAt⟩
    apply hLayout.plain.exists_holds hAt
    have hCode := List.mem_map_of_mem (f := Token.code) hu
    rw [hCodes] at hCode
    rcases List.mem_map.mp hCode with ⟨t, ht, hSame⟩
    rw [← hSame] at hd
    exact hCovers.uncut t ht d hd
  · rw [List.pairwise_map]
    refine (hLayout.pairwise_starts.and
      hLayout.pairwise_apart).imp_of_mem ?_
    rintro d e hd he ⟨hStarts, hApart⟩
    have hStop := (hInside d hd).stop_token
    have hStart := (hInside e he).start_token
    have hNonempty := (hInside e he).nonempty
    simp only [PositionRange.overlaps, Bool.and_eq_false_iff,
      decide_eq_false_iff_not] at hApart
    omega

/- The tokens of each part are cut out by its ranges. -/
theorem tokens_eq
    (hLayout : c.Layout reference entries)
    (part : Part) :
    part.tokens reference =
      (entries part).map fun e => e.2.token reference := by
  have hLength := congrArg List.length (hLayout.codes_eq .model)
  simp only [List.length_map] at hLength
  have hAll := hLayout.map_token_append
  rw [List.map_append] at hAll
  rcases List.append_inj hAll (by simpa using hLength) with
    ⟨hModel, hFeature⟩
  cases part with
  | model => exact hModel.symm
  | feature => exact hFeature.symm

end Layout

end Configuration

------------------------------------------------------------
-- Segments in their ranges
------------------------------------------------------------

/- A segment is for a slot, and stands where its range does. -/
structure PositionMap.Places
    (m : PositionMap)
    (slot : Json)
    (seg : Segment) : Prop where
  category : seg.category = some slot
  range :
    ∃ r ∈ m.rangeOf? slot,
      r.start = seg.start ∧ r.stop = seg.stop

/-
  The segments of each part are for its slots, one by one, and
  stand where the ranges of their categories do.
-/
def Configuration.Aligns
    (c : Configuration)
    (split : Split) : Prop :=
  ∀ part : Part,
    List.Forall₂ c.positions.Places (c.grammar.slots part)
      (split.ofPart part)

/- Segments of cut out tokens stand where the ranges do. -/
theorem PositionMap.forall₂_places_segments
    {m : PositionMap}
    {reference : List Char}
    (part : Part)
    {entries : List (Scalar × PositionRange)}
    (hOwn : ∀ e ∈ entries, m.IsOwn e)
    (hInside :
      ∀ e ∈ entries, e.2.IsInside reference.length) :
    List.Forall₂ m.Places
      (entries.map fun e => Json.scalar e.1)
      (part.segments (entries.map fun e => Json.scalar e.1)
        (entries.map fun e => e.2.token reference)) := by
  induction entries with
  | nil => exact .nil
  | cons e entries ih =>
      rw [List.forall_mem_cons] at hOwn hInside
      refine .cons ⟨hOwn.1.named, e.2, ?_, ?_, ?_⟩
        (ih hOwn.2 hInside.2)
      · exact
          rangeOf?_eq_some_iff.mpr
            ⟨e.1, rfl, hOwn.1.named, hOwn.1.found⟩
      · exact hInside.1.start_token.symm
      · exact hInside.1.stop_token.symm

/- A laid out reference string is split along the ranges. -/
theorem Configuration.Layout.aligns
    {c : Configuration}
    {reference : List Char}
    {entries : Part → List (Scalar × PositionRange)}
    (hLayout : c.Layout reference entries) :
    c.Aligns (.ofNormal c.grammar reference) := by
  intro part
  rw [Split.ofPart_ofNormal, hLayout.slots part,
    hLayout.tokens_eq part]
  exact
    PositionMap.forall₂_places_segments part (hLayout.own part)
      fun e he => hLayout.isInside he

/- There is a segment where the range of a category is. -/
theorem Configuration.Aligns.exists_segment
    {c : Configuration}
    {split : Split}
    (hAligns : c.Aligns split)
    {slot : Json}
    (hSlot : slot ∈ c.grammar.categories) :
    ∃ seg ∈ split.segments, c.positions.Places slot seg := by
  have hPart :
      ∀ part : Part,
        slot ∈ c.grammar.slots part →
          ∃ seg ∈ split.segments, c.positions.Places slot seg := by
    intro part hIn
    rcases List.forall₂_iff_get.mp (hAligns part) with
      ⟨hLength, hAll⟩
    rcases List.mem_iff_get.mp hIn with ⟨i, rfl⟩
    refine ⟨_, ?_, hAll i i.isLt (hLength ▸ i.isLt)⟩
    exact List.mem_of_mem_filter (List.get_mem _ _)
  rw [Grammar.categories, List.mem_append] at hSlot
  rcases hSlot with hSlot | hSlot
  · exact hPart .model hSlot
  · exact hPart .feature hSlot

------------------------------------------------------------
-- Ranges of attributes
------------------------------------------------------------

/- The range of an attribute that alone has its category. -/
theorem PositionMap.get?_ofAttributes_of_mem
    {attributes : List Attribute}
    (hDistinct : Attribute.AreDistinct attributes)
    {a : Attribute}
    (ha : a ∈ attributes) :
    ((ofAttributes attributes).get? a.category).map
        PositionRange.bounds =
      some (a.start, a.stop) := by
  have hLast :=
    (Attribute.last?_eq_some_iff_of_areDistinct hDistinct).mpr
      ⟨ha, BEq.rfl⟩
  rw [bounds_ofAttributes, hLast]
  rfl

namespace Configuration

/- The attribute of a segment has its range in the live map. -/
theorem Steps.get?_ofAttributes
    {config : Configuration}
    {options : Options}
    {text : String}
    {split : Split}
    {keyed : List (Scalar × Segment)}
    {d : Decoding}
    (hSteps : config.Steps options text split keyed d)
    (hDistinct : config.grammar.IsDistinct)
    {key : Scalar}
    {seg : Segment}
    (hSeg : seg ∈ split.segments)
    (hCategory : seg.category = some (.scalar key)) :
    ((PositionMap.ofAttributes d.attributes).get? key).map
        PositionRange.bounds =
      some ((seg.start : Int), (seg.stop : Int)) := by
  have hKeyed := hSteps.mem_keyed_iff.mpr ⟨hSeg, hCategory⟩
  rcases hSteps.redescribed.exists_of_mem
      (List.mem_map_of_mem hKeyed) with
    ⟨a, ha, hSame⟩
  rw [Attribute.Redescribes] at hSame
  have hRange :=
    PositionMap.get?_ofAttributes_of_mem
      (hSteps.distinct_attributes hDistinct) ha
  rw [hSame] at hRange
  exact hRange

/- An aligned segment has the range of its category in both maps. -/
theorem Steps.bounds_eq
    {config : Configuration}
    {options : Options}
    {text : String}
    {split : Split}
    {keyed : List (Scalar × Segment)}
    {d : Decoding}
    (hSteps : config.Steps options text split keyed d)
    (hAligns : config.Aligns split)
    (hDistinct : config.grammar.IsDistinct)
    {key : Scalar}
    (hSlot : .scalar key ∈ config.grammar.categories) :
    (config.positions.get? key).map PositionRange.bounds =
      ((PositionMap.ofAttributes d.attributes).get? key).map
        PositionRange.bounds := by
  rcases hAligns.exists_segment hSlot with
    ⟨seg, hSeg, hNamed, r, hRange, hStart, hStop⟩
  rcases PositionMap.rangeOf?_eq_some_iff.mp hRange with
    ⟨_, hSame, _, hFound⟩
  cases hSame
  rw [hSteps.get?_ofAttributes hDistinct hSeg hNamed, hFound,
    ← hStart, ← hStop]
  rfl

------------------------------------------------------------
-- The reference string
------------------------------------------------------------

/- A configuration without problems has a layout. -/
theorem Checked.exists_layout
    {c : Configuration}
    (hChecked : c.Checked)
    {reference : String}
    (hReference : c.referenceString = .str reference)
    (hPlain : Text.IsPlain reference.toList)
    (hDistinct : c.grammar.IsDistinct)
    (hRanges : c.HasOwnRanges) :
    ∃ entries, c.Layout reference.toList entries := by
  have hEntries :
      ∀ part : Part,
        ∃ entries : List (Scalar × PositionRange),
          c.grammar.slots part =
              (entries.map fun e => Json.scalar e.1) ∧
            ∀ e ∈ entries, c.positions.IsOwn e := by
    intro part
    apply PositionMap.exists_entries
    intro slot hSlot
    exact hRanges slot (Grammar.mem_categories_of_mem_slots hSlot)
  choose entries hSlots hOwn using hEntries
  rcases exists_of_checkGrammar hChecked.grammar with
    ⟨_, hSame, hGrammar⟩
  rw [hReference] at hSame
  cases hSame
  exact
    ⟨entries, hGrammar, hChecked.checkedPositions hReference,
      hPlain, hDistinct, hSlots, hOwn⟩

/-
  The reference string of a configuration without problems is
  split along the position map. It has a segment for each slot
  of the grammar, which stands where the range of its category
  does. So its marks by the position map are its marks by the
  attributes that it is decoded to.
-/
theorem aligns_and_renders_reference
    {c : Configuration}
    (hCheck : c.check = .ok [])
    {reference : String}
    (hReference : c.referenceString = .str reference)
    {options : Options}
    (hNormal : options.normalize reference = .ok reference)
    (hPlain : Text.IsPlain reference.toList)
    (hDistinct : c.grammar.IsDistinct)
    (hRanges : c.HasOwnRanges) :
    ∃ split,
      Split.ofText options c.grammar reference = .ok split ∧
        c.Aligns split ∧
        ∀ d,
          c.decode options reference = .ok d →
            ∀ categories : List Json,
              (∀ category ∈ categories,
                category ∈ c.grammar.categories) →
                ∃ marks,
                  Highlight.render reference c.positions
                      categories =
                    .ok marks ∧
                  Highlight.render reference
                      (.ofAttributes d.attributes) categories =
                    .ok marks := by
  have hChecked := check_eq_ok_nil_iff.mp hCheck
  rcases hChecked.exists_layout hReference hPlain hDistinct
      hRanges with
    ⟨entries, hLayout⟩
  have hAligns := hLayout.aligns
  have hSplit :
      Split.ofText options c.grammar reference =
        .ok (.ofNormal c.grammar reference.toList) := by
    rw [Split.ofText, hNormal]
    rfl
  refine ⟨_, hSplit, hAligns, ?_⟩
  intro d hd categories hCategories
  rcases decode_eq_ok_iff.mp hd with ⟨split, keyed, hSteps⟩
  have hSame := hSteps.splits
  rw [hSplit] at hSame
  cases hSame
  apply Highlight.exists_render
  intro category hCategory
  have hSlot := hCategories category hCategory
  rcases hChecked.exists_key hSlot with ⟨key, rfl, _⟩
  exact ⟨key, rfl, hSteps.bounds_eq hAligns hDistinct hSlot⟩

/- The position map of the RN series fits its reference string. -/
theorem aligns_and_renders_reference_rn :
    Library.rn.check = .ok [] ∧
      Library.rn.grammar.IsDistinct ∧
      Library.rn.HasOwnRanges ∧
      ∃ reference split d marks,
        Library.rn.referenceString = .str reference ∧
        ({} : Options).normalize reference = .ok reference ∧
        Text.IsPlain reference.toList ∧
        Split.ofText {} Library.rn.grammar reference =
          .ok split ∧
        Library.rn.Aligns split ∧
        Library.rn.decode {} reference = .ok d ∧
        Highlight.render reference Library.rn.positions
            Library.rn.grammar.categories =
          .ok marks ∧
        Highlight.render reference (.ofAttributes d.attributes)
            Library.rn.grammar.categories =
          .ok marks := by
  have hCheck : Library.rn.check = .ok [] := rfl
  have hNormal :
      ({} : Options).normalize "RN-025-3-0-E-A-0-G-0-4:A-3-A-0-1" =
        .ok "RN-025-3-0-E-A-0-G-0-4:A-3-A-0-1" := by
    have hDashes :
        ({} : Options).dashes = .ok Options.usualDashes :=
      rfl
    rw [Options.normalize_eq_ok hDashes]
    exact congrArg Except.ok (by decide +kernel)
  have hPlain :
      Text.IsPlain "RN-025-3-0-E-A-0-G-0-4:A-3-A-0-1".toList := by
    decide +kernel
  have hDistinct : Library.rn.grammar.IsDistinct := by
    decide +kernel
  have hRanges : Library.rn.HasOwnRanges := by
    decide +kernel
  have hIsOk :
      (Library.rn.decode {}
        "RN-025-3-0-E-A-0-G-0-4:A-3-A-0-1").isOk = true := by
    decide +kernel
  rcases Outcome.exists_eq_ok_of_isOk hIsOk with ⟨d, hd⟩
  rcases aligns_and_renders_reference hCheck rfl hNormal hPlain
      hDistinct hRanges with
    ⟨split, hSplit, hAligns, hRenders⟩
  rcases hRenders d hd _ (fun _ h => h) with
    ⟨marks, hStatic, hLive⟩
  exact
    ⟨hCheck, hDistinct, hRanges, _, split, d, marks, rfl, hNormal,
      hPlain, hSplit, hAligns, hd, hStatic, hLive⟩

end Configuration

end ModelNumber
