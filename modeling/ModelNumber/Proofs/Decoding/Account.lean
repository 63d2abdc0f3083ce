import Mathlib.Data.List.Perm.Basic
import ModelNumber.Library.RN
import ModelNumber.Proofs.Catalog
import ModelNumber.Proofs.Decoding.Steps

/-
  Nothing that is typed is lost. A decode answers for every
  segment of a text: either there is an attribute for it whose
  code the catalog knows, or exactly one notice is about it.
  No other notice is given, but for one about a second colon.

  Main declarations:
    * `Configuration.noticeFor`
    * `Configuration.Steps.notices_perm`
    * `Configuration.AccountsFor`
    * `Configuration.coversText_and_accountsFor_of_decode`
-/

namespace ModelNumber

------------------------------------------------------------
-- One notice a segment
------------------------------------------------------------

/- A grammar of names is textual. -/
theorem Grammar.isTextual_ofNames
    (modelPart featurePart : List String) :
    (ofNames modelPart featurePart).IsTextual := by
  intro category hCategory
  rw [categories, ofNames, ← List.map_append] at hCategory
  rcases List.mem_map.mp hCategory with ⟨name, _, rfl⟩
  exact ⟨name, rfl⟩

/- A notice is about each token beyond the slots of a part. -/
theorem Part.surplus_eq_map
    (part : Part)
    {slots : List Json}
    (hSlots : ∀ slot ∈ slots, slotCategory slot = some slot)
    (tokens : List Token) :
    part.surplus slots tokens =
      ((part.segments slots tokens).filter
        (·.category.isNone)).map fun s =>
          .unrecognizedSegment s.part s.code s.start
            slots.length := by
  suffices
      hCount :
        ∀ n,
          ((tokens.drop slots.length).map fun t =>
            Notice.unrecognizedSegment part
              (String.ofList t.code) t.start n) =
            ((part.segments slots tokens).filter
              (·.category.isNone)).map fun s =>
                .unrecognizedSegment s.part s.code s.start n
      from hCount slots.length
  intro n
  induction tokens generalizing slots with
  | nil => cases slots <;> rfl
  | cons t tokens ih =>
      cases slots with
      | nil =>
          have hRest := ih hSlots
          simp only [List.length_nil, List.drop_zero] at hRest ⊢
          rw [List.map_cons, hRest]
          rfl
      | cons slot slots =>
          rw [List.forall_mem_cons] at hSlots
          rw [List.length_cons, List.drop_succ_cons,
            ih hSlots.2, segments, List.filter_cons_of_neg]
          simp [segmentOfToken, hSlots.1]

namespace Configuration

/- The notice about a segment of a split, if any. -/
def noticeFor
    (config : Configuration)
    (s : Segment) : Option Notice :=
  match s.category with
  | none =>
      some (.unrecognizedSegment s.part s.code s.start
        (config.grammar.slots s.part).length)
  | some (.scalar key) => config.noticeOf key s
  | some _ => none

/- What the notice about a segment with a category can be. -/
theorem noticeOf_cases
    (config : Configuration)
    (key : Scalar)
    (s : Segment) :
    (config.catalog.contains key = false ∧
        config.noticeOf key s =
          some (.unknownCategory key s.code s.start config.key)) ∨
      (config.catalog.contains key = true ∧
        (config.catalog.resolve key s.code).knownCode = false ∧
        ∃ name position,
          config.noticeOf key s =
            some (.unknownCode key s.code s.start name
              position)) ∨
      ((config.catalog.resolve key s.code).knownCode = true ∧
        config.noticeOf key s = none) := by
  simp only [noticeOf, Catalog.resolve_knownCategory]
  cases hCategory : config.catalog.contains key with
  | false => exact Or.inl ⟨rfl, rfl⟩
  | true =>
      right
      cases hCode :
          (config.catalog.resolve key s.code).knownCode with
      | false => exact Or.inl ⟨rfl, rfl, _, _, rfl⟩
      | true => exact Or.inr ⟨rfl, rfl⟩

/- A notice about a segment stands where the segment starts. -/
theorem place_of_noticeFor
    {config : Configuration}
    {s : Segment}
    {n : Notice}
    (h : config.noticeFor s = some n) :
    n.place = s.start ∧ n.segment? = some s.code := by
  unfold noticeFor at h
  split at h
  · cases h
    exact ⟨rfl, rfl⟩
  · rename_i key _
    rcases noticeOf_cases config key s with
      ⟨_, hSome⟩ | ⟨_, _, name, position, hSome⟩ | ⟨_, hNone⟩
    · rw [hSome] at h
      cases h
      exact ⟨rfl, rfl⟩
    · rw [hSome] at h
      cases h
      exact ⟨rfl, rfl⟩
    · rw [hNone] at h
      cases h
  · cases h

/-
  Among the notices about segments that start at different
  places, those at one such place are about that segment.
-/
theorem filter_place_filterMap_noticeFor
    (config : Configuration)
    {segments : List Segment}
    (hStarts : segments.Pairwise fun s t => s.start ≠ t.start)
    {s : Segment}
    (hs : s ∈ segments) :
    (segments.filterMap config.noticeFor).filter
        (·.place = s.start) =
      (config.noticeFor s).toList := by
  have hNone :
      ∀ {others : List Segment},
        (∀ t ∈ others, t.start ≠ s.start) →
          (others.filterMap config.noticeFor).filter
              (·.place = s.start) =
            [] := by
    intro others hOthers
    rw [List.filter_eq_nil_iff]
    intro n hn
    rcases List.mem_filterMap.mp hn with ⟨t, ht, hnt⟩
    simp [(place_of_noticeFor hnt).1, hOthers t ht]
  rcases List.append_of_mem hs with ⟨before, after, rfl⟩
  rw [List.pairwise_append, List.pairwise_cons] at hStarts
  have hBefore : ∀ t ∈ before, t.start ≠ s.start := by
    intro t ht
    exact hStarts.2.2 t ht s List.mem_cons_self
  have hAfter : ∀ t ∈ after, t.start ≠ s.start := by
    intro t ht
    exact (hStarts.2.1.1 t ht).symm
  rw [List.filterMap_append, List.filter_append, hNone hBefore,
    List.nil_append]
  cases hNotice : config.noticeFor s with
  | none =>
      rw [List.filterMap_cons_none hNotice, hNone hAfter]
      rfl
  | some n =>
      rw [List.filterMap_cons_some hNotice, List.filter_cons,
        hNone hAfter, if_pos (by
          simpa using (place_of_noticeFor hNotice).1)]
      rfl

variable {config : Configuration} {options : Options}
variable {text : String} {s : List Char}
variable {keyed : List (Scalar × Segment)} {d : Decoding}

/- The notices about the segments of a part without a category. -/
theorem filterMap_noticeFor_surplus
    (hGrammar : config.grammar.IsTextual)
    (part : Part)
    (tokens : List Token) :
    ((part.segments (config.grammar.slots part) tokens).filter
        (·.category.isNone)).filterMap config.noticeFor =
      part.surplus (config.grammar.slots part) tokens := by
  rw [Part.surplus_eq_map part
      (fun _ hSlot => hGrammar.slotCategory_eq hSlot) tokens,
    ← List.filterMap_eq_map]
  apply List.filterMap_congr
  intro seg hSeg
  rcases List.mem_filter.mp hSeg with ⟨hMem, hNone⟩
  rw [Option.isNone_iff_eq_none] at hNone
  rcases Part.exists_token_of_mem_segments hMem with
    ⟨category, t, _, rfl⟩
  rw [noticeFor, hNone]
  rfl

namespace Steps

/- The notices about the segments that have a category. -/
theorem filterMap_noticeFor_mapped
    {split : Split}
    (hSteps : config.Steps options text split keyed d) :
    (split.segments.filter (!·.category.isNone)).filterMap
        config.noticeFor =
      keyed.filterMap fun m => config.noticeOf m.1 m.2 := by
  have hMapped :
      split.mapped.filterMap (fun m => config.noticeFor m.2) =
        keyed.filterMap fun m => config.noticeOf m.1 m.2 := by
    rw [hSteps.keys, List.filterMap_map]
    apply List.filterMap_congr
    intro m hm
    have hCategory := (hSteps.mem_keyed_iff.mp hm).2
    simp [noticeFor, hCategory]
  rw [← hMapped, Split.mapped, List.filterMap_filterMap,
    List.filterMap_filter]
  apply List.filterMap_congr
  intro seg _
  cases seg.category <;> simp

/-
  The notices of a decode, in some order: one about the second
  colon, and those about the segments.
-/
theorem notices_perm
    (hSteps :
      config.Steps options text
        (.ofNormal config.grammar s) keyed d)
    (hGrammar : config.grammar.IsTextual)
    (hUnknown : options.reportUnknown = true) :
    d.notices.Perm
      (Split.laterColons s
        ++ (Split.ofNormal config.grammar s).segments.filterMap
          config.noticeFor) := by
  have hModel :=
    filterMap_noticeFor_surplus hGrammar .model
      (Part.model.tokens s)
  have hFeature :=
    filterMap_noticeFor_surplus hGrammar .feature
      (Part.feature.tokens s)
  have hUnmapped :
      ((Split.ofNormal config.grammar s).segments.filter
          (·.category.isNone)).filterMap config.noticeFor =
        Part.model.surplus config.grammar.modelPart
            (Part.model.tokens s)
          ++ Part.feature.surplus config.grammar.featurePart
            (Part.feature.tokens s) := by
    rw [Split.ofNormal_segments, List.filter_append,
      List.filterMap_append]
    exact congrArg₂ (· ++ ·) hModel hFeature
  have hSegments :=
    ((List.filter_append_perm (fun t : Segment => t.category.isNone)
      (Split.ofNormal config.grammar s).segments).filterMap
        config.noticeFor)
  rw [List.filterMap_append, hUnmapped,
    hSteps.filterMap_noticeFor_mapped] at hSegments
  rw [hSteps.notices, if_pos hUnknown, Split.ofNormal_notices]
  refine List.Perm.trans ?_ (hSegments.append_left _)
  simp only [List.append_assoc]
  exact List.perm_append_comm_assoc _ _ _

/- One notice at most is about the place where a segment starts. -/
theorem filter_place_eq
    (hSteps :
      config.Steps options text
        (.ofNormal config.grammar s) keyed d)
    (hGrammar : config.grammar.IsTextual)
    (hUnknown : options.reportUnknown = true)
    {seg : Segment}
    (hSeg : seg ∈ (Split.ofNormal config.grammar s).segments) :
    d.notices.filter (·.place = seg.start) =
      (config.noticeFor seg).toList := by
  have hCovers := Split.coversText_ofNormal config.grammar s
  have hPerm :=
    (hSteps.notices_perm hGrammar hUnknown).filter
      (·.place = seg.start)
  rw [List.filter_append,
    filter_place_filterMap_noticeFor config hCovers.starts hSeg]
    at hPerm
  have hColons :
      (Split.laterColons s).filter (·.place = seg.start) = [] := by
    rcases Split.laterColons_cases s with
      ⟨hNil, _⟩ | ⟨place, hOne, hSecond⟩
    · rw [hNil]
      rfl
    · rw [hOne, List.filter_eq_nil_iff]
      intro n hn
      rw [List.mem_singleton.mp hn]
      intro hPlace
      have hSame : place = seg.start := of_decide_eq_true hPlace
      have hColon := hSecond.getElem?_eq
      rw [hSame] at hColon
      refine (hCovers.uncut seg.start ':' ?_ seg hSeg ?_).2 rfl
      · rw [Split.ofNormal_normalized, String.toList_ofList]
        exact hColon
      · exact ⟨Nat.le_refl _, hCovers.nonempty seg hSeg⟩
  rw [hColons, List.nil_append] at hPerm
  cases hNotice : config.noticeFor seg with
  | none =>
      rw [hNotice] at hPerm
      exact List.perm_nil.mp hPerm
  | some n =>
      rw [hNotice] at hPerm
      exact List.perm_singleton.mp hPerm

/- Each notice is about the second colon or about a segment. -/
theorem mem_notices_cases
    (hSteps :
      config.Steps options text
        (.ofNormal config.grammar s) keyed d)
    (hGrammar : config.grammar.IsTextual)
    (hUnknown : options.reportUnknown = true)
    {n : Notice}
    (hn : n ∈ d.notices) :
    n.code = "MALFORMED_SEPARATOR" ∨
      ∃ seg ∈ (Split.ofNormal config.grammar s).segments,
        n.place = seg.start ∧ n.segment? = some seg.code := by
  have hPerm := hSteps.notices_perm hGrammar hUnknown
  rw [hPerm.mem_iff, List.mem_append] at hn
  rcases hn with hn | hn
  · left
    rcases Split.laterColons_cases s with
      ⟨hNil, _⟩ | ⟨place, hOne, _⟩
    · rw [hNil] at hn
      cases hn
    · rw [hOne, List.mem_singleton] at hn
      rw [hn]
      rfl
  · right
    rcases List.mem_filterMap.mp hn with ⟨seg, hSeg, hNotice⟩
    exact ⟨seg, hSeg, place_of_noticeFor hNotice⟩

/- The notice about the second colon is the only one of its kind. -/
theorem filter_malformed_eq
    (hSteps :
      config.Steps options text
        (.ofNormal config.grammar s) keyed d)
    (hGrammar : config.grammar.IsTextual)
    (hUnknown : options.reportUnknown = true) :
    d.notices.filter (·.code = "MALFORMED_SEPARATOR") =
      Split.laterColons s := by
  have hPerm :=
    (hSteps.notices_perm hGrammar hUnknown).filter
      (·.code = "MALFORMED_SEPARATOR")
  have hSegments :
      ((Split.ofNormal config.grammar s).segments.filterMap
          config.noticeFor).filter
          (·.code = "MALFORMED_SEPARATOR") =
        [] := by
    rw [List.filter_eq_nil_iff]
    intro n hn
    rcases List.mem_filterMap.mp hn with ⟨seg, _, hNotice⟩
    have hSegment := (place_of_noticeFor hNotice).2
    cases n with
    | malformedSeparator place => cases hSegment
    | _ => simp [Notice.code]
  rw [List.filter_append, hSegments, List.append_nil] at hPerm
  rcases Split.laterColons_cases s with
    ⟨hNil, _⟩ | ⟨place, hOne, _⟩
  · rw [hNil] at hPerm ⊢
    exact List.perm_nil.mp hPerm
  · rw [hOne] at hPerm ⊢
    exact List.perm_singleton.mp hPerm

end Steps

------------------------------------------------------------
-- Accounts
------------------------------------------------------------

/- An attribute stands for a segment, and its code is known. -/
def Understands
    (config : Configuration)
    (d : Decoding)
    (s : Segment) : Prop :=
  ∃ a ∈ d.attributes,
    s.category = some (.scalar a.category) ∧
      a.code = s.code ∧ a.start = s.start ∧ a.stop = s.stop ∧
      (config.catalog.resolve a.category a.code).knownCode = true

/-
  A notice is about the segment with some number in a part,
  and names what is wrong with it: there is no slot for it, or
  the catalog lacks the category of the slot, or that category
  lacks the code.
-/
structure Reports
    (config : Configuration)
    (part : Part)
    (i : Nat)
    (s : Segment)
    (n : Notice) : Prop where
  place : n.place = s.start
  segment : n.segment? = some s.code
  beyond :
    n.code = "UNRECOGNIZED_SEGMENT" ↔
      (config.grammar.slots part).length ≤ i
  category :
    n.code = "UNKNOWN_CATEGORY" ↔
      ∃ key,
        (config.grammar.slots part)[i]? = some (.scalar key) ∧
          config.catalog.contains key = false
  code :
    n.code = "UNKNOWN_CODE" ↔
      ∃ key,
        (config.grammar.slots part)[i]? = some (.scalar key) ∧
          config.catalog.contains key = true ∧
          (config.catalog.resolve key s.code).knownCode = false

/-
  A decode accounts for all segments of a split. Each of them
  is understood and there is no notice where it starts, or
  there is exactly one such notice and it reports the segment.
  There are no notices about anything else, but for the one
  about a second colon.
-/
structure AccountsFor
    (config : Configuration)
    (split : Split)
    (d : Decoding) : Prop where
  segments :
    ∀ part i s,
      (split.ofPart part)[i]? = some s →
        (config.Understands d s ∧
            ∀ n ∈ d.notices, n.place ≠ s.start) ∨
          ∃ n,
            d.notices.filter (·.place = s.start) = [n] ∧
              config.Reports part i s n
  notices :
    ∀ n ∈ d.notices,
      n.code = "MALFORMED_SEPARATOR" ∨
        ∃ s ∈ split.segments,
          n.place = s.start ∧ n.segment? = some s.code
  colons :
    (d.notices.filter (·.code = "MALFORMED_SEPARATOR") = [] ∧
        split.normalized.toList.count ':' ≤ 1) ∨
      ∃ place,
        d.notices.filter (·.code = "MALFORMED_SEPARATOR") =
            [.malformedSeparator place] ∧
          Text.SecondColon split.normalized.toList place

namespace Steps

/- A segment with a known code is understood. -/
theorem understands
    {split : Split}
    (hSteps : config.Steps options text split keyed d)
    {seg : Segment}
    (hSeg : seg ∈ split.segments)
    {key : Scalar}
    (hCategory : seg.category = some (.scalar key))
    (hKnown :
      (config.catalog.resolve key seg.code).knownCode = true) :
    config.Understands d seg := by
  have hKeyed := hSteps.mem_keyed_iff.mpr ⟨hSeg, hCategory⟩
  rcases hSteps.redescribed.exists_of_mem
      (List.mem_map_of_mem hKeyed) with
    ⟨a, ha, hSame⟩
  rw [Attribute.Redescribes] at hSame
  rw [hSame] at ha
  exact ⟨_, ha, hCategory, rfl, rfl, rfl, hKnown⟩

end Steps

/- A segment beyond the slots of its part is reported. -/
theorem reports_of_beyond
    (part : Part)
    {i : Nat}
    (hSlot : (config.grammar.slots part)[i]? = none)
    (t : Token) :
    ∃ n,
      config.noticeFor (segmentOfToken part none t) = some n ∧
        config.Reports part i (segmentOfToken part none t) n := by
  have hBeyond := List.getElem?_eq_none_iff.mp hSlot
  refine ⟨_, rfl, rfl, rfl, ?_, ?_, ?_⟩
  · simpa [Notice.code] using hBeyond
  · simp [Notice.code, hSlot]
  · simp [Notice.code, hSlot]

/- A segment with a slot is reported unless its code is known. -/
theorem knownCode_or_reports
    {part : Part}
    {i : Nat}
    {key : Scalar}
    (hSlot :
      (config.grammar.slots part)[i]? = some (.scalar key))
    {seg : Segment}
    (hCategory : seg.category = some (.scalar key)) :
    ((config.catalog.resolve key seg.code).knownCode = true ∧
        config.noticeFor seg = none) ∨
      ∃ n, config.noticeFor seg = some n ∧
        config.Reports part i seg n := by
  have hInside := (List.getElem?_eq_some_iff.mp hSlot).1
  have hFor : config.noticeFor seg = config.noticeOf key seg := by
    rw [noticeFor, hCategory]
  rw [hFor]
  rcases noticeOf_cases config key seg with
    ⟨hUnknown, hNotice⟩ |
      ⟨hContains, hUnknown, _, _, hNotice⟩ |
      hKnown
  · right
    refine ⟨_, hNotice, rfl, rfl, ?_, ?_, ?_⟩
    · simpa [Notice.code] using hInside
    · simp [Notice.code, hSlot, hUnknown]
    · simp [Notice.code, hSlot, hUnknown]
  · right
    refine ⟨_, hNotice, rfl, rfl, ?_, ?_, ?_⟩
    · simpa [Notice.code] using hInside
    · simp [Notice.code, hSlot, hContains]
    · simp [Notice.code, hSlot, hContains, hUnknown]
  · exact Or.inl hKnown

namespace Steps

/- A segment is understood or reported. -/
theorem understands_or_reports
    (hSteps :
      config.Steps options text
        (.ofNormal config.grammar s) keyed d)
    (hGrammar : config.grammar.IsTextual)
    {part : Part}
    {i : Nat}
    {seg : Segment}
    (hSeg :
      ((Split.ofNormal config.grammar s).ofPart part)[i]? =
        some seg) :
    (config.Understands d seg ∧ config.noticeFor seg = none) ∨
      ∃ n, config.noticeFor seg = some n ∧
        config.Reports part i seg n := by
  have hMem :
      seg ∈ (Split.ofNormal config.grammar s).segments :=
    List.mem_of_mem_filter (List.mem_of_getElem? hSeg)
  rw [Split.ofPart_ofNormal, Part.getElem?_segments,
    Option.map_eq_some_iff] at hSeg
  rcases hSeg with ⟨t, _, hToken⟩
  cases hSlot : (config.grammar.slots part)[i]? with
  | none =>
      rw [hSlot] at hToken
      subst hToken
      exact Or.inr (reports_of_beyond part hSlot t)
  | some slot =>
      rcases hGrammar.exists_eq_str
          (List.mem_of_getElem? hSlot) with
        ⟨name, rfl⟩
      rw [hSlot] at hToken
      have hCategory : seg.category = some (.str name) := by
        rw [← hToken]
        rfl
      rcases knownCode_or_reports hSlot hCategory with
        ⟨hKnown, hNone⟩ | hReports
      · exact Or.inl
          ⟨hSteps.understands hMem hCategory hKnown, hNone⟩
      · exact Or.inr hReports

/- A decode accounts for the segments of its split. -/
theorem accountsFor
    (hSteps :
      config.Steps options text
        (.ofNormal config.grammar s) keyed d)
    (hGrammar : config.grammar.IsTextual)
    (hUnknown : options.reportUnknown = true) :
    config.AccountsFor (.ofNormal config.grammar s) d where
  segments := by
    intro part i seg hSeg
    have hMem :
        seg ∈ (Split.ofNormal config.grammar s).segments :=
      List.mem_of_mem_filter (List.mem_of_getElem? hSeg)
    have hPlace := hSteps.filter_place_eq hGrammar hUnknown hMem
    rcases hSteps.understands_or_reports hGrammar hSeg with
      ⟨hUnderstands, hNone⟩ | ⟨n, hSome, hReports⟩
    · left
      refine ⟨hUnderstands, ?_⟩
      rw [hNone, Option.toList_none,
        List.filter_eq_nil_iff] at hPlace
      intro n hn hStart
      exact hPlace n hn (decide_eq_true hStart)
    · right
      rw [hSome, Option.toList_some] at hPlace
      exact ⟨n, hPlace, hReports⟩
  notices := by
    intro n hn
    exact hSteps.mem_notices_cases hGrammar hUnknown hn
  colons := by
    rw [hSteps.filter_malformed_eq hGrammar hUnknown,
      Split.ofNormal_normalized, String.toList_ofList]
    exact Split.laterColons_cases s

end Steps

/-
  Nothing that is typed is lost. The segments of a text cover
  it, and a decode that reports what it does not know accounts
  for each of them.
-/
theorem coversText_and_accountsFor_of_decode
    {config : Configuration}
    (hGrammar : config.grammar.IsTextual)
    {options : Options}
    (hUnknown : options.reportUnknown = true)
    {text : String}
    {split : Split}
    (hSplit :
      Split.ofText options config.grammar text = .ok split) :
    split.CoversText ∧
      ∀ d,
        config.decode options text = .ok d →
          config.AccountsFor split d := by
  rcases Split.exists_of_ofText_eq_ok hSplit with
    ⟨dashes, _, rfl⟩
  refine ⟨Split.coversText_ofNormal _ _, ?_⟩
  intro d hd
  rcases decode_eq_ok_iff.mp hd with ⟨split, keyed, hSteps⟩
  have hSame := hSteps.splits
  rw [hSplit] at hSame
  cases hSame
  exact hSteps.accountsFor hGrammar hUnknown

/- All of a number with known, unknown and surplus segments. -/
theorem coversText_and_accountsFor_rn :
    Library.rn.grammar.IsTextual ∧
      ({} : Options).reportUnknown = true ∧
      ∃ split d,
        Split.ofText {} Library.rn.grammar
            "rn\u2013025-z: a:q-3-a-0-1-7" =
          .ok split ∧
        Library.rn.decode {} "rn\u2013025-z: a:q-3-a-0-1-7" =
          .ok d ∧
        split.CoversText ∧ Library.rn.AccountsFor split d := by
  have hGrammar : Library.rn.grammar.IsTextual :=
    Grammar.isTextual_ofNames _ _
  have hDashes : ({} : Options).dashes = .ok Options.usualDashes :=
    rfl
  have hSplit :=
    Split.ofText_eq_ok hDashes Library.rn.grammar
      "rn\u2013025-z: a:q-3-a-0-1-7"
  have hIsOk :
      (Library.rn.decode {}
        "rn\u2013025-z: a:q-3-a-0-1-7").isOk = true := by
    decide +kernel
  rcases Outcome.exists_eq_ok_of_isOk hIsOk with ⟨d, hd⟩
  have hUnknown : ({} : Options).reportUnknown = true := rfl
  have hAll :=
    coversText_and_accountsFor_of_decode hGrammar hUnknown hSplit
  exact
    ⟨hGrammar, hUnknown, _, d, hSplit, hd, hAll.1, hAll.2 d hd⟩

end Configuration

end ModelNumber
