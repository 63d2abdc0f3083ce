import ModelNumber.Library.RN
import ModelNumber.Proofs.Configuration.Ranges

/-
  What the check of a configuration finds out about the order
  of its ranges. It compares each range with the one before in
  the same part of the grammar, and with the colon. So if it
  finds nothing, the ranges start from left to right along the
  whole grammar, and the position map is laid out soundly.

  Main declarations:
    * `PositionMap.rangeAt?`
    * `Configuration.sorted_and_sides_of_checkOrder`
    * `Configuration.RunsInOrder` and
      `Configuration.CheckedGrammar.runsInOrder`
    * `Configuration.DecidesLayout`
    * `Configuration.decidesLayout_of_ofRanges`
-/

namespace ModelNumber

------------------------------------------------------------
-- Ranges along a part
------------------------------------------------------------

namespace PositionMap

/- The range of a category, none if it is no key or has none. -/
def rangeAt?
    (m : PositionMap)
    (category : Json) : Option PositionRange :=
  match category with
  | .scalar key => m.get? key
  | _ => none

/- A range that is found is one of the map. -/
theorem mem_ranges_of_rangeAt?
    {m : PositionMap}
    {category : Json}
    {r : PositionRange}
    (h : r ∈ m.rangeAt? category) :
    r ∈ m.ranges := by
  cases category with
  | scalar key => exact OrderedMap.mem_values_of_get? h
  | arr | obj => cases h

end PositionMap

namespace Configuration

/-
  A part of a grammar whose order is checked without problems:
  the ranges of those categories that have one start from left
  to right, and each is on its side of the colon.
-/
theorem sorted_and_sides_of_checkOrder
    {positions : PositionMap}
    {part : Part}
    {colon : Option Nat}
    {categories : List Json}
    {previous : Option PositionRange}
    (hOrder :
      checkOrder positions part colon previous categories =
        .ok []) :
    ((previous.toList
          ++ categories.filterMap positions.rangeAt?).Pairwise
        fun r s => r.start ≤ s.start) ∧
      ∀ category ∈ categories,
        ∀ r ∈ positions.rangeAt? category,
          checkSide part colon category r = [] := by
  induction categories generalizing previous with
  | nil => cases previous <;> simp
  | cons category categories ih =>
      rw [checkOrder, Outcome.bind_eq_ok_iff] at hOrder
      rcases hOrder with ⟨key, hKey, hOrder⟩
      rw [Json.key_eq_ok_iff] at hKey
      subst hKey
      cases hRange : positions.get? key with
      | none =>
          rw [hRange] at hOrder
          rcases ih hOrder with ⟨hStarts, hSides⟩
          have hNone : positions.rangeAt? (.scalar key) = none :=
            hRange
          rw [List.filterMap_cons_none hNone]
          refine
            ⟨hStarts, List.forall_mem_cons.mpr ⟨?_, hSides⟩⟩
          rw [hNone]
          rintro r ⟨⟩
      | some r =>
          simp only [hRange, Outcome.bind_eq_ok_iff,
            Outcome.pure_eq_ok_iff, List.append_eq_nil_iff]
            at hOrder
          rcases hOrder with ⟨_, hRest, ⟨hSide, hStart⟩, rfl⟩
          rcases ih hRest with ⟨hStarts, hSides⟩
          have hSome :
              positions.rangeAt? (.scalar key) = some r :=
            hRange
          rw [List.filterMap_cons_some hSome]
          refine ⟨?_, List.forall_mem_cons.mpr ⟨?_, hSides⟩⟩
          · rw [Option.toList_some, List.singleton_append]
              at hStarts
            cases previous with
            | none => exact hStarts
            | some p =>
                have hFirst : p.start ≤ r.start := by
                  simpa [problemUnless_eq_nil_iff] using hStart
                refine List.pairwise_cons.mpr ⟨?_, hStarts⟩
                intro s hs
                rcases List.mem_cons.mp hs with rfl | hs
                · exact hFirst
                · exact
                    Int.le_trans hFirst
                      ((List.pairwise_cons.mp hStarts).1 s hs)
          · rw [hSome]
            rintro s ⟨⟩
            exact hSide

------------------------------------------------------------
-- Ranges along the grammar
------------------------------------------------------------

/-
  The ranges of a position map run along a grammar: those of
  all categories that have one start from left to right, over
  both parts, and the colon of the reference string is between
  those of the model part and those of the feature part.
-/
structure RunsInOrder
    (c : Configuration)
    (reference : List Char) : Prop where
  starts :
    (c.grammar.categories.filterMap c.positions.rangeAt?).Pairwise
      fun r s => r.start ≤ s.start
  model :
    ∀ colon ∈ reference.findIdx? (· == ':'),
      ∀ category ∈ c.grammar.modelPart,
        ∀ r ∈ c.positions.rangeAt? category, r.stop ≤ colon
  feature :
    ∀ colon ∈ reference.findIdx? (· == ':'),
      ∀ category ∈ c.grammar.featurePart,
        ∀ r ∈ c.positions.rangeAt? category, colon < r.start

/- Without a colon a grammar has no categories of features. -/
theorem CheckedGrammar.featurePart_eq_nil
    {c : Configuration}
    {reference : List Char}
    (hGrammar : c.CheckedGrammar reference)
    (hColon : reference.findIdx? (· == ':') = none) :
    c.grammar.featurePart = [] := by
  have hNone : ':' ∉ reference := by
    intro hMem
    have hTest := List.findIdx?_eq_none_iff.mp hColon ':' hMem
    cases hTest
  have hChunks := hGrammar.forall₂_chunks .feature
  rw [Part.chunks, Part.text, (Text.parts_of_no_colon hNone).2]
    at hChunks
  exact List.forall₂_nil_right_iff.mp hChunks

/-
  Ranges that are not empty run in order if the check of the
  grammar finds nothing. Within a part this is what the check
  compares. From one part to the next it follows from where
  the colon is.
-/
theorem CheckedGrammar.runsInOrder
    {c : Configuration}
    {reference : List Char}
    (hGrammar : c.CheckedGrammar reference)
    (hNonempty :
      ∀ r ∈ c.positions.ranges, r.start < r.stop) :
    c.RunsInOrder reference := by
  rcases sorted_and_sides_of_checkOrder (hGrammar.order .model)
    with ⟨hModelStarts, hModelSides⟩
  rcases sorted_and_sides_of_checkOrder (hGrammar.order .feature)
    with ⟨hFeatureStarts, hFeatureSides⟩
  have hModel :
      ∀ colon ∈ reference.findIdx? (· == ':'),
        ∀ category ∈ c.grammar.modelPart,
          ∀ r ∈ c.positions.rangeAt? category,
            r.stop ≤ colon := by
    intro colon hColon category hCategory r hr
    have hSide := hModelSides category hCategory r hr
    rw [hColon, checkSide, problemUnless_eq_nil_iff] at hSide
    exact of_decide_eq_true hSide
  have hFeature :
      ∀ colon ∈ reference.findIdx? (· == ':'),
        ∀ category ∈ c.grammar.featurePart,
          ∀ r ∈ c.positions.rangeAt? category,
            colon < r.start := by
    intro colon hColon category hCategory r hr
    have hSide := hFeatureSides category hCategory r hr
    rw [hColon, checkSide, problemUnless_eq_nil_iff] at hSide
    exact of_decide_eq_true hSide
  refine ⟨?_, hModel, hFeature⟩
  rw [Grammar.categories, List.filterMap_append]
  refine
    List.pairwise_append.mpr ⟨hModelStarts, hFeatureStarts, ?_⟩
  intro r hr s hs
  rcases List.mem_filterMap.mp hr with
    ⟨category, hCategory, hRange⟩
  rcases List.mem_filterMap.mp hs with
    ⟨other, hOther, hOtherRange⟩
  cases hColon : reference.findIdx? (· == ':') with
  | some colon =>
      have hLeft := hModel colon hColon category hCategory r hRange
      have hRight := hFeature colon hColon other hOther s hOtherRange
      have hOrder :=
        hNonempty r (PositionMap.mem_ranges_of_rangeAt? hRange)
      omega
  | none =>
      rw [hGrammar.featurePart_eq_nil hColon] at hOther
      cases hOther

------------------------------------------------------------
-- Layouts
------------------------------------------------------------

/-
  The check of a configuration decides whether its position
  map is laid out soundly along a reference string. It finds
  nothing wrong with the ranges exactly if they fit the
  string. Where none is empty, it reports their overlaps, and
  in any order of the ranges the same ones. If it finds
  nothing at all, the ranges run in order.
-/
structure DecidesLayout
    (c : Configuration)
    (reference : String) : Prop where
  fits :
    ∃ problems,
      c.checkPositions = .ok problems ∧
        (problems = [] ↔ c.FitsReference reference.length)
  reports :
    (∀ r ∈ c.positions.ranges, r.start < r.stop) →
      ∀ m : PositionMap,
        m.ranges.Perm c.positions.ranges →
          ∃ problems,
            { c with positions := m }.checkPositions =
                .ok problems ∧
              ReportsOverlaps c.positions.ranges problems
  runs : c.check = .ok [] → c.RunsInOrder reference.toList

/-
  The check of any configuration decides its layout. Position
  maps are made of ranges, each under its own category.
-/
theorem decidesLayout_of_ofRanges
    {c : Configuration}
    {entries : List PositionRange}
    (hPositions : c.positions = .ofRanges entries)
    {reference : String}
    (hReference : c.referenceString = .str reference) :
    c.DecidesLayout reference := by
  have hDistinct :
      PositionRange.AreDistinct c.positions.ranges := by
    rw [hPositions]
    exact PositionMap.areDistinct_ofRanges entries
  constructor
  · have hProblems := checkPositions_eq_ok hReference
    refine ⟨_, hProblems, ?_⟩
    rw [← checkPositions_eq_ok_nil_iff hReference hDistinct,
      hProblems, Except.ok.injEq]
  · intro hNonempty m hPerm
    have hProblems :=
      checkPositions_eq_ok
        (c := { c with positions := m }) hReference
    exact
      ⟨_, hProblems,
        reportsOverlaps_of_perm
          (c := { c with positions := m }) hReference hNonempty
          hDistinct hPerm hProblems⟩
  · intro hCheck
    have hChecked := check_eq_ok_nil_iff.mp hCheck
    rcases exists_of_checkGrammar hChecked.grammar with
      ⟨_, hSame, hGrammar⟩
    rw [hReference] at hSame
    cases hSame
    have hRanges := hChecked.checkedPositions hReference
    exact
      hGrammar.runsInOrder fun r hr =>
        (hRanges.inside r hr).nonempty

/-
  Three ranges in a row, each of which starts inside the one
  before. Only the last one says so.
-/
def crossing : List PositionRange :=
  [ { category := "GEN"
      start := 0
      stop := 4
      sharedWith := [] },
    { category := "SIZE"
      start := 3
      stop := 6
      sharedWith := [] },
    { category := "VOLTAGE"
      start := 5
      stop := 8
      sharedWith := [.str "SIZE"] } ]

/-
  The RN series is laid out soundly. With crossing ranges in
  its stead, the first two of them are reported once, also if
  they are entered from the last to the first.
-/
theorem decidesLayout_rn :
    ∃ reference entries,
      Library.rn.referenceString = .str reference ∧
        Library.rn.positions = .ofRanges entries ∧
        Library.rn.check = .ok [] ∧
        Library.rn.FitsReference reference.length ∧
        Library.rn.RunsInOrder reference.toList ∧
        ∃ problems,
          { Library.rn with
            positions := .ofRanges crossing.reverse
          }.checkPositions = .ok problems ∧
            problems.countP (Problem.tellsOverlap "GEN" "SIZE") =
              1 ∧
            ReportsOverlaps crossing problems := by
  have hCheck : Library.rn.check = .ok [] := rfl
  have hLayout :=
    decidesLayout_of_ofRanges (c := Library.rn) rfl rfl
  have hCrossing :
      (PositionMap.ofRanges crossing).ranges = crossing := rfl
  have hReverse :
      (PositionMap.ofRanges crossing.reverse).ranges =
        crossing.reverse := rfl
  rcases (decidesLayout_of_ofRanges
      (c := { Library.rn with positions := .ofRanges crossing })
      rfl rfl).reports (by rw [hCrossing]; decide)
      (.ofRanges crossing.reverse)
      (by rw [hCrossing, hReverse]; exact List.reverse_perm _)
    with
    ⟨problems, hProblems, hReports⟩
  rw [hCrossing] at hReports
  refine
    ⟨_, _, rfl, rfl, hCheck, ?_, hLayout.runs hCheck, problems,
      hProblems, ?_, hReports⟩
  · rcases hLayout.fits with ⟨found, hFound, hFits⟩
    rw [(check_eq_ok_nil_iff.mp hCheck).positions,
      Except.ok.injEq] at hFound
    exact hFits.mp hFound.symm
  · exact
      hReports.once _ List.mem_cons_self _
        (List.mem_cons_of_mem _ List.mem_cons_self) (by decide)
        (by decide)

end Configuration

end ModelNumber
