import ModelNumber.Proofs.Configuration.Checked
import ModelNumber.Proofs.OrderedMap

/-
  What the check of a configuration finds out about the ranges
  of its position map. It compares bounds, and yet it finds
  exactly those ranges that leave the reference string, and
  reports once each two that use a character together and do
  not say so.

  Main declarations:
    * `PositionRange.Clashes`
    * `PositionRange.overlaps_iff_meets`
    * `PositionMap.areDistinct_ofRanges`
    * `Configuration.CheckedPositions`
    * `Configuration.checkOverlap_eq` and
      `Configuration.countP_checkOverlaps`
    * `Configuration.FitsReference` and
      `Configuration.checkPositions_eq_ok_nil_iff`
    * `Configuration.ReportsOverlaps` and
      `Configuration.reportsOverlaps_of_perm`
-/

namespace ModelNumber

------------------------------------------------------------
-- Ranges
------------------------------------------------------------

namespace PositionRange

/- A range lies inside a text of some length and is not empty. -/
structure IsInside
    (r : PositionRange)
    (length : Nat) : Prop where
  start : 0 ≤ r.start
  nonempty : r.start < r.stop
  stop : r.stop ≤ length

/- Some character is in both of two ranges. -/
def Meets (r s : PositionRange) : Prop :=
  ∃ i ∈ r.indices, i ∈ s.indices

instance (r s : PositionRange) : Decidable (r.Meets s) :=
  inferInstanceAs (Decidable (∃ i ∈ r.indices, i ∈ s.indices))

/- One of two ranges names the category of the other one. -/
def AreDocumented (r s : PositionRange) : Prop :=
  r.documents s.category = true ∨ s.documents r.category = true

instance (r s : PositionRange) :
    Decidable (r.AreDocumented s) :=
  inferInstanceAs
    (Decidable
      (r.documents s.category = true ∨
        s.documents r.category = true))

/- Two ranges use a character together and do not say so. -/
def Clashes (r s : PositionRange) : Prop :=
  r.Meets s ∧ ¬ r.AreDocumented s

instance (r s : PositionRange) : Decidable (r.Clashes s) :=
  inferInstanceAs (Decidable (r.Meets s ∧ ¬ r.AreDocumented s))

/- It does not matter which of two ranges comes first. -/
theorem Clashes.symm
    {r s : PositionRange}
    (hClash : r.Clashes s) :
    s.Clashes r := by
  rcases hClash with ⟨⟨i, hi, hOther⟩, hDocumented⟩
  exact ⟨⟨i, hOther, hi⟩, fun h => hDocumented h.symm⟩

/-
  Two ranges that are not empty overlap when they have a
  character in common: then the later one starts inside the
  other.
-/
theorem overlaps_iff_meets
    {r s : PositionRange}
    (hr : r.start < r.stop)
    (hs : s.start < s.stop) :
    r.overlaps s = true ↔ r.Meets s := by
  simp only [overlaps, Meets, mem_indices_iff, Bool.and_eq_true,
    decide_eq_true_eq]
  constructor
  · rintro ⟨hFirst, hSecond⟩
    exact ⟨max r.start s.start, by omega, by omega⟩
  · rintro ⟨i, hi, hOther⟩
    omega

/- The ranges are those of different categories. -/
def AreDistinct (ranges : List PositionRange) : Prop :=
  ranges.Pairwise fun r s => (r.category == s.category) = false

/- The order of ranges has no part in their being distinct. -/
theorem AreDistinct.perm
    {ranges others : List PositionRange}
    (hDistinct : AreDistinct ranges)
    (hPerm : others.Perm ranges) :
    AreDistinct others := by
  refine hPerm.symm.pairwise hDistinct ?_
  intro r s h
  rwa [BEq.comm]

end PositionRange

/- A map has one range for each category. -/
theorem PositionMap.areDistinct_ofRanges
    (entries : List PositionRange) :
    PositionRange.AreDistinct (ofRanges entries).ranges := by
  have hCategory :
      ∀ e ∈ (ofRanges entries).entries,
        (e.1 == e.2.category) = true := by
    intro e he
    rcases OrderedMap.exists_of_mem_entries_ofList he with
      ⟨d, hd, hKey, hValue⟩
    rcases List.mem_map.mp hd with ⟨r, _, rfl⟩
    rw [hValue]
    exact hKey
  rw [PositionRange.AreDistinct, ranges, OrderedMap.values,
    List.pairwise_map]
  refine (ofRanges entries).distinct.imp_of_mem ?_
  intro d e hd he hOther
  rwa [← BEq.congr_left (hCategory d hd),
    ← BEq.congr_right (hCategory e he)]

------------------------------------------------------------
-- The check of the ranges
------------------------------------------------------------

namespace Configuration

/- Ranges are checked if the reference string is a text. -/
theorem checkPositions_eq_ok
    {c : Configuration}
    {reference : String}
    (hReference : c.referenceString = .str reference) :
    c.checkPositions =
      .ok
        (c.positions.ranges.flatMap (c.checkRange reference.length)
          ++ checkOverlaps c.positions.ranges) := by
  rw [checkPositions, referenceLength, hReference]
  rfl

/- Nothing is wrong with a known range inside the text. -/
theorem checkRange_eq_nil_iff
    {c : Configuration}
    {length : Nat}
    {r : PositionRange} :
    c.checkRange length r = [] ↔
      c.catalog.contains r.category = true ∧
        r.IsInside length := by
  simp only [checkRange, List.append_eq_nil_iff,
    problemUnless_eq_nil_iff, Bool.and_eq_true,
    decide_eq_true_eq]
  constructor
  · rintro ⟨⟨hKnown, hStart, hStop⟩, hNonempty⟩
    exact ⟨hKnown, hStart, hNonempty, hStop⟩
  · rintro ⟨hKnown, hStart, hNonempty, hStop⟩
    exact ⟨⟨hKnown, hStart, hStop⟩, hNonempty⟩

/- Ranges overlap undocumented where two of them do. -/
theorem checkOverlaps_eq_nil_iff
    {ranges : List PositionRange} :
    checkOverlaps ranges = [] ↔
      ranges.Pairwise fun r s => checkOverlap r s = [] := by
  induction ranges with
  | nil => simp [checkOverlaps]
  | cons r rest ih =>
      rw [checkOverlaps, List.append_eq_nil_iff,
        List.flatMap_eq_nil_iff, List.pairwise_cons, ih]

/-
  The ranges of a position map lie inside a reference string
  of some length, and two of them that are not shared with
  any category are apart.
-/
structure CheckedPositions
    (c : Configuration)
    (length : Nat) : Prop where
  inside : ∀ r ∈ c.positions.ranges, r.IsInside length
  apart :
    c.positions.ranges.Pairwise fun r s =>
      r.sharedWith = [] →
        s.sharedWith = [] → r.overlaps s = false

/- The position map of a check that finds nothing. -/
theorem Checked.checkedPositions
    {c : Configuration}
    (hChecked : c.Checked)
    {reference : String}
    (hReference : c.referenceString = .str reference) :
    c.CheckedPositions reference.length := by
  have hPositions := hChecked.positions
  rw [checkPositions_eq_ok hReference, Except.ok.injEq,
    List.append_eq_nil_iff, List.flatMap_eq_nil_iff,
    checkOverlaps_eq_nil_iff] at hPositions
  constructor
  · intro r hr
    exact (checkRange_eq_nil_iff.mp (hPositions.1 r hr)).2
  · refine hPositions.2.imp ?_
    intro r s hPair hAlone hOtherAlone
    simpa [checkOverlap, problemUnless_eq_nil_iff,
      PositionRange.documents, hAlone, hOtherAlone] using hPair

------------------------------------------------------------
-- Overlaps
------------------------------------------------------------

/- Two ranges that are not empty are reported if they clash. -/
theorem checkOverlap_eq
    {r s : PositionRange}
    (hr : r.start < r.stop)
    (hs : s.start < s.stop) :
    checkOverlap r s =
      if r.Clashes s then [.undocumentedOverlap r s] else [] := by
  have hSame : r.overlaps s = decide (r.Meets s) := by
    rw [Bool.eq_iff_iff, decide_eq_true_eq]
    exact PositionRange.overlaps_iff_meets hr hs
  have hOk :
      (!r.overlaps s || r.documents s.category
          || s.documents r.category) =
        !decide (r.Clashes s) := by
    rw [hSame, Bool.or_assoc]
    simp [PositionRange.Clashes, PositionRange.AreDocumented]
  rw [checkOverlap, hOk, problemUnless]
  by_cases hClash : r.Clashes s
  · rw [if_pos hClash, decide_eq_true hClash]
    rfl
  · rw [if_neg hClash, decide_eq_false hClash]
    rfl

/- A range is reported with all behind it that it clashes with. -/
theorem flatMap_checkOverlap
    {r : PositionRange}
    {rest : List PositionRange}
    (hr : r.start < r.stop)
    (hRest : ∀ s ∈ rest, s.start < s.stop) :
    rest.flatMap (checkOverlap r) =
      (rest.filter fun s => r.Clashes s).map
        (.undocumentedOverlap r) := by
  induction rest with
  | nil => rfl
  | cons s rest ih =>
      rw [List.forall_mem_cons] at hRest
      rw [List.flatMap_cons, ih hRest.2,
        checkOverlap_eq hr hRest.1, List.filter_cons]
      by_cases hClash : r.Clashes s
      · rw [if_pos hClash, if_pos (decide_eq_true hClash)]
        rfl
      · rw [if_neg hClash, if_neg (by simpa using hClash)]
        rfl

/- An overlap is reported for ranges that clash. -/
theorem exists_of_mem_checkOverlaps
    {ranges : List PositionRange}
    (hNonempty : ∀ r ∈ ranges, r.start < r.stop)
    (hDistinct : PositionRange.AreDistinct ranges)
    {problem : Problem}
    (hProblem : problem ∈ checkOverlaps ranges) :
    ∃ r ∈ ranges, ∃ s ∈ ranges,
      (r.category == s.category) = false ∧
        r.Clashes s ∧
        problem = .undocumentedOverlap r s := by
  induction ranges with
  | nil => cases hProblem
  | cons r rest ih =>
      rw [List.forall_mem_cons] at hNonempty
      rw [PositionRange.AreDistinct, List.pairwise_cons]
        at hDistinct
      rw [checkOverlaps, List.mem_append,
        flatMap_checkOverlap hNonempty.1 hNonempty.2]
        at hProblem
      rcases hProblem with hProblem | hProblem
      · rcases List.mem_map.mp hProblem with ⟨s, hs, rfl⟩
        rcases List.mem_filter.mp hs with ⟨hs, hClash⟩
        exact
          ⟨r, List.mem_cons_self, s, List.mem_cons_of_mem _ hs,
            hDistinct.1 s hs, of_decide_eq_true hClash, rfl⟩
      · rcases ih hNonempty.2 hDistinct.2 hProblem with
          ⟨t, ht, s, hs, hFound⟩
        exact
          ⟨t, List.mem_cons_of_mem _ ht, s,
            List.mem_cons_of_mem _ hs, hFound⟩

end Configuration

------------------------------------------------------------
-- Counts of overlaps
------------------------------------------------------------

namespace Problem

/- A problem is the overlap of the ranges of two categories. -/
def tellsOverlap
    (k l : Scalar) : Problem → Bool
| .undocumentedOverlap r s =>
    (r.category == k && s.category == l)
      || (r.category == l && s.category == k)
| _ => false

variable {k l : Scalar} {r s : PositionRange}

/- It does not matter which of two categories is named first. -/
theorem tellsOverlap_comm (k l : Scalar) :
    tellsOverlap k l = tellsOverlap l k := by
  funext problem
  cases problem with
  | undocumentedOverlap r s => exact Bool.or_comm _ _
  | _ => rfl

/- An overlap with a third category is none of two others. -/
theorem tellsOverlap_eq_false_of_first
    (hk : (r.category == k) = false)
    (hl : (r.category == l) = false) :
    (undocumentedOverlap r s).tellsOverlap k l = false := by
  rw [tellsOverlap, hk, hl]
  rfl

/- The overlaps of a range are told apart by the other range. -/
theorem tellsOverlap_eq_beq
    (hOther : (r.category == l) = false) :
    (undocumentedOverlap r s).tellsOverlap r.category l =
      (s.category == l) := by
  rw [tellsOverlap, hOther, BEq.rfl]
  simp

end Problem

namespace Configuration

/- Each category is counted once among different ranges. -/
theorem countP_category_eq_one
    {rest : List PositionRange}
    (hDistinct : PositionRange.AreDistinct rest)
    {s : PositionRange}
    (hs : s ∈ rest) :
    rest.countP (fun t => t.category == s.category) = 1 := by
  induction rest with
  | nil => cases hs
  | cons t rest ih =>
      rw [PositionRange.AreDistinct, List.pairwise_cons]
        at hDistinct
      rw [List.countP_cons]
      rcases List.mem_cons.mp hs with rfl | hs
      · have hNone :
            rest.countP (fun t => t.category == s.category) =
              0 := by
          rw [List.countP_eq_zero]
          intro t ht
          rw [BEq.comm, hDistinct.1 t ht]
          exact Bool.false_ne_true
        rw [hNone, BEq.rfl]
        rfl
      · rw [ih hDistinct.2 hs, hDistinct.1 s hs]
        rfl

/- A range is reported once with each one it clashes with. -/
theorem countP_flatMap_checkOverlap
    {r : PositionRange}
    {rest : List PositionRange}
    (hr : r.start < r.stop)
    (hRest : ∀ s ∈ rest, s.start < s.stop)
    (hDistinct : PositionRange.AreDistinct (r :: rest))
    {s : PositionRange}
    (hs : s ∈ rest)
    (hClash : r.Clashes s) :
    (rest.flatMap (checkOverlap r)).countP
        (Problem.tellsOverlap r.category s.category) =
      1 := by
  rw [PositionRange.AreDistinct, List.pairwise_cons] at hDistinct
  have hTells :
      Problem.tellsOverlap r.category s.category
          ∘ Problem.undocumentedOverlap r =
        fun t => t.category == s.category := by
    funext t
    exact Problem.tellsOverlap_eq_beq (hDistinct.1 s hs)
  rw [flatMap_checkOverlap hr hRest, List.countP_map, hTells]
  refine countP_category_eq_one (hDistinct.2.filter _) ?_
  exact List.mem_filter.mpr ⟨hs, decide_eq_true hClash⟩

/- Two ranges that clash are reported once. -/
theorem countP_checkOverlaps
    {ranges : List PositionRange}
    (hNonempty : ∀ r ∈ ranges, r.start < r.stop)
    (hDistinct : PositionRange.AreDistinct ranges)
    {r s : PositionRange}
    (hr : r ∈ ranges)
    (hs : s ∈ ranges)
    (hOther : (r.category == s.category) = false)
    (hClash : r.Clashes s) :
    (checkOverlaps ranges).countP
        (Problem.tellsOverlap r.category s.category) =
      1 := by
  induction ranges with
  | nil => cases hr
  | cons t rest ih =>
      rw [List.forall_mem_cons] at hNonempty
      have hParts := List.pairwise_cons.mp hDistinct
      have hFirst :
          ∀ s ∈ rest,
            t.Clashes s →
              (checkOverlaps (t :: rest)).countP
                  (Problem.tellsOverlap t.category s.category) =
                1 := by
        intro s hs hClash
        rw [checkOverlaps, List.countP_append,
          countP_flatMap_checkOverlap hNonempty.1 hNonempty.2
            hDistinct hs hClash,
          Nat.add_eq_left, List.countP_eq_zero]
        intro problem hProblem
        rcases exists_of_mem_checkOverlaps hNonempty.2 hParts.2
            hProblem with
          ⟨u, hu, v, hv, _, _, rfl⟩
        simp [Problem.tellsOverlap, BEq.comm, hParts.1 u hu,
          hParts.1 v hv]
      rcases List.mem_cons.mp hr with rfl | hrRest
      · rcases List.mem_cons.mp hs with rfl | hsRest
        · rw [BEq.rfl] at hOther
          cases hOther
        · exact hFirst s hsRest hClash
      · rcases List.mem_cons.mp hs with rfl | hsRest
        · rw [Problem.tellsOverlap_comm]
          exact hFirst r hrRest hClash.symm
        · rw [checkOverlaps, List.countP_append,
            ih hNonempty.2 hParts.2 hrRest hsRest, Nat.add_eq_right,
            List.countP_eq_zero,
            flatMap_checkOverlap hNonempty.1 hNonempty.2]
          intro problem hProblem
          rcases List.mem_map.mp hProblem with ⟨u, _, rfl⟩
          rw [Problem.tellsOverlap_eq_false_of_first
            (hParts.1 r hrRest) (hParts.1 s hsRest)]
          exact Bool.false_ne_true

/- None is reported where all that meet say so. -/
theorem checkOverlaps_eq_nil_iff_of_areDistinct
    {ranges : List PositionRange}
    (hNonempty : ∀ r ∈ ranges, r.start < r.stop)
    (hDistinct : PositionRange.AreDistinct ranges) :
    checkOverlaps ranges = [] ↔
      ∀ r ∈ ranges, ∀ s ∈ ranges,
        (r.category == s.category) = false →
          r.Meets s → r.AreDocumented s := by
  constructor
  · intro hNone r hr s hs hOther hMeets
    by_contra hNot
    have hOnce :=
      countP_checkOverlaps hNonempty hDistinct hr hs hOther
        ⟨hMeets, hNot⟩
    rw [hNone, List.countP_nil] at hOnce
    cases hOnce
  · intro hAll
    rw [List.eq_nil_iff_forall_not_mem]
    intro problem hProblem
    rcases exists_of_mem_checkOverlaps hNonempty hDistinct
        hProblem with
      ⟨r, hr, s, hs, hOther, ⟨hMeets, hNot⟩, _⟩
    exact hNot (hAll r hr s hs hOther hMeets)

------------------------------------------------------------
-- The position map
------------------------------------------------------------

/-
  The ranges of a position map belong to categories of the
  catalog, lie inside a reference string of some length, and
  any two of them that use a character together say so.
-/
structure FitsReference
    (c : Configuration)
    (length : Nat) : Prop where
  known :
    ∀ r ∈ c.positions.ranges,
      c.catalog.contains r.category = true
  inside : ∀ r ∈ c.positions.ranges, r.IsInside length
  documented :
    ∀ r ∈ c.positions.ranges, ∀ s ∈ c.positions.ranges,
      (r.category == s.category) = false →
        r.Meets s → r.AreDocumented s

/- The check of a position map finds nothing if it fits. -/
theorem checkPositions_eq_ok_nil_iff
    {c : Configuration}
    {reference : String}
    (hReference : c.referenceString = .str reference)
    (hDistinct :
      PositionRange.AreDistinct c.positions.ranges) :
    c.checkPositions = .ok [] ↔
      c.FitsReference reference.length := by
  rw [checkPositions_eq_ok hReference, Except.ok.injEq,
    List.append_eq_nil_iff, List.flatMap_eq_nil_iff]
  simp only [checkRange_eq_nil_iff]
  constructor
  · rintro ⟨hRanges, hOverlaps⟩
    have hInside :
        ∀ r ∈ c.positions.ranges, r.IsInside reference.length :=
      fun r hr => (hRanges r hr).2
    rw [checkOverlaps_eq_nil_iff_of_areDistinct
      (fun r hr => (hInside r hr).nonempty) hDistinct]
      at hOverlaps
    exact ⟨fun r hr => (hRanges r hr).1, hInside, hOverlaps⟩
  · intro hFits
    refine ⟨fun r hr => ⟨hFits.known r hr, hFits.inside r hr⟩, ?_⟩
    rw [checkOverlaps_eq_nil_iff_of_areDistinct
      (fun r hr => (hFits.inside r hr).nonempty) hDistinct]
    exact hFits.documented

/-
  Problems report the overlaps among some ranges: each two
  ranges of different categories that use a character together
  and do not say so are reported once, and no others are.
-/
structure ReportsOverlaps
    (ranges : List PositionRange)
    (problems : List Problem) : Prop where
  once :
    ∀ r ∈ ranges, ∀ s ∈ ranges,
      (r.category == s.category) = false →
        r.Clashes s →
          problems.countP
              (Problem.tellsOverlap r.category s.category) =
            1
  only :
    ∀ r s,
      .undocumentedOverlap r s ∈ problems →
        r ∈ ranges ∧ s ∈ ranges ∧
          (r.category == s.category) = false ∧
          r.Clashes s

/- No problem of a single range is an overlap. -/
theorem tellsOverlap_eq_false_of_mem_checkRange
    {c : Configuration}
    {length : Nat}
    {r : PositionRange}
    {problem : Problem}
    (hProblem : problem ∈ c.checkRange length r)
    (k l : Scalar) :
    problem.tellsOverlap k l = false := by
  simp only [checkRange, problemUnless, List.mem_append] at hProblem
  rcases hProblem with (h | h) | h
  all_goals
    split at h
    · cases h
    · rw [List.mem_singleton.mp h]
      rfl

/-
  The check of a position map reports the overlaps among its
  ranges, in whatever order they come.
-/
theorem reportsOverlaps_of_perm
    {c : Configuration}
    {reference : String}
    (hReference : c.referenceString = .str reference)
    {ranges : List PositionRange}
    (hNonempty : ∀ r ∈ ranges, r.start < r.stop)
    (hDistinct : PositionRange.AreDistinct ranges)
    (hPerm : c.positions.ranges.Perm ranges)
    {problems : List Problem}
    (hProblems : c.checkPositions = .ok problems) :
    ReportsOverlaps ranges problems := by
  rw [checkPositions_eq_ok hReference, Except.ok.injEq]
    at hProblems
  subst hProblems
  have hNonempty :
      ∀ r ∈ c.positions.ranges, r.start < r.stop :=
    fun r hr => hNonempty r (hPerm.mem_iff.mp hr)
  have hDistinct :
      PositionRange.AreDistinct c.positions.ranges :=
    hDistinct.perm hPerm
  have hNone :
      ∀ k l,
        ∀ problem ∈
            c.positions.ranges.flatMap
              (c.checkRange reference.length),
          problem.tellsOverlap k l = false := by
    intro k l problem hProblem
    rcases List.mem_flatMap.mp hProblem with ⟨r, _, hRange⟩
    exact tellsOverlap_eq_false_of_mem_checkRange hRange k l
  constructor
  · intro r hr s hs hOther hClash
    rw [List.countP_append,
      countP_checkOverlaps hNonempty hDistinct
        (hPerm.mem_iff.mpr hr) (hPerm.mem_iff.mpr hs) hOther
        hClash,
      Nat.add_eq_right, List.countP_eq_zero]
    intro problem hProblem
    rw [hNone _ _ problem hProblem]
    exact Bool.false_ne_true
  · intro r s hProblem
    rcases List.mem_append.mp hProblem with hProblem | hProblem
    · have hOwn := hNone r.category s.category _ hProblem
      simp [Problem.tellsOverlap] at hOwn
    · rcases exists_of_mem_checkOverlaps hNonempty hDistinct
          hProblem with
        ⟨_, hr, _, hs, hOther, hClash, hSame⟩
      cases hSame
      exact
        ⟨hPerm.mem_iff.mp hr, hPerm.mem_iff.mp hs, hOther,
          hClash⟩

end Configuration

end ModelNumber
