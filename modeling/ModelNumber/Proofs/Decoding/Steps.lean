import ModelNumber.Decoding.Basic
import ModelNumber.Proofs.Enhancement.Run
import ModelNumber.Proofs.Segment.Split

/-
  The steps of a decode that has a result: the split, the keys
  of its categories, the enhanced attributes, the warnings and
  the notices. What else is said of a decode follows from
  them.

  Main declarations:
    * `Codes.get?_ofAttributes`
    * `Split.keyed_eq_ok_iff`
    * `Configuration.Steps`
    * `Configuration.decode_eq_ok_iff`
    * `Configuration.Steps.redescribed`
    * `Configuration.Steps.exists_attributeOf`
    * `Configuration.Steps.mem_categories`
-/

namespace ModelNumber

------------------------------------------------------------
-- Codes
------------------------------------------------------------

/- A category has the code of its last attribute. -/
theorem Codes.get?_ofAttributes
    (attributes : List Attribute)
    (key : Scalar) :
    (Codes.ofAttributes attributes).get? key =
      (Attribute.last? attributes key).map fun a =>
        .str a.code :=
  Attribute.get?_ofList_map (fun a => Scalar.str a.code)
    attributes key

------------------------------------------------------------
-- Keys
------------------------------------------------------------

/- The mapped segments of a split, with their categories as keys. -/
theorem Split.keyed_eq_ok_iff
    {split : Split}
    {keyed : List (Scalar × Segment)} :
    (split.mapped.mapM fun m => do
        return ((← m.1.key), m.2)) =
        (.ok keyed : Except Defect _) ↔
      split.mapped = keyed.map fun m => (Json.scalar m.1, m.2) := by
  rw [Outcome.mapM_eq_ok_iff, ← List.forall₂_eq_eq_eq,
    List.forall₂_map_right_iff]
  have hStep :
      ∀ (m : Json × Segment) (k : Scalar × Segment),
        (do return ((← m.1.key), m.2)) =
            (.ok k : Except Defect _) ↔
          m = (Json.scalar k.1, k.2) := by
    intro m k
    rw [Outcome.bind_eq_ok_iff]
    constructor
    · rintro ⟨key, hKey, hPair⟩
      rw [Outcome.pure_eq_ok_iff] at hPair
      rw [Json.key_eq_ok_iff] at hKey
      rw [← hPair, ← hKey]
    · intro hm
      refine ⟨k.1, ?_, ?_⟩
      · rw [Json.key_eq_ok_iff, hm]
      · rw [Outcome.pure_eq_ok_iff, hm]
  simp only [hStep]

/- A segment has a key when its category is that key. -/
theorem Split.mem_keyed_iff
    {split : Split}
    {keyed : List (Scalar × Segment)}
    (hKeys :
      split.mapped = keyed.map fun m => (Json.scalar m.1, m.2))
    {key : Scalar}
    {s : Segment} :
    (key, s) ∈ keyed ↔
      s ∈ split.segments ∧ s.category = some (.scalar key) := by
  have hMapped :
      (key, s) ∈ keyed ↔ (Json.scalar key, s) ∈ split.mapped := by
    rw [hKeys, List.mem_map]
    constructor
    · intro h
      exact ⟨(key, s), h, rfl⟩
    · rintro ⟨m, hm, hPair⟩
      simp only [Prod.mk.injEq, Json.scalar.injEq] at hPair
      rw [← hPair.1, ← hPair.2]
      exact hm
  rw [hMapped, mapped, List.mem_filterMap]
  constructor
  · rintro ⟨seg, hSeg, hCategory⟩
    rcases Option.map_eq_some_iff.mp hCategory with
      ⟨category, hSome, hPair⟩
    simp only [Prod.mk.injEq] at hPair
    rw [← hPair.2, ← hPair.1]
    exact ⟨hSeg, hSome⟩
  · rintro ⟨hSeg, hCategory⟩
    exact ⟨s, hSeg, by rw [hCategory]; rfl⟩

------------------------------------------------------------
-- Steps
------------------------------------------------------------

namespace Configuration

/- What a decode does on its way to a result. -/
structure Steps
    (config : Configuration)
    (options : Options)
    (text : String)
    (split : Split)
    (keyed : List (Scalar × Segment))
    (d : Decoding) : Prop where
  splits : Split.ofText options config.grammar text = .ok split
  keys :
    split.mapped = keyed.map fun m => (Json.scalar m.1, m.2)
  attributes :
    config.enhanced options
        (keyed.map fun m => config.attributeOf m.1 m.2) =
      .ok d.attributes
  warnings :
    config.warningsOf options d.attributes = .ok d.warnings
  notices :
    d.notices =
      split.notices ++
        if options.reportUnknown then
          keyed.filterMap fun m => config.noticeOf m.1 m.2
        else
          []
  raw : d.raw = text
  normalized : d.normalized = split.normalized
  modelType : d.modelType = config.key
  expectedSegments :
    d.expectedSegments = config.grammar.categories.length

/- A decode has a result when each of its steps has one. -/
theorem decode_eq_ok_iff
    {config : Configuration}
    {options : Options}
    {text : String}
    {d : Decoding} :
    config.decode options text = .ok d ↔
      ∃ split keyed, config.Steps options text split keyed d := by
  unfold decode
  simp only [Outcome.bind_eq_ok_iff, Outcome.pure_eq_ok_iff]
  constructor
  · rintro ⟨split, hSplit, keyed, hKeyed, attributes,
      hAttributes, warnings, hWarnings, rfl⟩
    exact
      ⟨split, keyed, hSplit, Split.keyed_eq_ok_iff.mp hKeyed,
        hAttributes, hWarnings, rfl, rfl, rfl, rfl, rfl⟩
  · rintro ⟨split, keyed, hSteps⟩
    refine
      ⟨split, hSteps.splits, keyed,
        Split.keyed_eq_ok_iff.mpr hSteps.keys, d.attributes,
        hSteps.attributes, d.warnings, hSteps.warnings, ?_⟩
    rcases hSteps with
      ⟨_, _, _, _, hNotices, hRaw, hNormalized, hType, hExpected⟩
    rw [← hRaw, ← hNormalized, ← hType, ← hExpected, ← hNotices]

/- Enhancing attributes writes nothing but descriptions. -/
theorem redescribed_of_enhanced
    {config : Configuration}
    {options : Options}
    {as bs : List Attribute}
    (h : config.enhanced options as = .ok bs) :
    Redescribed as bs := by
  unfold enhanced at h
  split at h
  · rcases Outcome.bind_eq_ok_iff.mp h with ⟨enhancers, _, hRun⟩
    exact Enhancer.redescribes_of_runAll hRun
  · cases h
    exact .refl _

namespace Steps

variable {config : Configuration} {options : Options}
variable {text : String} {split : Split}
variable {keyed : List (Scalar × Segment)} {d : Decoding}

/- A decode has the normal form of its text. -/
theorem normalize_eq_ok
    (hSteps : config.Steps options text split keyed d) :
    options.normalize text = .ok d.normalized := by
  rcases Split.exists_of_ofText_eq_ok hSteps.splits with
    ⟨dashes, hDashes, rfl⟩
  rw [Options.normalize_eq_ok hDashes, hSteps.normalized,
    Split.ofNormal_normalized]

/- The attributes of a decode are those of its segments. -/
theorem redescribed
    (hSteps : config.Steps options text split keyed d) :
    Redescribed
      (keyed.map fun m => config.attributeOf m.1 m.2)
      d.attributes :=
  redescribed_of_enhanced hSteps.attributes

/- A segment is keyed by its category. -/
theorem mem_keyed_iff
    (hSteps : config.Steps options text split keyed d)
    {key : Scalar}
    {s : Segment} :
    (key, s) ∈ keyed ↔
      s ∈ split.segments ∧ s.category = some (.scalar key) :=
  Split.mem_keyed_iff hSteps.keys

/- An attribute of a decode is that of one of its segments. -/
theorem exists_attributeOf
    (hSteps : config.Steps options text split keyed d)
    {a : Attribute}
    (ha : a ∈ d.attributes) :
    ∃ key s,
      (key, s) ∈ keyed ∧
        (config.attributeOf key s).Redescribes a := by
  rcases hSteps.redescribed.exists_of_mem_right ha with
    ⟨b, hb, hab⟩
  rcases List.mem_map.mp hb with ⟨m, hm, rfl⟩
  exact ⟨m.1, m.2, hm, hab⟩

/- The key of a segment is a category of the grammar. -/
theorem mem_categories
    (hSteps : config.Steps options text split keyed d)
    {key : Scalar}
    {s : Segment}
    (hKeyed : (key, s) ∈ keyed) :
    Json.scalar key ∈ config.grammar.categories := by
  rcases hSteps.mem_keyed_iff.mp hKeyed with ⟨hSeg, hCategory⟩
  rcases Split.exists_of_ofText_eq_ok hSteps.splits with
    ⟨dashes, _, rfl⟩
  exact Split.mem_categories_of_mem_segments hSeg hCategory

end Steps

end Configuration

end ModelNumber
