import ModelNumber.Library.RN
import ModelNumber.Proofs.Decoding.Account

/-
  The switches of a decode do not interfere. Options that read
  texts alike give decodes of the same segments. Of these,
  enhancement changes the descriptions only, the rules do not
  see whether it has run, and the notices about what is not in
  the catalog can be left out without any change to the rest.

  Main declarations:
    * `Options.ReadAlike`
    * `Options.ReadAlike.eq_of_ofText`
    * `Notice.tellsUnknown`
    * `Configuration.warningsOf_eq_of_redescribed`
    * `Decoding.DiffersAsAsked`
    * `Configuration.differsAsAsked_of_decode`
-/

namespace ModelNumber

------------------------------------------------------------
-- Options
------------------------------------------------------------

/-
  Options read texts alike: they name the same dashes, in any
  order, and agree on capital letters.
-/
structure Options.ReadAlike (o p : Options) : Prop where
  dashes :
    ∀ dash, dash ∈ o.dashCharacters ↔ dash ∈ p.dashCharacters
  uppercase : o.uppercase = p.uppercase

/- The order of the dashes makes no difference. -/
theorem Text.normal_congr
    {dashes others : List Char}
    (hSame : ∀ c, c ∈ dashes ↔ c ∈ others)
    (uppercase : Bool)
    (s : List Char) :
    normal dashes uppercase s = normal others uppercase s := by
  have hContains :
      ∀ c, dashes.contains c = others.contains c := by
    intro c
    rw [Bool.eq_iff_iff, List.contains_iff_mem,
      List.contains_iff_mem]
    exact hSame c
  simp only [normal, hContains]

namespace Options

variable {o p : Options} {ds es : List Char}

/- A dash is the only character of one of the texts. -/
theorem mem_dashes_iff
    (hDashes : o.dashes = .ok ds)
    {c : Char} :
    c ∈ ds ↔ ∃ dash ∈ o.dashCharacters, onlyChar dash = .ok c := by
  constructor
  · intro hc
    exact Outcome.exists_of_mem_result hDashes hc
  · rintro ⟨dash, hMem, hOnly⟩
    rcases Outcome.exists_of_mem_of_mapM_eq_ok hDashes hMem with
      ⟨d, hd, hOnlyToo⟩
    rw [hOnly] at hOnlyToo
    cases hOnlyToo
    exact hd

/- Options that read alike split a text in the same way. -/
theorem ReadAlike.eq_of_ofText
    (hAlike : o.ReadAlike p)
    {g : Grammar}
    {text : String}
    {split other : Split}
    (hSplit : Split.ofText o g text = .ok split)
    (hOther : Split.ofText p g text = .ok other) :
    split = other := by
  rcases Split.exists_of_ofText_eq_ok hSplit with
    ⟨ds, hDashes, rfl⟩
  rcases Split.exists_of_ofText_eq_ok hOther with
    ⟨es, hOthers, rfl⟩
  have hSame : ∀ c, c ∈ ds ↔ c ∈ es := by
    intro c
    rw [mem_dashes_iff hDashes, mem_dashes_iff hOthers]
    simp only [hAlike.dashes]
  rw [Text.normal_congr hSame, hAlike.uppercase]

end Options

------------------------------------------------------------
-- Notices
------------------------------------------------------------

/- A notice tells that something is not in the catalog. -/
def Notice.tellsUnknown (n : Notice) : Bool :=
  n.code == "UNKNOWN_CATEGORY" || n.code == "UNKNOWN_CODE"

/- The notices of a split do not look at the catalog. -/
theorem Split.filter_not_tellsUnknown
    (g : Grammar)
    (s : List Char) :
    (ofNormal g s).notices.filter (!·.tellsUnknown) =
      (ofNormal g s).notices := by
  rw [List.filter_eq_self]
  intro n hn
  rcases notice_cases hn with ⟨_, _, _, _, rfl, _⟩ | ⟨_, rfl, _⟩
  · rfl
  · rfl

namespace Configuration

/- The notices about keyed segments all do. -/
theorem filter_not_tellsUnknown
    (config : Configuration)
    (keyed : List (Scalar × Segment)) :
    (keyed.filterMap fun m => config.noticeOf m.1 m.2).filter
        (!·.tellsUnknown) =
      [] := by
  rw [List.filter_eq_nil_iff]
  intro n hn
  rcases List.mem_filterMap.mp hn with ⟨m, _, hNotice⟩
  rcases noticeOf_cases config m.1 m.2 with
    ⟨_, hSome⟩ | ⟨_, _, name, position, hSome⟩ | ⟨_, hNone⟩
  · rw [hSome] at hNotice
    cases hNotice
    simp [Notice.tellsUnknown, Notice.code]
  · rw [hSome] at hNotice
    cases hNotice
    simp [Notice.tellsUnknown, Notice.code]
  · rw [hNone] at hNotice
    cases hNotice

------------------------------------------------------------
-- Stages
------------------------------------------------------------

variable {config : Configuration} {o p : Options}

/- Attributes that are not enhanced stay as they are. -/
theorem eq_of_enhanced
    (hEnhance : o.enhance = false)
    {as bs : List Attribute}
    (h : config.enhanced o as = .ok bs) :
    bs = as := by
  rw [enhanced, hEnhance] at h
  exact (Outcome.pure_eq_ok_iff.mp h).symm

/- Enhancing attributes only adds to their descriptions. -/
theorem extends_of_enhanced
    {as bs : List Attribute}
    (h : config.enhanced o as = .ok bs) :
    List.Forall₂ Attribute.Extends as bs := by
  unfold enhanced at h
  split at h
  · rcases Outcome.bind_eq_ok_iff.mp h with ⟨enhancers, _, hRun⟩
    exact Enhancer.extends_of_runAll hRun
  · cases h
    exact List.forall₂_same.mpr fun a _ => .refl a

/- The rules do not look at descriptions. -/
theorem warningsOf_eq_of_redescribed
    (hValidate : o.validate = p.validate)
    {as bs : List Attribute}
    (hSame : Redescribed as bs) :
    config.warningsOf o as = config.warningsOf p bs := by
  have hEntry :
      ∀ a b : Attribute, a.Redescribes b →
        (b.category, Scalar.str b.code) =
          (a.category, Scalar.str a.code) := by
    intro a b hab
    rw [hab]
  have hCodes :
      Codes.ofAttributes bs = Codes.ofAttributes as := by
    rw [Codes.ofAttributes, hSame.map_eq hEntry,
      Codes.ofAttributes]
  rw [warningsOf, warningsOf, hValidate, hCodes]

/- Steps on the same split are about the same keyed segments. -/
theorem Steps.keyed_eq
    {text : String}
    {split : Split}
    {keyed others : List (Scalar × Segment)}
    {d e : Decoding}
    (hSteps : config.Steps o text split keyed d)
    (hOther : config.Steps p text split others e) :
    keyed = others := by
  have hKeys := Split.keyed_eq_ok_iff.mpr hSteps.keys
  rw [Split.keyed_eq_ok_iff.mpr hOther.keys] at hKeys
  cases hKeys
  rfl

end Configuration

------------------------------------------------------------
-- Two decodes of a text
------------------------------------------------------------

/-
  Two decodes differ only as the switches of their options do:
  in descriptions by enhancement, in warnings by validation,
  and in the notices about unknown categories and codes.
-/
structure Decoding.DiffersAsAsked
    (o p : Options)
    (d e : Decoding) : Prop where
  raw : d.raw = e.raw
  normalized : d.normalized = e.normalized
  modelType : d.modelType = e.modelType
  expectedSegments : d.expectedSegments = e.expectedSegments
  isComplete : d.isComplete = e.isComplete
  attributes : Redescribed d.attributes e.attributes
  enhanced :
    o.enhance = p.enhance → d.attributes = e.attributes
  extended :
    o.enhance = false →
      p.enhance = true →
        List.Forall₂ Attribute.Extends d.attributes e.attributes
  warnings : o.validate = p.validate → d.warnings = e.warnings
  silent : o.validate = false → d.warnings = []
  reported :
    o.reportUnknown = p.reportUnknown → d.notices = e.notices
  unreported :
    o.reportUnknown = false →
      p.reportUnknown = true →
        d.notices = e.notices.filter (!·.tellsUnknown)

namespace Configuration

variable {config : Configuration} {o p : Options}
variable {text : String} {s : List Char}
variable {keyed : List (Scalar × Segment)} {d e : Decoding}

/- The stages of two decodes that start from the same split. -/
theorem Steps.differsAsAsked
    (hSteps :
      config.Steps o text (.ofNormal config.grammar s) keyed d)
    (hOther :
      config.Steps p text (.ofNormal config.grammar s) keyed e) :
    Decoding.DiffersAsAsked o p d e := by
  have hAttributes : Redescribed d.attributes e.attributes :=
    hSteps.redescribed.symm.trans hOther.redescribed
  constructor
  · rw [hSteps.raw, hOther.raw]
  · rw [hSteps.normalized, hOther.normalized]
  · rw [hSteps.modelType, hOther.modelType]
  · rw [hSteps.expectedSegments, hOther.expectedSegments]
  · rw [Decoding.isComplete, Decoding.isComplete,
      hSteps.expectedSegments, hOther.expectedSegments,
      hAttributes.length_eq]
  · exact hAttributes
  · intro hEnhance
    have hEnhanced := hSteps.attributes
    rw [enhanced, hEnhance, ← enhanced, hOther.attributes]
      at hEnhanced
    exact (Except.ok.inj hEnhanced).symm
  · intro hOff _
    rw [eq_of_enhanced hOff hSteps.attributes]
    exact extends_of_enhanced hOther.attributes
  · intro hValidate
    have hWarnings := hSteps.warnings
    rw [warningsOf_eq_of_redescribed hValidate hAttributes,
      hOther.warnings] at hWarnings
    exact (Except.ok.inj hWarnings).symm
  · intro hOff
    have hWarnings := hSteps.warnings
    rw [warningsOf, hOff] at hWarnings
    exact (Outcome.pure_eq_ok_iff.mp hWarnings).symm
  · intro hReport
    rw [hSteps.notices, hOther.notices, hReport]
  · intro hOff hOn
    rw [hSteps.notices, hOther.notices, hOff, hOn,
      if_neg Bool.false_ne_true, if_pos rfl, List.filter_append,
      Split.filter_not_tellsUnknown, filter_not_tellsUnknown]

/-
  Whatever is typed, decodes under options that read alike
  differ only as the other switches of these do.
-/
theorem differsAsAsked_of_decode
    (hAlike : o.ReadAlike p)
    (hd : config.decode o text = .ok d)
    (he : config.decode p text = .ok e) :
    Decoding.DiffersAsAsked o p d e := by
  rcases decode_eq_ok_iff.mp hd with ⟨split, keyed, hSteps⟩
  rcases decode_eq_ok_iff.mp he with ⟨other, others, hOther⟩
  have hSplit := hAlike.eq_of_ofText hSteps.splits hOther.splits
  subst hSplit
  have hKeyed := hSteps.keyed_eq hOther
  subst hKeyed
  rcases Split.exists_of_ofText_eq_ok hSteps.splits with
    ⟨dashes, _, rfl⟩
  exact hSteps.differsAsAsked hOther

/- Options with all switches off, for two kinds of dashes. -/
def quietOptions : Options where
  dashCharacters := ["~", "\u2212"]
  enhance := false
  validate := false
  reportUnknown := false

/- Options with all switches on, for the same dashes. -/
def loudOptions : Options where
  dashCharacters := ["\u2212", "~", "\u2212"]

/-
  A number with a code that is derived from, a wrong capacity,
  an unknown code and a second colon, read quietly and loudly.
-/
theorem differsAsAsked_rn :
    quietOptions.ReadAlike loudOptions ∧
      ∃ d e,
        Library.rn.decode quietOptions
            "rn~025~3\u22120~e~a~0~0~0~4:q:7" = .ok d ∧
          Library.rn.decode loudOptions
              "rn~025~3\u22120~e~a~0~0~0~4:q:7" = .ok e ∧
            (d.attributes.length, d.warnings.length,
                d.notices.map Notice.code) =
              (12, 0, ["MALFORMED_SEPARATOR"]) ∧
            (e.attributes.length, e.warnings.length,
                e.notices.map Notice.code) =
              (12, 1,
                ["MALFORMED_SEPARATOR", "UNKNOWN_CODE"]) ∧
            Decoding.DiffersAsAsked quietOptions loudOptions d e := by
  have hAlike : quietOptions.ReadAlike loudOptions := by
    constructor
    · intro dash
      grind [quietOptions, loudOptions]
    · rfl
  have hQuiet :
      ((Library.rn.decode quietOptions
          "rn~025~3\u22120~e~a~0~0~0~4:q:7").toOption.map fun d =>
        (d.attributes.length, d.warnings.length,
          d.notices.map Notice.code)) =
        some (12, 0, ["MALFORMED_SEPARATOR"]) := by
    decide +kernel
  have hLoud :
      ((Library.rn.decode loudOptions
          "rn~025~3\u22120~e~a~0~0~0~4:q:7").toOption.map fun e =>
        (e.attributes.length, e.warnings.length,
          e.notices.map Notice.code)) =
        some
          (12, 1, ["MALFORMED_SEPARATOR", "UNKNOWN_CODE"]) := by
    decide +kernel
  rcases Option.map_eq_some_iff.mp hQuiet with
    ⟨d, hSome, hCounts⟩
  rcases Option.map_eq_some_iff.mp hLoud with
    ⟨e, hSomeToo, hCountsToo⟩
  have hd := Outcome.toOption_eq_some_iff.mp hSome
  have he := Outcome.toOption_eq_some_iff.mp hSomeToo
  exact
    ⟨hAlike, d, e, hd, he, hCounts, hCountsToo,
      differsAsAsked_of_decode hAlike hd he⟩

end Configuration

end ModelNumber
