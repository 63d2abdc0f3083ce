import ModelNumber.Library.RN
import ModelNumber.Proofs.Decoding.Steps

/-
  A number can be typed in its normal form. The normal form is
  its own normal form, and it is decoded as the text is, with
  the same segments, notices, attributes and warnings. This is
  so for every text exactly when the dashes are settled, as
  the usual ones are, and all are where capitals are not made.

  Main declarations:
    * `Configuration.decode_eq_map_of_ofText`
    * `Options.SettlesOn`
    * `Options.exists_settlesOn`
    * `Options.settledDashes_iff_settlesOn`
-/

namespace ModelNumber

------------------------------------------------------------
-- Decoding another text
------------------------------------------------------------

/- Texts that are split alike are decoded alike. -/
theorem Configuration.decode_eq_map_of_ofText
    {config : Configuration}
    {options : Options}
    {text other : String}
    (hSplit :
      Split.ofText options config.grammar other =
        Split.ofText options config.grammar text) :
    config.decode options other =
      (config.decode options text).map fun d =>
        { d with raw := other } := by
  simp only [decode, hSplit, Outcome.map_bind]
  rfl

------------------------------------------------------------
-- Normal forms
------------------------------------------------------------

namespace Options

variable {options : Options} {dashes : List Char}

/-
  A text settles on its normal form: this is its own normal
  form, and every configuration decodes it as the text. Only
  the raw text of the decode differs.
-/
structure SettlesOn
    (options : Options)
    (text normal : String) : Prop where
  normalize : options.normalize text = .ok normal
  again : options.normalize normal = .ok normal
  normalized :
    ∀ (c : Configuration) (d : Decoding),
      c.decode options text = .ok d → d.normalized = normal
  decode :
    ∀ c : Configuration,
      c.decode options normal =
        (c.decode options text).map fun d =>
          { d with raw := normal }

/- With settled dashes every text settles on its normal form. -/
theorem exists_settlesOn
    (hDashes : options.dashes = .ok dashes)
    (hSettled : Text.SettledDashes dashes options.uppercase)
    (text : String) :
    ∃ normal, options.SettlesOn text normal := by
  have hAgain :
      Text.normal dashes options.uppercase
          (String.ofList
            (Text.normal dashes options.uppercase
              text.toList)).toList =
        Text.normal dashes options.uppercase text.toList := by
    rw [String.toList_ofList]
    exact Text.normal_normal hSettled text.toList
  refine ⟨_, normalize_eq_ok hDashes text, ?_, ?_, ?_⟩
  · rw [normalize_eq_ok hDashes, hAgain]
  · intro c d hd
    rcases Configuration.decode_eq_ok_iff.mp hd with
      ⟨split, keyed, hSteps⟩
    have hNormal := hSteps.normalize_eq_ok
    rw [normalize_eq_ok hDashes, Except.ok.injEq] at hNormal
    exact hNormal.symm
  · intro c
    apply Configuration.decode_eq_map_of_ofText
    rw [Split.ofText_eq_ok hDashes, Split.ofText_eq_ok hDashes,
      hAgain]

/- Where every text settles, the dashes are settled. -/
theorem settledDashes_of_settlesOn
    (hDashes : options.dashes = .ok dashes)
    (hTexts : ∀ text, ∃ normal, options.SettlesOn text normal) :
    Text.SettledDashes dashes options.uppercase := by
  apply Text.settledDashes_of_normal_normal
  intro s
  rcases hTexts (String.ofList s) with ⟨normal, hNormal⟩
  have hOnce := hNormal.normalize
  have hTwice := hNormal.again
  rw [normalize_eq_ok hDashes, String.toList_ofList,
    Except.ok.injEq] at hOnce
  rw [← hOnce, normalize_eq_ok hDashes, String.toList_ofList,
    Except.ok.injEq] at hTwice
  exact String.ofList_injective hTwice

/-
  Every text settles on its normal form exactly when the
  dashes are settled. The usual dashes are, and so are all
  dashes where capitals are not made.
-/
theorem settledDashes_iff_settlesOn :
    (∀ (options : Options) (dashes : List Char),
        options.dashes = .ok dashes →
          (Text.SettledDashes dashes options.uppercase ↔
            ∀ text, ∃ normal, options.SettlesOn text normal)) ∧
      ∀ (options : Options) (dashes : List Char),
        options.dashes = .ok dashes →
          options.dashCharacters = ({} : Options).dashCharacters ∨
              options.uppercase = false →
            Text.SettledDashes dashes options.uppercase := by
  constructor
  · intro options dashes hDashes
    exact
      ⟨exists_settlesOn hDashes, settledDashes_of_settlesOn hDashes⟩
  · intro options dashes hDashes hCase
    rcases hCase with hUsual | hOff
    · rw [dashes_eq_usualDashes hUsual,
        Except.ok.injEq] at hDashes
      rw [← hDashes]
      exact settledDashes_usualDashes _
    · intro hOn
      rw [hOff] at hOn
      cases hOn

/- Two kinds of dashes, a sharp s and blanks around the text. -/
theorem settledDashes_iff_settlesOn_rn :
    ({} : Options).dashes = .ok usualDashes ∧
      Text.SettledDashes usualDashes true ∧
      ({} : Options).SettlesOn " rn\u2010025\u20133: \u00df-a\u00a0"
        "RN-025-3: SS-A" ∧
      ∃ d,
        Library.rn.decode {} " rn\u2010025\u20133: \u00df-a\u00a0" =
            .ok d ∧
          (d.attributes.length, d.notices.map Notice.segment?) =
            (5, [some "SS"]) ∧
          Library.rn.decode {} "RN-025-3: SS-A" =
            .ok { d with raw := "RN-025-3: SS-A" } := by
  have hDashes : ({} : Options).dashes = .ok usualDashes := rfl
  have hBoth := settledDashes_iff_settlesOn
  have hSettled : Text.SettledDashes usualDashes true :=
    hBoth.2 {} usualDashes hDashes (Or.inl rfl)
  have hNormal :
      (({} : Options).normalize
          " rn\u2010025\u20133: \u00df-a\u00a0").toOption =
        some "RN-025-3: SS-A" := by
    decide +kernel
  have hDecode :
      ((Library.rn.decode {}
          " rn\u2010025\u20133: \u00df-a\u00a0").toOption.map fun d =>
        (d.attributes.length, d.notices.map Notice.segment?)) =
        some (5, [some "SS"]) := by
    decide +kernel
  rw [Outcome.toOption_eq_some_iff] at hNormal
  rcases Option.map_eq_some_iff.mp hDecode with
    ⟨d, hSome, hCounts⟩
  have hd := Outcome.toOption_eq_some_iff.mp hSome
  rcases (hBoth.1 {} usualDashes hDashes).mp hSettled
      " rn\u2010025\u20133: \u00df-a\u00a0" with
    ⟨normal, hSettles⟩
  have hSame := hSettles.normalize
  rw [hNormal, Except.ok.injEq] at hSame
  subst hSame
  refine ⟨hDashes, hSettled, hSettles, d, hd, hCounts, ?_⟩
  rw [hSettles.decode, hd]
  rfl

end Options

end ModelNumber
