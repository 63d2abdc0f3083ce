import ModelNumber.Library.RN
import ModelNumber.Proofs.Decoding.Steps
import ModelNumber.Proofs.Rule.Outcome
import ModelNumber.Proofs.Segment.Continuation

/-
  Typing on takes nothing back. The segments of a text go on
  as those of any longer one, so a decode that is complete
  stays complete. The codes that have been entered stay too,
  but for the last one, which may still grow. And so do the
  warnings and the notes of informational rules, unless they
  are about the category of the last code.

  Main declarations:
    * `Configuration.Steps.attributes_pairs`
    * `Configuration.goesOn_and_isComplete_of_append`
    * `Configuration.Steps.entered_of_append`
    * `Decoding.IsSettled`
    * `Configuration.settled_warnings_sublist_of_append`
-/

namespace ModelNumber

------------------------------------------------------------
-- Attributes as pairs
------------------------------------------------------------

/- What an attribute says of its segment. -/
def Attribute.pair (a : Attribute) : Json × String :=
  (.scalar a.category, a.code)

/- The categories of pairs are those of the segments. -/
theorem Split.pairs_map_fst (split : Split) :
    split.pairs.map Prod.fst =
      split.segments.filterMap Segment.category := by
  rw [pairs, mapped, List.map_map, List.map_filterMap]
  apply List.filterMap_congr
  intro seg _
  cases seg.category <;> rfl

/- The categories of pairs are among those of the grammar. -/
theorem Split.pairs_categories_sublist
    (g : Grammar)
    (s : List Char) :
    ((ofNormal g s).pairs.map Prod.fst).Sublist g.categories := by
  rw [pairs_map_fst]
  exact ofNormal_categories_sublist g s

namespace Configuration

namespace Steps

variable {config : Configuration} {options : Options}
variable {text : String} {split : Split}
variable {keyed : List (Scalar × Segment)} {d : Decoding}

/- The attributes of a decode say what the pairs of its split do. -/
theorem attributes_pairs
    (hSteps : config.Steps options text split keyed d) :
    d.attributes.map Attribute.pair = split.pairs := by
  have hPair :
      ∀ a b : Attribute, a.Redescribes b → b.pair = a.pair := by
    intro a b hab
    rw [hab]
    rfl
  rw [hSteps.redescribed.map_eq hPair, Split.pairs, hSteps.keys,
    List.map_map, List.map_map]
  rfl

/- A decode is complete if there is a pair for each category. -/
theorem isComplete_iff
    (hSteps : config.Steps options text split keyed d) :
    d.isComplete = true ↔
      config.grammar.categories.length ≤ split.pairs.length := by
  rw [Decoding.isComplete, decide_eq_true_iff,
    hSteps.expectedSegments, ← hSteps.attributes_pairs,
    List.length_map]

end Steps

------------------------------------------------------------
-- Segments and completeness
------------------------------------------------------------

/-
  Typing on relabels nothing. The split of a text goes on as
  that of any longer one, and a decode that is complete is
  complete for the longer text.
-/
theorem goesOn_and_isComplete_of_append
    {options : Options}
    {g : Grammar}
    {text : String}
    {split : Split}
    (hSplit : Split.ofText options g text = .ok split)
    (more : String) :
    ∃ longer,
      Split.ofText options g (text ++ more) = .ok longer ∧
        split.GoesOn longer ∧
        ∀ config : Configuration, config.grammar = g →
          ∀ d later,
            config.decode options text = .ok d →
              config.decode options (text ++ more) = .ok later →
                d.isComplete = true → later.isComplete = true := by
  rcases Split.exists_ofText_append hSplit more with
    ⟨longer, hLonger, hGoesOn⟩
  refine ⟨longer, hLonger, hGoesOn, ?_⟩
  rintro config rfl d later hd hLater hComplete
  rcases decode_eq_ok_iff.mp hd with ⟨_, keyed, hSteps⟩
  rcases decode_eq_ok_iff.mp hLater with
    ⟨_, keyedLater, hStepsLater⟩
  have hSame := hSteps.splits
  rw [hSplit] at hSame
  cases hSame
  have hSameLater := hStepsLater.splits
  rw [hLonger] at hSameLater
  cases hSameLater
  rw [hSteps.isComplete_iff] at hComplete
  rw [hStepsLater.isComplete_iff]
  exact Nat.le_trans hComplete hGoesOn.pairs.length_le

/- A complete number whose last code grows, and more behind it. -/
theorem goesOn_and_isComplete_rn :
    ∃ split longer d later,
      Split.ofText {} Library.rn.grammar
          "rn-025-3-0-e-a-0-g-0-4: a-3-a-0-1" =
        .ok split ∧
      Split.ofText {} Library.rn.grammar
          ("rn-025-3-0-e-a-0-g-0-4: a-3-a-0-1" ++ " b\u2013:c ") =
        .ok longer ∧
      split.GoesOn longer ∧
      Library.rn.decode {} "rn-025-3-0-e-a-0-g-0-4: a-3-a-0-1" =
        .ok d ∧
      Library.rn.decode {}
          ("rn-025-3-0-e-a-0-g-0-4: a-3-a-0-1" ++ " b\u2013:c ") =
        .ok later ∧
      d.isComplete = true ∧ later.isComplete = true := by
  have hDashes : ({} : Options).dashes = .ok Options.usualDashes :=
    rfl
  have hSplit :=
    Split.ofText_eq_ok hDashes Library.rn.grammar
      "rn-025-3-0-e-a-0-g-0-4: a-3-a-0-1"
  rcases goesOn_and_isComplete_of_append hSplit
      " b\u2013:c " with
    ⟨longer, hLonger, hGoesOn, hComplete⟩
  have hFirst :
      ((Library.rn.decode {}
        "rn-025-3-0-e-a-0-g-0-4: a-3-a-0-1").map
          Decoding.isComplete).toOption =
        some true := by
    decide +kernel
  have hLaterIsOk :
      (Library.rn.decode {}
        ("rn-025-3-0-e-a-0-g-0-4: a-3-a-0-1"
          ++ " b\u2013:c ")).isOk =
        true := by
    decide +kernel
  rcases Outcome.exists_eq_ok_of_isOk hLaterIsOk with
    ⟨later, hLater⟩
  cases hd :
      Library.rn.decode {} "rn-025-3-0-e-a-0-g-0-4: a-3-a-0-1" with
  | error defect =>
      rw [hd] at hFirst
      cases hFirst
  | ok d =>
      rw [hd] at hFirst
      have hIsComplete := Option.some.inj hFirst
      exact
        ⟨_, longer, d, later, hSplit, hLonger, hGoesOn, rfl,
          hLater, hIsComplete,
          hComplete Library.rn rfl d later hd hLater hIsComplete⟩

------------------------------------------------------------
-- Entered codes
------------------------------------------------------------

/- The codes of attributes with different categories. -/
theorem entered_ofAttributes_of_mem
    {attributes : List Attribute}
    (hDistinct : Attribute.AreDistinct attributes)
    {a : Attribute}
    (ha : a ∈ attributes)
    {key : Scalar}
    (hKey : (a.category == key) = true) :
    (Codes.ofAttributes attributes).entered (.scalar key) =
      .ok (some (.str a.code)) := by
  have hLast :=
    (Attribute.last?_eq_some_iff_of_areDistinct hDistinct).mpr
      ⟨ha, hKey⟩
  rw [Codes.entered_eq_some_iff]
  refine ⟨key, rfl, ?_, by simp⟩
  rw [Codes.get?_ofAttributes, hLast]
  rfl

/- An entered code is that of an attribute of the category. -/
theorem exists_of_entered_ofAttributes
    {attributes : List Attribute}
    {category : Json}
    {code : Scalar}
    (h :
      (Codes.ofAttributes attributes).entered category =
        .ok (some code)) :
    ∃ a ∈ attributes, ∃ key,
      category = .scalar key ∧ (a.category == key) = true ∧
        code = .str a.code := by
  rcases Codes.entered_eq_some_iff.mp h with
    ⟨key, hCategory, hFound, _⟩
  rw [Codes.get?_ofAttributes] at hFound
  rcases Option.map_eq_some_iff.mp hFound with
    ⟨a, hLast, hCode⟩
  exact
    ⟨a, Attribute.mem_of_last? hLast, key, hCategory,
      Attribute.category_of_last? hLast, hCode.symm⟩

namespace Steps

variable {config : Configuration} {options : Options}
variable {text more : String} {split splitLater : Split}
variable {keyed keyedLater : List (Scalar × Segment)}
variable {d later : Decoding}

/- With a distinct grammar all attributes have their own category. -/
theorem distinct_attributes
    (hSteps : config.Steps options text split keyed d)
    (hDistinct : config.grammar.IsDistinct) :
    Attribute.AreDistinct d.attributes := by
  rcases Split.exists_of_ofText_eq_ok hSteps.splits with
    ⟨dashes, _, rfl⟩
  have hSublist :=
    Split.pairs_categories_sublist config.grammar
      (Text.normal dashes options.uppercase text.toList)
  rw [← hSteps.attributes_pairs, List.map_map] at hSublist
  have hPairs := List.Pairwise.sublist hSublist hDistinct
  rw [List.pairwise_map] at hPairs
  refine hPairs.imp ?_
  intro a b hab
  simpa [Attribute.pair, Json.same] using hab

/- The split of a decode goes on as that of a longer text. -/
theorem goesOn
    (hSteps : config.Steps options text split keyed d)
    (hLater :
      config.Steps options (text ++ more) splitLater keyedLater
        later) :
    split.GoesOn splitLater := by
  rcases Split.exists_ofText_append hSteps.splits more with
    ⟨longer, hLonger, hGoesOn⟩
  rw [hLater.splits] at hLonger
  cases hLonger
  exact hGoesOn

/-
  A code that has been entered is kept when more is typed,
  unless its category is that of the last attribute.
-/
theorem entered_of_append
    (hSteps : config.Steps options text split keyed d)
    (hLater :
      config.Steps options (text ++ more) splitLater keyedLater
        later)
    (hDistinct : config.grammar.IsDistinct)
    {key : Scalar}
    (hLast :
      ∀ a ∈ d.attributes.getLast?, (key == a.category) = false)
    {code : Scalar}
    (hCode :
      (Codes.ofAttributes d.attributes).entered (.scalar key) =
        .ok (some code)) :
    (Codes.ofAttributes later.attributes).entered (.scalar key) =
      .ok (some code) := by
  rcases exists_of_entered_ofAttributes hCode with
    ⟨a, ha, _, hSame, hKey, rfl⟩
  cases hSame
  have hPair : a.pair ∈ split.pairs := by
    rw [← hSteps.attributes_pairs]
    exact List.mem_map_of_mem ha
  rcases (hSteps.goesOn hLater).pairs.mem_or_getLast?_eq hPair with
    hStays | hIsLast
  · rw [← hLater.attributes_pairs] at hStays
    rcases List.mem_map.mp hStays with ⟨b, hb, hSamePair⟩
    simp only [Attribute.pair, Prod.mk.injEq,
      Json.scalar.injEq] at hSamePair
    rw [← hSamePair.1] at hKey
    rw [← hSamePair.2]
    exact entered_ofAttributes_of_mem
      (hLater.distinct_attributes hDistinct) hb hKey
  · rw [← hSteps.attributes_pairs, List.getLast?_map] at hIsLast
    rcases Option.map_eq_some_iff.mp hIsLast with
      ⟨b, hb, hSamePair⟩
    simp only [Attribute.pair, Prod.mk.injEq,
      Json.scalar.injEq] at hSamePair
    have hOther := hLast b hb
    rw [hSamePair.1, BEq.symm hKey] at hOther
    cases hOther

end Steps

end Configuration

------------------------------------------------------------
-- Settled warnings
------------------------------------------------------------

/-
  A warning or an informational note of a decode is settled if
  it is not about the category of the last attribute, whose
  code may still grow.
-/
def Decoding.IsSettled
    (d : Decoding)
    (w : Warning) : Prop :=
  w.IsLasting ∧
    ∀ a ∈ d.attributes.getLast?, ∀ category ∈ w.categories,
      category.same (.scalar a.category) = false

instance
    (d : Decoding)
    (w : Warning) :
    Decidable (d.IsSettled w) :=
  inferInstanceAs (Decidable (_ ∧ _))

namespace Configuration

/- What a rule has said and is settled, it says again. -/
theorem Steps.outcome_of_append
    {config : Configuration}
    {options : Options}
    {text more : String}
    {split splitLater : Split}
    {keyed keyedLater : List (Scalar × Segment)}
    {d later : Decoding}
    (hSteps : config.Steps options text split keyed d)
    (hLater :
      config.Steps options (text ++ more) splitLater keyedLater
        later)
    (hDistinct : config.grammar.IsDistinct)
    {r : Rule}
    {scope : Rule.Scope}
    {w : Warning}
    (hOutcome :
      r.outcome scope (Codes.ofAttributes d.attributes) =
        .ok (some w))
    (hSettled : d.IsSettled w) :
    r.outcome scope (Codes.ofAttributes later.attributes) =
      .ok (some w) := by
  rcases Rule.outcome_eq_some_iff.mp hOutcome with
    ⟨_, _, _, hSays⟩
  refine Rule.outcome_of_kept hOutcome hSettled.1 ?_
  intro category hNamed code hCode
  rcases Codes.entered_eq_some_iff.mp hCode with ⟨key, rfl, _⟩
  refine hSteps.entered_of_append hLater hDistinct ?_ hCode
  intro a ha
  rcases Rule.exists_mem_categories hNamed with
    ⟨other, hOther, hSame⟩
  have hFar : (other == a.category) = false := by
    rw [hSays] at hSettled
    simpa [Json.same] using hSettled.2 a ha _ hOther
  cases hNear : key == a.category with
  | false => rfl
  | true =>
      rw [BEq.trans hSame hNear] at hFar
      cases hFar

/-
  What has been settled is not taken back when more is typed.
  It is said again, in the same order.
-/
theorem settled_warnings_sublist_of_append
    {config : Configuration}
    (hDistinct : config.grammar.IsDistinct)
    {options : Options}
    {text more : String}
    {d later : Decoding}
    (hd : config.decode options text = .ok d)
    (hLater :
      config.decode options (text ++ more) = .ok later) :
    (d.warnings.filter (d.IsSettled ·)).Sublist
      later.warnings := by
  rcases decode_eq_ok_iff.mp hd with ⟨split, keyed, hSteps⟩
  rcases decode_eq_ok_iff.mp hLater with
    ⟨splitLater, keyedLater, hStepsLater⟩
  have hWarnings := hSteps.warnings
  have hWarningsLater := hStepsLater.warnings
  unfold warningsOf at hWarnings hWarningsLater
  split at hWarnings
  · rename_i hValidate
    rw [if_pos hValidate] at hWarningsLater
    rcases Outcome.bind_eq_ok_iff.mp hWarnings with
      ⟨scope, hScope, hSaid⟩
    rcases Outcome.bind_eq_ok_iff.mp hWarningsLater with
      ⟨scopeLater, hScopeLater, hSaidLater⟩
    rw [hScope] at hScopeLater
    cases hScopeLater
    refine Rule.sublist_warnings hSaid hSaidLater ?_
    intro r _ w hOutcome hSettled
    exact hSteps.outcome_of_append hStepsLater hDistinct hOutcome
      (of_decide_eq_true hSettled)
  · rw [← Outcome.pure_eq_ok_iff.mp hWarnings]
    exact List.nil_sublist _

/-
  A condenser without compressors is warned about, and still
  is when the number goes on behind the next code.
-/
theorem settled_warnings_sublist_rn :
    Library.rn.grammar.IsDistinct ∧
      ∃ d later,
        Library.rn.decode {} "RN-025-3-0-0-A-0-0" = .ok d ∧
          Library.rn.decode {}
              ("RN-025-3-0-0-A-0-0" ++ "-0-4:A-3") =
            .ok later ∧
          (d.warnings.filter (d.IsSettled ·)).length = 1 ∧
          (d.warnings.filter (d.IsSettled ·)).Sublist
            later.warnings := by
  have hDistinct : Library.rn.grammar.IsDistinct := by
    decide +kernel
  have hCount :
      ((Library.rn.decode {} "RN-025-3-0-0-A-0-0").map fun d =>
          (d.warnings.filter (d.IsSettled ·)).length).toOption =
        some 1 := by
    decide +kernel
  have hLaterIsOk :
      (Library.rn.decode {}
        ("RN-025-3-0-0-A-0-0" ++ "-0-4:A-3")).isOk = true := by
    decide +kernel
  rcases Outcome.exists_eq_ok_of_isOk hLaterIsOk with
    ⟨later, hLater⟩
  cases hd : Library.rn.decode {} "RN-025-3-0-0-A-0-0" with
  | error defect =>
      rw [hd] at hCount
      cases hCount
  | ok d =>
      rw [hd] at hCount
      exact
        ⟨hDistinct, d, later, rfl, hLater, Option.some.inj hCount,
          settled_warnings_sublist_of_append hDistinct hd hLater⟩

end Configuration

end ModelNumber
