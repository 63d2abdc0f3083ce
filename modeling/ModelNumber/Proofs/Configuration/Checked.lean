import ModelNumber.Configuration.Check
import ModelNumber.Proofs.Catalog
import ModelNumber.Proofs.Rule.Evaluation
import ModelNumber.Proofs.Segment.Split

/-
  What is known of a configuration whose check finds nothing:
  the reference string is a text with a known code for each
  slot of the grammar, and all that the grammar and the rules
  name are keys.

  Main declarations:
    * `Configuration.Checked`
    * `Configuration.check_eq_ok_nil_iff`
    * `Configuration.CheckedGrammar` and `Part.chunks`
    * `Configuration.Checked.exists_key`
    * `Configuration.Checked.exists_reference`
    * `Configuration.Checked.hasKeys` and
      `Configuration.Checked.exists_slot`
    * `Configuration.Checked.exists_enhancer`
-/

namespace ModelNumber

namespace Configuration

------------------------------------------------------------
-- The parts of a check
------------------------------------------------------------

/- None of the four parts of a check finds a problem. -/
structure Checked (c : Configuration) : Prop where
  positions : c.checkPositions = .ok []
  grammar : c.checkGrammar = .ok []
  rules : c.checkRules = .ok []
  enhancers : c.checkEnhancers = .ok []

/- There is no problem when the condition is met. -/
theorem problemUnless_eq_nil_iff
    {ok : Bool}
    {problem : Problem} :
    problemUnless ok problem = [] ↔ ok = true := by
  unfold problemUnless
  cases ok <;> simp

/- A check finds nothing when none of its parts does. -/
theorem check_eq_ok_nil_iff {c : Configuration} :
    c.check = .ok [] ↔ c.Checked := by
  unfold check
  simp only [Outcome.bind_eq_ok_iff, Outcome.pure_eq_ok_iff,
    List.append_eq_nil_iff]
  constructor
  · rintro ⟨positions, hPositions, grammar, hGrammar, rules,
      hRules, enhancers, hEnhancers,
      ⟨⟨⟨rfl, rfl⟩, rfl⟩, rfl⟩⟩
    exact ⟨hPositions, hGrammar, hRules, hEnhancers⟩
  · intro hChecked
    exact
      ⟨[], hChecked.positions, [], hChecked.grammar, [],
        hChecked.rules, [], hChecked.enhancers,
        ⟨⟨⟨rfl, rfl⟩, rfl⟩, rfl⟩⟩

/-
  None of the parts of a grammar check finds a problem, given
  the reference string.
-/
structure CheckedGrammar
    (c : Configuration)
    (reference : List Char) : Prop where
  categories : c.checkCategories = .ok []
  order :
    ∀ part : Part,
      checkOrder c.positions part
          (reference.findIdx? (· == ':')) none
          (c.grammar.slots part) =
        .ok []
  reference :
    ∀ part : Part,
      c.checkReference reference (c.grammar.slots part)
          (part.text reference) =
        .ok []

/- The parts of a grammar check that finds nothing. -/
theorem exists_of_checkGrammar
    {c : Configuration}
    (h : c.checkGrammar = .ok []) :
    ∃ reference,
      c.referenceString = .str reference ∧
        c.CheckedGrammar reference.toList := by
  unfold checkGrammar at h
  simp only [Outcome.bind_eq_ok_iff, Outcome.pure_eq_ok_iff,
    List.append_eq_nil_iff] at h
  rcases h with ⟨reference, hReference, categories, hCategories,
    modelOrder, hModelOrder, featureOrder, hFeatureOrder, model,
    hModel, feature, hFeature, ⟨⟨⟨rfl, rfl⟩, rfl⟩, rfl⟩, rfl⟩
  unfold referenceText at hReference
  split at hReference
  · rename_i text hText
    cases hReference
    refine ⟨text, hText, hCategories, ?_, ?_⟩
    · intro part
      cases part with
      | model => exact hModelOrder
      | feature => exact hFeatureOrder
    · intro part
      cases part with
      | model => exact hModel
      | feature => exact hFeature
  · cases hReference

end Configuration

/-
  What the check reads in a part of the reference string: the
  chunks between hyphens, without empty ones.
-/
def Part.chunks
    (part : Part)
    (reference : List Char) : List (List Char) :=
  (Text.chunks (· == '-') (part.text reference)).filter
    (!·.isEmpty)

namespace Configuration

/- The check reads a chunk without problems for each slot. -/
theorem CheckedGrammar.forall₂_chunks
    {c : Configuration}
    {reference : List Char}
    (hChecked : c.CheckedGrammar reference)
    (part : Part) :
    List.Forall₂
      (fun slot code => c.checkSegment reference slot code = .ok [])
      (c.grammar.slots part) (part.chunks reference) := by
  have hPart := hChecked.reference part
  simp only [checkReference, Outcome.bind_eq_ok_iff,
    Outcome.pure_eq_ok_iff, List.append_eq_nil_iff,
    problemUnless_eq_nil_iff] at hPart
  rcases hPart with ⟨problems, hProblems, hCount, hNone⟩
  refine List.forall₂_iff_zip.mpr
    ⟨(beq_iff_eq.mp hCount).symm, ?_⟩
  intro slot code hPair
  exact
    Outcome.eq_ok_nil_of_mapM_flatten hProblems hNone _ hPair

------------------------------------------------------------
-- Keys
------------------------------------------------------------

namespace Checked

variable {c : Configuration}

/- The categories of the grammar are keys of the catalog. -/
theorem exists_key
    (hChecked : c.Checked)
    {category : Json}
    (hCategory : category ∈ c.grammar.categories) :
    ∃ key,
      category = .scalar key ∧ c.catalog.contains key = true := by
  rcases exists_of_checkGrammar hChecked.grammar with
    ⟨_, _, hGrammar⟩
  have hCategories := hGrammar.categories
  unfold checkCategories at hCategories
  rcases Outcome.bind_eq_ok_iff.mp hCategories with
    ⟨problems, hProblems, hNone⟩
  rw [Outcome.pure_eq_ok_iff] at hNone
  have hOne :=
    Outcome.eq_ok_nil_of_mapM_flatten hProblems hNone category
      hCategory
  simp only [hasCategory, Outcome.bind_eq_ok_iff,
    Outcome.pure_eq_ok_iff, problemUnless_eq_nil_iff,
    Json.key_eq_ok_iff] at hOne
  rcases hOne with ⟨_, ⟨key, hKey, rfl⟩, hKnown⟩
  exact ⟨key, hKey, hKnown⟩

/- The check of each rule finds nothing in it. -/
theorem exists_checkRule
    (hChecked : c.Checked) :
    ∃ slots,
      c.grammar.categories.mapM Json.key = .ok slots ∧
        ∀ rule ∈ c.rules,
          ∃ index, c.checkRule slots rule index = .ok [] := by
  have hRules := hChecked.rules
  simp only [checkRules, Outcome.bind_eq_ok_iff,
    Outcome.pure_eq_ok_iff] at hRules
  rcases hRules with ⟨slots, hSlots, problems, hProblems, hNone⟩
  refine ⟨slots, hSlots, ?_⟩
  intro rule hRule
  rcases List.mem_iff_getElem?.mp hRule with ⟨i, hi⟩
  exact
    ⟨i, Outcome.eq_ok_nil_of_mapM_flatten hProblems hNone (rule, i)
      (List.mem_zipIdx_iff_getElem?.mpr hi)⟩

/- The categories that a rule names are keys. -/
theorem hasKeys
    (hChecked : c.Checked)
    {rule : Rule}
    (hRule : rule ∈ c.rules) :
    rule.HasKeys := by
  rcases hChecked.exists_checkRule with ⟨slots, _, hRules⟩
  rcases hRules rule hRule with ⟨index, hOne⟩
  simp only [checkRule, Outcome.bind_eq_ok_iff] at hOne
  rcases hOne with ⟨first, hFirst, second, hSecond, _⟩
  constructor
  · intro category hCategory
    rcases Outcome.exists_of_mem_of_mapM_eq_ok hFirst hCategory
      with ⟨_, _, hResult⟩
    rcases Outcome.bind_eq_ok_iff.mp hResult with ⟨key, hKey, _⟩
    exact ⟨key, Json.key_eq_ok_iff.mp hKey⟩
  · intro reference hReference
    rcases Outcome.exists_of_mem_of_mapM_eq_ok hSecond hReference
      with ⟨_, _, hResult⟩
    rcases Outcome.bind_eq_ok_iff.mp hResult with ⟨key, hKey, _⟩
    exact ⟨key, Json.key_eq_ok_iff.mp hKey⟩

/-
  The categories that a rule names are in the catalog and in
  the grammar.
-/
theorem exists_slot
    (hChecked : c.Checked) :
    ∃ slots,
      c.grammar.categories.mapM Json.key = .ok slots ∧
        ∀ rule ∈ c.rules, ∀ category ∈ rule.categories,
          ∃ key,
            category = .scalar key ∧
              c.catalog.contains key = true ∧
              slots.any (· == key) = true := by
  rcases hChecked.exists_checkRule with ⟨slots, hSlots, hRules⟩
  refine ⟨slots, hSlots, ?_⟩
  intro rule hRule category hCategory
  rcases hRules rule hRule with ⟨index, hOne⟩
  simp only [checkRule, Outcome.bind_eq_ok_iff,
    Outcome.pure_eq_ok_iff, List.append_eq_nil_iff] at hOne
  rcases hOne with ⟨_, hFirst, _, _, hNone, _⟩
  have hCheck :=
    Outcome.eq_ok_nil_of_mapM_flatten hFirst hNone category
      hCategory
  rcases Outcome.bind_eq_ok_iff.mp hCheck with ⟨key, hKey, hRest⟩
  refine ⟨key, Json.key_eq_ok_iff.mp hKey, ?_⟩
  split at hRest
  · rename_i hContains
    rw [Outcome.pure_eq_ok_iff, problemUnless_eq_nil_iff] at hRest
    exact ⟨hContains, hRest⟩
  · cases hRest

/- The enhancers of a configuration can be found by their names. -/
theorem exists_enhancer
    (hChecked : c.Checked)
    {name : Json}
    (hName : name ∈ c.enhancers) :
    ∃ key e,
      name = .scalar key ∧ Enhancer.find? key = some e ∧
        c.checkEnhancer e = [] := by
  have hEnhancers := hChecked.enhancers
  simp only [checkEnhancers, Outcome.bind_eq_ok_iff,
    Outcome.pure_eq_ok_iff] at hEnhancers
  rcases hEnhancers with ⟨problems, hProblems, hNone⟩
  have hOne :=
    Outcome.eq_ok_nil_of_mapM_flatten hProblems hNone name hName
  rcases Outcome.bind_eq_ok_iff.mp hOne with ⟨key, hKey, hFound⟩
  cases hFind : Enhancer.find? key with
  | none =>
      rw [hFind] at hFound
      cases hFound
  | some e =>
      rw [hFind] at hFound
      exact
        ⟨key, e, Json.key_eq_ok_iff.mp hKey, hFind,
          Outcome.pure_eq_ok_iff.mp hFound⟩

end Checked

------------------------------------------------------------
-- The reference string
------------------------------------------------------------

/- A category knows a code. -/
def Knows
    (c : Configuration)
    (slot : Json)
    (code : String) : Prop :=
  ∃ key,
    slot = .scalar key ∧
      (c.catalog.resolve key code).knownCode = true

/- A chunk without problems is a known code. -/
theorem Checked.knows_of_checkSegment
    {c : Configuration}
    (hChecked : c.Checked)
    (hText : c.catalog.HasTextDescriptions)
    {reference code : List Char}
    {slot : Json}
    (hSlot : slot ∈ c.grammar.categories)
    (hSegment : c.checkSegment reference slot code = .ok []) :
    c.Knows slot (String.ofList code) := by
  simp only [checkSegment, Outcome.bind_eq_ok_iff,
    Outcome.pure_eq_ok_iff, List.append_eq_nil_iff,
    problemUnless_eq_nil_iff, Json.key_eq_ok_iff] at hSegment
  rcases hSegment with ⟨key, hKey, hKnown, _⟩
  rcases hChecked.exists_key hSlot with
    ⟨other, hOther, hContains⟩
  rw [hKey, Json.scalar.injEq] at hOther
  subst hOther
  rw [Catalog.contains_eq_isSome_get?,
    Option.isSome_iff_exists] at hContains
  rcases hContains with ⟨definition, hGet⟩
  rw [hGet] at hKnown
  exact
    ⟨key, hKey,
      Catalog.resolve_knownCode_of_contains hText hGet hKnown⟩

/-
  The reference string is a text, and the check reads a known
  code for each slot of both parts in it.
-/
theorem Checked.exists_reference
    {c : Configuration}
    (hChecked : c.Checked)
    (hText : c.catalog.HasTextDescriptions) :
    ∃ reference,
      c.referenceString = .str reference ∧
        ∀ part : Part,
          List.Forall₂
            (fun slot code => c.Knows slot (String.ofList code))
            (c.grammar.slots part)
            (part.chunks reference.toList) := by
  rcases exists_of_checkGrammar hChecked.grammar with
    ⟨reference, hReference, hGrammar⟩
  refine ⟨reference, hReference, ?_⟩
  intro part
  rcases List.forall₂_iff_zip.mp (hGrammar.forall₂_chunks part)
    with ⟨hLength, hSegments⟩
  refine List.forall₂_iff_zip.mpr ⟨hLength, ?_⟩
  intro slot code hPair
  exact
    hChecked.knows_of_checkSegment hText
      (Grammar.mem_categories_of_mem_slots
        (List.of_mem_zip hPair).1)
      (hSegments hPair)

end Configuration

end ModelNumber
