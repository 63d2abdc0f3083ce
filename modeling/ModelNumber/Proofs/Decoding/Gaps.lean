import ModelNumber.Library.RN
import ModelNumber.Proofs.Configuration.Checked
import ModelNumber.Proofs.Decoding.Steps
import ModelNumber.Proofs.Enhancement.Named

/-
  A configuration without problems leaves no gaps. Whatever
  is typed, each attribute has the name of a category of the
  catalog, and no rule is skipped. The enhancers that the
  configuration names are all there, and so are the tables
  and the categories that they need.

  Main declarations:
    * `Catalog.Shows`
    * `Configuration.Steps.code_ne_unknownCategory`
    * `Configuration.Checked.inScope_eq_ok_true`
    * `Configuration.HasNoGaps` and `Configuration.Supplies`
    * `Configuration.hasNoGaps_of_check`
-/

namespace ModelNumber

/- An attribute is shown as the category it belongs to. -/
def Catalog.Shows
    (catalog : Catalog)
    (a : Attribute) : Prop :=
  ∃ c,
    catalog.get? a.category = some c ∧
      a.name = c.name ∧ a.position = c.position

namespace Configuration

variable {c : Configuration} {options : Options}
variable {text : String} {split : Split}
variable {keyed : List (Scalar × Segment)} {d : Decoding}

------------------------------------------------------------
-- Attributes and notices
------------------------------------------------------------

/- The categories of the segments are in the catalog. -/
theorem Checked.contains_of_mem_keyed
    (hChecked : c.Checked)
    (hSteps : c.Steps options text split keyed d)
    {key : Scalar}
    {s : Segment}
    (hKeyed : (key, s) ∈ keyed) :
    c.catalog.contains key = true := by
  rcases hChecked.exists_key (hSteps.mem_categories hKeyed) with
    ⟨_, hSame, hContains⟩
  cases hSame
  exact hContains

/- Attributes of categories in the catalog are shown as these. -/
theorem Steps.shows
    (hSteps : c.Steps options text split keyed d)
    (hKnown :
      ∀ m ∈ keyed, c.catalog.contains m.1 = true)
    {a : Attribute}
    (ha : a ∈ d.attributes) :
    c.catalog.Shows a := by
  rcases hSteps.exists_attributeOf ha with
    ⟨key, s, hKeyed, hSame⟩
  have hContains := hKnown _ hKeyed
  rw [Catalog.contains_eq_isSome_get?,
    Option.isSome_iff_exists] at hContains
  rcases hContains with ⟨definition, hGet⟩
  rw [Attribute.Redescribes] at hSame
  rw [hSame]
  exact
    ⟨definition, hGet, Catalog.resolve_name hGet,
      Catalog.resolve_position hGet⟩

/- A split gives no notice about an unknown category. -/
theorem code_ne_unknownCategory_of_split
    {g : Grammar}
    {s : List Char}
    {n : Notice}
    (hn : n ∈ (Split.ofNormal g s).notices) :
    n.code ≠ "UNKNOWN_CATEGORY" := by
  rcases Split.notice_cases hn with
    ⟨_, _, _, _, rfl, _⟩ | ⟨_, rfl, _⟩
  · simp [Notice.code]
  · simp [Notice.code]

/- No notice tells of an unknown category if there is none. -/
theorem Steps.code_ne_unknownCategory
    (hSteps : c.Steps options text split keyed d)
    (hKnown :
      ∀ m ∈ keyed, c.catalog.contains m.1 = true)
    {n : Notice}
    (hn : n ∈ d.notices) :
    n.code ≠ "UNKNOWN_CATEGORY" := by
  rcases Split.exists_of_ofText_eq_ok hSteps.splits with
    ⟨dashes, _, rfl⟩
  rw [hSteps.notices, List.mem_append] at hn
  rcases hn with hn | hn
  · exact code_ne_unknownCategory_of_split hn
  · split at hn
    · rcases List.mem_filterMap.mp hn with ⟨m, hm, hNotice⟩
      rw [noticeOf, Catalog.resolve_knownCategory,
        hKnown m hm] at hNotice
      simp only [Bool.not_true, Bool.false_eq_true,
        if_false] at hNotice
      split at hNotice
      · cases hNotice
        simp [Notice.code]
      · cases hNotice
    · cases hn

------------------------------------------------------------
-- Rules
------------------------------------------------------------

/- No rule is out of the scope of a configuration. -/
theorem Checked.inScope_eq_ok_true
    (hChecked : c.Checked)
    {scope : Rule.Scope}
    (hScope : c.ruleScope = .ok scope)
    {rule : Rule}
    (hRule : rule ∈ c.rules) :
    rule.inScope scope = .ok true := by
  rcases hChecked.exists_slot with ⟨slots, hSlots, hKnown⟩
  rw [ruleScope, hSlots] at hScope
  cases hScope
  exact Rule.inScope_eq_ok_true (hKnown rule hRule)

/- The warnings of a decode are those of all rules. -/
theorem Checked.warnings_eq
    (hChecked : c.Checked)
    {attributes : List Attribute}
    {warnings : List Warning}
    (hValidate : options.validate = true)
    (hWarnings : c.warningsOf options attributes = .ok warnings) :
    Rule.warnings c.rules .all (Codes.ofAttributes attributes) =
      .ok warnings := by
  rw [warningsOf, if_pos hValidate,
    Outcome.bind_eq_ok_iff] at hWarnings
  rcases hWarnings with ⟨scope, hScope, hFound⟩
  rw [← hFound]
  apply Rule.warnings_congr
  intro rule hRule
  rw [hChecked.inScope_eq_ok_true hScope hRule]
  rfl

------------------------------------------------------------
-- Enhancers
------------------------------------------------------------

/-
  A configuration supplies what enhancers need: their tables,
  and the categories that they read and write.
-/
structure Supplies
    (c : Configuration)
    (e : Enhancer) : Prop where
  tables : ∀ table ∈ e.tables, (c.tables.field? table).isSome = true
  reads :
    ∀ category ∈ e.reads, c.catalog.contains (.str category) = true
  writes : c.catalog.contains e.writes = true

/- What an enhancer without problems needs is there. -/
theorem supplies_of_checkEnhancer
    {e : Enhancer}
    (hCheck : c.checkEnhancer e = []) :
    c.Supplies e := by
  simp only [checkEnhancer, List.append_eq_nil_iff,
    List.flatMap_eq_nil_iff, problemUnless_eq_nil_iff] at hCheck
  rcases hCheck with ⟨hTables, hCategories⟩
  refine ⟨hTables, ?_, ?_⟩
  · intro category hCategory
    exact hCategories _
      (List.mem_append_left _ (List.mem_map_of_mem hCategory))
  · exact hCategories _ (by simp)

------------------------------------------------------------
-- No gaps
------------------------------------------------------------

/-
  A decode has no gaps: each attribute is shown as a category
  of the catalog, and the warnings are those of all rules.
-/
structure HasNoGaps
    (c : Configuration)
    (options : Options)
    (d : Decoding) : Prop where
  notices : ∀ n ∈ d.notices, n.code ≠ "UNKNOWN_CATEGORY"
  attributes : ∀ a ∈ d.attributes, c.catalog.Shows a
  warnings :
    options.validate = true →
      Rule.warnings c.rules .all
          (Codes.ofAttributes d.attributes) =
        .ok d.warnings

/-
  A configuration without problems finds an enhancer for each
  name, supplies what these need, and has decodes without
  gaps only.
-/
theorem hasNoGaps_of_check
    {c : Configuration}
    (hCheck : c.check = .ok []) :
    (∃ es,
      Enhancer.named c.enhancers = .ok es ∧
        c.enhancers = es.map (fun e => Json.str e.name) ∧
        ∀ e ∈ es, c.Supplies e) ∧
      ∀ (options : Options) (text : String) (d : Decoding),
        c.decode options text = .ok d → c.HasNoGaps options d := by
  have hChecked := check_eq_ok_nil_iff.mp hCheck
  constructor
  · apply Enhancer.exists_named
    intro name hName
    rcases hChecked.exists_enhancer hName with
      ⟨key, e, hKey, hFind, hNone⟩
    exact ⟨key, e, hKey, hFind, supplies_of_checkEnhancer hNone⟩
  · intro options text d hd
    rcases decode_eq_ok_iff.mp hd with ⟨split, keyed, hSteps⟩
    have hKnown : ∀ m ∈ keyed, c.catalog.contains m.1 = true := by
      intro m hm
      exact hChecked.contains_of_mem_keyed hSteps hm
    constructor
    · intro n hn
      exact hSteps.code_ne_unknownCategory hKnown hn
    · intro a ha
      exact hSteps.shows hKnown ha
    · intro hValidate
      exact hChecked.warnings_eq hValidate hSteps.warnings

/- Nothing of the RN series is skipped, whatever is odd. -/
theorem hasNoGaps_rn :
    Library.rn.check = .ok [] ∧
      (∃ es,
        Enhancer.named Library.rn.enhancers = .ok es ∧
          es.length = 2 ∧ ∀ e ∈ es, Library.rn.Supplies e) ∧
      ∃ d,
        Library.rn.decode {} "RN-025-3-0-E-A-0-0-0-4:Q" =
            .ok d ∧
          d.warnings ≠ [] ∧ d.notices ≠ [] ∧
          Library.rn.HasNoGaps {} d := by
  have hCheck : Library.rn.check = .ok [] := rfl
  have hOdd :
      (Library.rn.decode {}
          "RN-025-3-0-E-A-0-0-0-4:Q").toOption.map
        (fun d => (d.warnings.isEmpty, d.notices.isEmpty)) =
          some (false, false) := by
    decide +kernel
  rcases Option.map_eq_some_iff.mp hOdd with ⟨d, hSome, hBoth⟩
  have hd := Outcome.toOption_eq_some_iff.mp hSome
  simp only [Prod.mk.injEq, List.isEmpty_eq_false_iff] at hBoth
  rcases hasNoGaps_of_check hCheck with
    ⟨⟨es, hNamed, hNames, hSupplies⟩, hDecodes⟩
  have hCount : es.length = 2 := by
    have hLength := congrArg List.length hNames
    rw [List.length_map] at hLength
    exact hLength.symm
  exact
    ⟨hCheck, ⟨es, hNamed, hCount, hSupplies⟩, d, hd, hBoth.1,
      hBoth.2, hDecodes {} _ d hd⟩

end Configuration

end ModelNumber
