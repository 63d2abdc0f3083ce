import ModelNumber.Library.RN
import ModelNumber.Proofs.Enhancement.Named
import ModelNumber.Proofs.Enhancement.Rerun

/-
  The built-in enhancers, run by their names. They look at
  codes and tables only and write different categories, so
  each of them does what it would do alone, and it makes no
  difference in which order they are named, or how often.

  Main declarations:
    * `Enhancer.readsCodes_of_mem_builtin`
    * `Enhancer.isEmpty_of_derive`
    * `Enhancer.mem_filterMap_find?_iff`
    * `Enhancer.runNamed` and `Enhancer.SameNamed`
    * `Enhancer.Enhances` and `Enhancer.Enhances.unique`
    * `Enhancer.runNamed_of_sameNamed`
-/

namespace ModelNumber

namespace Enhancer

------------------------------------------------------------
-- What the built-in enhancers look at
------------------------------------------------------------

section Codes

variable {m n : OrderedMap Scalar Attribute} {tables : Json}

/- Maps with the same codes have the same code for a category. -/
theorem map_code_get?
    (hSame :
      m.mapValues Attribute.code = n.mapValues Attribute.code)
    (category : Scalar) :
    (m.get? category).map Attribute.code =
      (n.get? category).map Attribute.code := by
  rw [← OrderedMap.get?_mapValues, hSame,
    OrderedMap.get?_mapValues]

/- Attributes with the same code are both there or both not. -/
theorem none_or_some_of_map_code
    {v w : Option Attribute}
    (hSame : v.map Attribute.code = w.map Attribute.code) :
    (v = none ∧ w = none) ∨
      ∃ a b, v = some a ∧ w = some b ∧ a.code = b.code := by
  cases v with
  | none =>
      cases w with
      | none => exact Or.inl ⟨rfl, rfl⟩
      | some b => cases hSame
  | some a =>
      cases w with
      | none => cases hSame
      | some b =>
          exact Or.inr ⟨a, b, rfl, rfl, Option.some.inj hSame⟩

/- Airflow is derived from the code of the unit size. -/
theorem readsCodes_airflow : airflow.ReadsCodes := by
  intro m n tables hSame
  change deriveAirflow m tables = deriveAirflow n tables
  unfold deriveAirflow
  rcases none_or_some_of_map_code (map_code_get? hSame "SIZE")
    with ⟨hm, hn⟩ | ⟨a, b, hm, hn, hCode⟩
  · rw [hm, hn]
  · rw [hm, hn]
    simp only [hCode]

/- The rated voltage is that of the code of the supply. -/
theorem ratedVoltage_congr
    {v w : Option Attribute}
    (hSame : v.map Attribute.code = w.map Attribute.code) :
    ratedVoltage v tables = ratedVoltage w tables := by
  rcases none_or_some_of_map_code hSame with
    ⟨rfl, rfl⟩ | ⟨a, b, rfl, rfl, hCode⟩
  · rfl
  · simp only [ratedVoltage, hCode]

/- Heating capacity is derived from three codes. -/
theorem readsCodes_heatingCapacity :
    heatingCapacity.ReadsCodes := by
  intro m n tables hSame
  change
    deriveHeatingCapacity m tables =
      deriveHeatingCapacity n tables
  unfold deriveHeatingCapacity
  rcases none_or_some_of_map_code (map_code_get? hSame "B1")
    with ⟨hm, hn⟩ | ⟨heat, heatToo, hm, hn, hHeat⟩
  · rw [hm, hn]
  · rw [hm, hn]
    rcases none_or_some_of_map_code (map_code_get? hSame "B3")
      with ⟨hm, hn⟩ | ⟨capacity, capacityToo, hm, hn, hCapacity⟩
    · rw [hm, hn]
    · rw [hm, hn]
      have hVoltage :
          ratedVoltage (m.get? "VOLTAGE") tables =
            ratedVoltage (n.get? "VOLTAGE") tables :=
        ratedVoltage_congr (map_code_get? hSame "VOLTAGE")
      simp only [hHeat, deriveElectric, deriveGas, hCapacity,
        hVoltage]

/- The built-in enhancers look at codes and tables only. -/
theorem readsCodes_of_mem_builtin
    {e : Enhancer}
    (he : e ∈ builtin) :
    e.ReadsCodes := by
  rcases List.mem_pair.mp he with rfl | rfl
  · exact readsCodes_airflow
  · exact readsCodes_heatingCapacity

------------------------------------------------------------
-- What the built-in enhancers derive
------------------------------------------------------------

/- An airflow that is derived is not empty. -/
theorem isEmpty_of_deriveAirflow
    {s : String}
    (h : deriveAirflow m tables = .ok (some s)) :
    s.isEmpty = false := by
  unfold deriveAirflow at h
  split at h
  · cases h
  · rcases Outcome.bind_eq_ok_iff.mp h with ⟨_, _, h⟩
    split at h
    · cases h
    · rcases Outcome.bind_eq_ok_iff.mp h with ⟨_, _, h⟩
      rcases Outcome.bind_eq_ok_iff.mp h with ⟨_, _, h⟩
      cases h
      simp

/- A power that is derived is not empty. -/
theorem isEmpty_of_deriveElectric
    {capacity : Attribute}
    {voltage : Option Attribute}
    {s : String}
    (h : deriveElectric capacity voltage tables = .ok (some s)) :
    s.isEmpty = false := by
  unfold deriveElectric at h
  rcases Outcome.bind_eq_ok_iff.mp h with ⟨_, _, h⟩
  split at h
  · cases h
  · rcases Outcome.bind_eq_ok_iff.mp h with ⟨_, _, h⟩
    rcases Outcome.bind_eq_ok_iff.mp h with ⟨_, _, h⟩
    rcases Outcome.bind_eq_ok_iff.mp h with ⟨_, _, h⟩
    split at h
    · cases h
      simp
    · rcases Outcome.bind_eq_ok_iff.mp h with ⟨_, _, h⟩
      cases h
      simp

/- An input and output that are derived are not empty. -/
theorem isEmpty_of_deriveGas
    {capacity : Attribute}
    {s : String}
    (h : deriveGas capacity tables = .ok (some s)) :
    s.isEmpty = false := by
  unfold deriveGas at h
  rcases Outcome.bind_eq_ok_iff.mp h with ⟨_, _, h⟩
  split at h
  · cases h
  · rcases Outcome.bind_eq_ok_iff.mp h with ⟨_, _, h⟩
    rcases Outcome.bind_eq_ok_iff.mp h with ⟨_, _, h⟩
    cases h
    simp

/- A heating capacity that is derived is not empty. -/
theorem isEmpty_of_deriveHeatingCapacity
    {s : String}
    (h : deriveHeatingCapacity m tables = .ok (some s)) :
    s.isEmpty = false := by
  unfold deriveHeatingCapacity at h
  split at h
  · split at h
    · exact isEmpty_of_deriveElectric h
    · exact isEmpty_of_deriveGas h
    · cases h
  · cases h

/- What a built-in enhancer derives is no empty suffix. -/
theorem isEmpty_of_derive
    {e : Enhancer}
    (he : e ∈ builtin)
    {s : String}
    (h : e.derive m tables = .ok (some s)) :
    s.isEmpty = false := by
  rcases List.mem_pair.mp he with rfl | rfl
  · exact isEmpty_of_deriveAirflow h
  · exact isEmpty_of_deriveHeatingCapacity h

end Codes

------------------------------------------------------------
-- Names
------------------------------------------------------------

/- A built-in enhancer is found by its name. -/
theorem find?_name
    {e : Enhancer}
    (he : e ∈ builtin) :
    find? (.str e.name) = some e := by
  rcases List.mem_pair.mp he with rfl | rfl <;> rfl

/- Names find the built-in enhancers that are among them. -/
theorem mem_filterMap_find?_iff
    {names : List Scalar}
    {e : Enhancer} :
    e ∈ names.filterMap find? ↔
      e ∈ builtin ∧ Scalar.str e.name ∈ names := by
  rw [List.mem_filterMap]
  constructor
  · rintro ⟨name, hName, hFind⟩
    exact
      ⟨List.mem_of_find?_eq_some hFind,
        eq_name_of_find? hFind ▸ hName⟩
  · rintro ⟨he, hName⟩
    exact ⟨_, hName, find?_name he⟩

/- Names that are scalars can all be looked up. -/
theorem named_scalars (names : List Scalar) :
    named (names.map Json.scalar) =
      .ok (names.filterMap find?) := by
  have hKeys :
      (names.map Json.scalar).mapM Json.key = .ok names :=
    Outcome.mapM_map_eq_ok fun _ _ => rfl
  rw [named, hKeys]
  rfl

/- Run the enhancers of some names, in that order. -/
def runNamed
    (names : List Scalar)
    (tables : Json)
    (as : List Attribute) : Except Defect (List Attribute) := do
  runAll (← named (names.map Json.scalar)) tables as

theorem runNamed_eq
    (names : List Scalar)
    (tables : Json)
    (as : List Attribute) :
    runNamed names tables as =
      runAll (names.filterMap find?) tables as := by
  rw [runNamed, named_scalars]
  rfl

/- Two lists of names have the same enhancers among them. -/
def SameNamed (names others : List Scalar) : Prop :=
  ∀ e ∈ builtin,
    Scalar.str e.name ∈ names ↔ Scalar.str e.name ∈ others

------------------------------------------------------------
-- Runs by name
------------------------------------------------------------

variable {names others : List Scalar} {tables : Json}
variable {as bs cs : List Attribute} {e : Enhancer}

/- The enhancers of some names look at codes and tables only. -/
theorem readsCodes_of_mem_filterMap
    (he : e ∈ names.filterMap find?) :
    e.ReadsCodes :=
  readsCodes_of_mem_builtin (mem_filterMap_find?_iff.mp he).1

/- Each category is written by one built-in enhancer. -/
theorem eq_of_writes
    {d : Enhancer}
    (hd : d ∈ builtin)
    (he : e ∈ builtin)
    (hWrites : (d.writes == e.writes) = true) :
    d = e := by
  rcases List.mem_pair.mp hd with rfl | rfl <;>
    rcases List.mem_pair.mp he with rfl | rfl
  · rfl
  · exact absurd hWrites (by decide)
  · exact absurd hWrites (by decide)
  · rfl

/- Where nothing can be written, nothing is derived. -/
theorem derive_eq_none_of_get?
    (he : e ∈ builtin)
    {m : OrderedMap Scalar Attribute}
    (hNone : m.get? e.writes = none) :
    e.derive m tables = .ok none := by
  rcases List.mem_pair.mp he with rfl | rfl
  · change deriveAirflow m tables = .ok none
    rw [deriveAirflow, show m.get? "SIZE" = none from hNone]
    rfl
  · change deriveHeatingCapacity m tables = .ok none
    rw [deriveHeatingCapacity,
      show m.get? "B3" = none from hNone]
    cases m.get? "B1" <;> rfl

/- A run by names fails if the derivation of one of them does. -/
theorem exists_error_of_derive
    (he : e ∈ builtin)
    (hName : Scalar.str e.name ∈ names)
    {defect : Defect}
    (hDerive :
      e.derive (Attribute.byCategory as) tables =
        .error defect) :
    ∃ other, runNamed names tables as = .error other := by
  cases hRun : runNamed names tables as with
  | error other => exact ⟨other, rfl⟩
  | ok bs =>
      rw [runNamed_eq] at hRun
      cases hLast : Attribute.last? as e.writes with
      | none =>
          rw [← Attribute.get?_byCategory] at hLast
          rw [derive_eq_none_of_get? he hLast] at hDerive
          cases hDerive
      | some a =>
          rcases Attribute.IsLastAt.exists_of_last? hLast with
            ⟨place, ha⟩
          rcases exists_derive_of_runAll
              (readsCodes_of_mem_builtin he) hRun
              (mem_filterMap_find?_iff.mpr ⟨he, hName⟩) ha with
            ⟨derived, hDerived⟩
          rw [hDerive] at hDerived
          cases hDerived

/- A run by names has a result if all of them derive one. -/
theorem exists_runNamed
    (hText : ∀ a ∈ as, a.HasText)
    (hDerive :
      ∀ e ∈ builtin,
        Scalar.str e.name ∈ names →
          ∃ derived,
            e.derive (Attribute.byCategory as) tables =
              .ok derived) :
    ∃ bs, runNamed names tables as = .ok bs := by
  rw [runNamed_eq]
  refine exists_runAll ?_ hText
  intro e he bs hSame
  rcases mem_filterMap_find?_iff.mp he with ⟨hBuiltin, hName⟩
  rw [(readsCodes_of_mem_filterMap he).derive_eq hSame]
  exact hDerive e hBuiltin hName

/-
  What named enhancers make of attributes with texts as
  descriptions. Each of them appends what it derives from the
  given attributes to the last one of its category, if this
  does not end with it. Nothing else is changed, and nothing
  at all by the same enhancers again.
-/
structure Enhances
    (names : List Scalar)
    (tables : Json)
    (as bs : List Attribute) : Prop where
  length : bs.length = as.length
  written : ∀ e ∈ builtin,
    Scalar.str e.name ∈ names →
      ∀ place a text,
        Attribute.IsLastAt as e.writes place a →
          a.description = .str text →
            ∃ derived,
              e.derive (Attribute.byCategory as) tables =
                  .ok derived ∧
                bs[place]? =
                  some { a with
                    description :=
                      .str
                        (derived.elim text
                          (Description.add text)) }
  kept : ∀ place a,
    as[place]? = some a →
      (∀ e ∈ builtin,
        Scalar.str e.name ∈ names →
          ¬Attribute.IsLastAt as e.writes place a) →
        bs[place]? = some a
  again : runNamed names tables bs = .ok bs

/- In a run by names a category is offered what one derives. -/
theorem addAll_offersAll
    (he : e ∈ builtin)
    (hName : Scalar.str e.name ∈ names)
    (h : runAll (names.filterMap find?) tables as = .ok bs)
    {derived : Option String}
    (hDerived :
      e.derive (Attribute.byCategory as) tables = .ok derived)
    (text : String) :
    Description.addAll text
        (offersAll e.writes tables (names.filterMap find?) as) =
      derived.elim text (Description.add text) := by
  have hReads :
      ∀ d ∈ names.filterMap find?, d.ReadsCodes :=
    fun d hd => readsCodes_of_mem_filterMap hd
  have hSuffix : e.suffix as tables = .ok derived := by
    rw [suffix, hDerived]
    cases derived with
    | none => rfl
    | some s =>
        have hNonempty := isEmpty_of_derive he hDerived
        simp [hNonempty, bind, Except.bind, pure, Except.pure]
  -- Only this enhancer writes the category, however often.
  have hOffers :
      ∀ s,
        s ∈ offersAll e.writes tables (names.filterMap find?)
            as ↔
          derived = some s := by
    intro s
    rw [mem_offersAll_iff hReads h]
    constructor
    · rintro ⟨d, hd, hWrites, hOther⟩
      have hSame :=
        eq_of_writes (mem_filterMap_find?_iff.mp hd).1 he hWrites
      rw [hSame, hSuffix] at hOther
      exact Except.ok.inj hOther
    · intro hSome
      exact
        ⟨e, mem_filterMap_find?_iff.mpr ⟨he, hName⟩, BEq.rfl,
          hSome ▸ hSuffix⟩
  cases derived with
  | none =>
      refine Description.addAll_eq_self_iff.mpr ?_
      intro s hs
      cases (hOffers s).mp hs
  | some s =>
      refine Description.addAll_eq_add ?_ ((hOffers s).mpr rfl)
      intro t ht
      exact (Option.some.inj ((hOffers t).mp ht)).symm

/- What a run by names makes of attributes. -/
theorem enhances_of_runNamed
    (hText : ∀ a ∈ as, a.HasText)
    (h : runNamed names tables as = .ok bs) :
    Enhances names tables as bs := by
  rw [runNamed_eq] at h
  have hReads :
      ∀ d ∈ names.filterMap find?, d.ReadsCodes :=
    fun d hd => readsCodes_of_mem_filterMap hd
  constructor
  · exact (redescribes_of_runAll h).length_eq.symm
  · intro e he hName place a text hLast hDescription
    rcases exists_derive_of_runAll
        (readsCodes_of_mem_builtin he) h
        (mem_filterMap_find?_iff.mpr ⟨he, hName⟩) hLast with
      ⟨derived, hDerived⟩
    refine ⟨derived, hDerived, ?_⟩
    rw [getElem?_runAll_of_last h hLast hDescription,
      addAll_offersAll he hName h hDerived]
  · intro place a ha hNot
    refine getElem?_runAll_of_not_last h ha ?_
    intro e he
    rcases mem_filterMap_find?_iff.mp he with ⟨hBuiltin, hName⟩
    exact hNot e hBuiltin hName
  · rw [runNamed_eq]
    refine DerivesNested.runAll_eq_self ?_ hReads hText h
    intro d hd e he hWrites _ s t hs ht
    have hSame :=
      eq_of_writes (mem_filterMap_find?_iff.mp hd).1
        (mem_filterMap_find?_iff.mp he).1 hWrites
    rw [hSame, ht] at hs
    cases hs
    exact Or.inl List.suffix_rfl

/- There is one such result, whichever way they are named. -/
theorem Enhances.unique
    (hText : ∀ a ∈ as, a.HasText)
    (hSame : SameNamed names others)
    (hbs : Enhances names tables as bs)
    (hcs : Enhances others tables as cs) :
    bs = cs := by
  apply List.ext_getElem?
  intro place
  cases ha : as[place]? with
  | none =>
      rw [List.getElem?_eq_none_iff] at ha
      rw [List.getElem?_eq_none (hbs.length ▸ ha),
        List.getElem?_eq_none (hcs.length ▸ ha)]
  | some a =>
      by_cases hWritten :
          ∃ e ∈ builtin,
            Scalar.str e.name ∈ names ∧
              Attribute.IsLastAt as e.writes place a
      · rcases hWritten with ⟨e, he, hName, hLast⟩
        rcases hText a (List.mem_of_getElem? ha) with
          ⟨text, hDescription⟩
        rcases hbs.written e he hName place a text hLast
            hDescription with
          ⟨derived, hDerived, hb⟩
        rcases hcs.written e he ((hSame e he).mp hName) place a
            text hLast hDescription with
          ⟨other, hOther, hc⟩
        rw [hDerived, Except.ok.injEq] at hOther
        rw [hb, hc, hOther]
      · rw [hbs.kept place a ha, hcs.kept place a ha]
        · intro e he hName hLast
          exact
            hWritten ⟨e, he, (hSame e he).mpr hName, hLast⟩
        · intro e he hName hLast
          exact hWritten ⟨e, he, hName, hLast⟩

/-
  Two lists of names with the same enhancers among them do the
  same: both fail, because one of these enhancers does on the
  given attributes, or both have the same result.
-/
theorem runNamed_of_sameNamed
    (tables : Json)
    (hText : ∀ a ∈ as, a.HasText)
    (hSame : SameNamed names others) :
    ((∃ e ∈ builtin,
          Scalar.str e.name ∈ names ∧
            ∃ defect,
              e.derive (Attribute.byCategory as) tables =
                .error defect) ∧
        (∃ defect, runNamed names tables as = .error defect) ∧
        ∃ defect, runNamed others tables as = .error defect) ∨
      ∃ bs,
        runNamed names tables as = .ok bs ∧
          runNamed others tables as = .ok bs ∧
          Enhances names tables as bs := by
  by_cases hDerive :
      ∀ e ∈ builtin,
        Scalar.str e.name ∈ names →
          ∃ derived,
            e.derive (Attribute.byCategory as) tables =
              .ok derived
  · have hDeriveToo :
        ∀ e ∈ builtin,
          Scalar.str e.name ∈ others →
            ∃ derived,
              e.derive (Attribute.byCategory as) tables =
                .ok derived := by
      intro e he hName
      exact hDerive e he ((hSame e he).mpr hName)
    rcases exists_runNamed hText hDerive with ⟨bs, hbs⟩
    rcases exists_runNamed hText hDeriveToo with ⟨cs, hcs⟩
    have hEnhances := enhances_of_runNamed hText hbs
    have hEqual :=
      hEnhances.unique hText hSame
        (enhances_of_runNamed hText hcs)
    exact Or.inr ⟨bs, hbs, hEqual ▸ hcs, hEnhances⟩
  · push Not at hDerive
    rcases hDerive with ⟨e, he, hName, hNone⟩
    cases hDerived :
        e.derive (Attribute.byCategory as) tables with
    | ok derived => exact absurd hDerived (hNone derived)
    | error defect =>
        exact
          Or.inl
            ⟨⟨e, he, hName, defect, hDerived⟩,
              exists_error_of_derive he hName hDerived,
              exists_error_of_derive he ((hSame e he).mp hName)
                hDerived⟩

/-
  A unit with two sizes and two heat codes. The second size is
  described with its airflow already.
-/
def describedUnit : List Attribute :=
  [("SIZE", "018", "Small"), ("B3", "2", "Weak"),
      ("VOLTAGE", "8", "208V"), ("B1", "E", "Electric"),
      ("SIZE", "025", "Large [10,000 cfm nominal airflow]"),
      ("B3", "4", "Strong")].mapIdx
    fun place (category, code, description) =>
      { category := .str category
        code := code
        name := .str category
        position := .str category
        description := .str description
        start := 4 * place
        stop := 4 * place + 3 }

/- One enhancer named twice, and in two different orders. -/
theorem runNamed_describedUnit :
    (∀ a ∈ describedUnit, a.HasText) ∧
      SameNamed
        ["airflow", "noise", "heating_capacity", "airflow"]
        ["heating_capacity", "airflow"] ∧
      ∃ bs,
        runNamed
            ["airflow", "noise", "heating_capacity", "airflow"]
            Library.rn.tables describedUnit =
          .ok bs ∧
        runNamed ["heating_capacity", "airflow"]
            Library.rn.tables describedUnit =
          .ok bs ∧
        bs.map Attribute.description =
          [.str "Small", .str "Weak", .str "208V",
            .str "Electric",
            .str "Large [10,000 cfm nominal airflow]",
            .str "Strong [27.0 kW @ 208V]"] ∧
        Enhances
          ["airflow", "noise", "heating_capacity", "airflow"]
          Library.rn.tables describedUnit bs := by
  have hText : ∀ a ∈ describedUnit, a.HasText := by
    decide +kernel
  have hSame :
      SameNamed
        ["airflow", "noise", "heating_capacity", "airflow"]
        ["heating_capacity", "airflow"] := by
    intro e he
    rcases List.mem_pair.mp he with rfl | rfl
    · simp [airflow]
    · simp [heatingCapacity]
  have hRun :
      ((runNamed ["heating_capacity", "airflow"]
          Library.rn.tables describedUnit).toOption.map
            (·.map Attribute.description)) =
        some
          [.str "Small", .str "Weak", .str "208V",
            .str "Electric",
            .str "Large [10,000 cfm nominal airflow]",
            .str "Strong [27.0 kW @ 208V]"] := by
    decide +kernel
  rcases Option.map_eq_some_iff.mp hRun with
    ⟨cs, hSome, hDescriptions⟩
  have hcs := Outcome.toOption_eq_some_iff.mp hSome
  refine ⟨hText, hSame, ?_⟩
  rcases runNamed_of_sameNamed Library.rn.tables hText hSame with
    ⟨_, _, defect, hFails⟩ | ⟨bs, hbs, hBoth, hEnhances⟩
  · rw [hcs] at hFails
    cases hFails
  · rw [hcs, Except.ok.injEq] at hBoth
    subst hBoth
    exact ⟨cs, hbs, hcs, hDescriptions, hEnhances⟩

end Enhancer

end ModelNumber
