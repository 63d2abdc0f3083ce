import ModelNumber.Enhancement.Builtin
import ModelNumber.Proofs.Outcome

/-
  What the enhancers read in the tables of a model type, and
  that this is all it takes: an enhancer derives something, or
  finds that there is nothing to derive, exactly when the
  records that it looks up have the fields that it needs.

  Main declarations:
    * `Json.IsTables`
    * `Enhancer.Reads` and `Enhancer.reads_of_rows`
    * `Enhancer.TellsAirflow`, `Enhancer.TellsPower`,
      `Enhancer.TellsVoltage` and `Enhancer.TellsGas`
    * `Enhancer.exists_deriveAirflow_iff`
    * `Enhancer.exists_deriveHeatingCapacity_iff`
-/

namespace ModelNumber

------------------------------------------------------------
-- Tables
------------------------------------------------------------

/- A value is an object of tables, each an object of records. -/
def Json.IsTables (tables : Json) : Prop :=
  ∃ fields,
    tables = .obj fields ∧
      ∀ f ∈ fields, ∃ rows,
        f.2 = .obj rows ∧
          ∀ row ∈ rows, ∃ record, row.2 = .obj record

/- It can be tested whether a value is an object. -/
instance (v : Json) : Decidable (∃ fields, v = .obj fields) :=
  match v with
  | .obj fields => isTrue ⟨fields, rfl⟩
  | .scalar _ => isFalse (by simp)
  | .arr _ => isFalse (by simp)

/- It can be tested what is said of the fields of an object. -/
instance
    {P : List (String × Json) → Prop}
    [DecidablePred P]
    (v : Json) : Decidable (∃ fields, v = .obj fields ∧ P fields) :=
  match v with
  | .obj fields => decidable_of_iff (P fields) (by simp)
  | .scalar _ => isFalse (by simp)
  | .arr _ => isFalse (by simp)

instance (tables : Json) : Decidable tables.IsTables :=
  inferInstanceAs
    (Decidable
      (∃ fields,
        tables = .obj fields ∧
          ∀ f ∈ fields, ∃ rows,
            f.2 = .obj rows ∧
              ∀ row ∈ rows, ∃ record, row.2 = .obj record))

/- A value is a number. Truth values count as numbers. -/
def Json.IsNumber (v : Json) : Prop :=
  ∃ k, v = .scalar k ∧ k.isNumber = true

/- It can be tested whether a value is a number. -/
instance (v : Json) : Decidable v.IsNumber :=
  match v with
  | .scalar k =>
      decidable_of_iff (k.isNumber = true)
        (by simp [Json.IsNumber])
  | .arr _ => isFalse (by simp [Json.IsNumber])
  | .obj _ => isFalse (by simp [Json.IsNumber])

/- It can be tested whether a value is a scalar. -/
instance (v : Json) : Decidable (∃ k, v = .scalar k) :=
  match v with
  | .scalar k => isTrue ⟨k, rfl⟩
  | .arr _ => isFalse (by simp)
  | .obj _ => isFalse (by simp)

/- It can be tested what is said of a value that may be absent. -/
instance
    {P : Json → Prop}
    [DecidablePred P]
    (v : Option Json) : Decidable (∃ w, v = some w ∧ P w) :=
  match v with
  | none => isFalse (by simp)
  | some w => decidable_of_iff (P w) (by simp)

/- A field that is looked up is one of the fields. -/
theorem Json.mem_of_lookup_eq_some
    {fields : List (String × Json)}
    {name : String}
    {value : Json}
    (h : fields.lookup name = some value) :
    (name, value) ∈ fields := by
  rcases List.lookup_eq_some_iff.mp h with ⟨_, _, rfl, _⟩
  simp

namespace Enhancer

variable {tables : Json} {table code : String}

section Rows

variable {fields rows : List (String × Json)}

/- There is no record where there is no row. -/
theorem record?_eq_none
    (hTable : (fields.lookup table).getD (.obj []) = .obj rows)
    (hRow : rows.lookup code = none) :
    record? (.obj fields) table code = .ok none := by
  unfold record?
  simp only [Json.optionalField, hTable, bind, Except.bind]
  rw [hRow]
  rfl

/- An object in a row is a record. -/
theorem record?_eq_some
    {record : List (String × Json)}
    (hTable : (fields.lookup table).getD (.obj []) = .obj rows)
    (hRow : rows.lookup code = some (.obj record)) :
    record? (.obj fields) table code =
      .ok (some (.obj record)) := by
  unfold record?
  simp only [Json.optionalField, hTable, bind, Except.bind]
  rw [hRow]
  rfl

end Rows

/- A record is looked up without a defect, and is an object. -/
theorem record?_cases
    (hTables : tables.IsTables)
    (table code : String) :
    record? tables table code = .ok none ∨
      ∃ fields,
        record? tables table code = .ok (some (.obj fields)) := by
  rcases hTables with ⟨fields, rfl, hFields⟩
  have hRows :
      ∃ rows,
        (fields.lookup table).getD (.obj []) = .obj rows ∧
          ∀ row ∈ rows, ∃ record, row.2 = .obj record := by
    cases hTable : fields.lookup table with
    | none => exact ⟨[], rfl, by simp⟩
    | some v =>
        exact hFields _ (Json.mem_of_lookup_eq_some hTable)
  rcases hRows with ⟨rows, hTable, hRecords⟩
  cases hRow : rows.lookup code with
  | none => exact Or.inl (record?_eq_none hTable hRow)
  | some v =>
      rcases hRecords _ (Json.mem_of_lookup_eq_some hRow) with
        ⟨record, hRecord⟩
      subst hRecord
      exact Or.inr ⟨record, record?_eq_some hTable hRow⟩

/- The record of a code, if there is one, says something. -/
def Reads
    (tables : Json)
    (table code : String)
    (tells : Json → Prop) : Prop :=
  ∀ record,
    record? tables table code = .ok (some record) → tells record

/- What all rows of a table say, the record of a code says. -/
theorem reads_of_rows
    {fields rows : List (String × Json)}
    {tells : Json → Prop}
    (hTable : fields.lookup table = some (.obj rows))
    (hRows : ∀ row ∈ rows, tells row.2)
    (code : String) :
    Reads (.obj fields) table code tells := by
  intro record hRecord
  unfold record? at hRecord
  simp only [Json.optionalField, hTable, Option.getD_some, bind,
    Except.bind] at hRecord
  cases hRow : rows.lookup code with
  | none =>
      rw [hRow] at hRecord
      cases hRecord
  | some v =>
      rw [hRow, Option.getD_some] at hRecord
      split at hRecord
      · cases hRecord
      · cases hRecord
        exact hRows _ (Json.mem_of_lookup_eq_some hRow)

/- Records say the same where two conditions are the same. -/
theorem reads_congr
    {tells others : Json → Prop}
    (h : ∀ record, tells record ↔ others record) :
    Reads tables table code tells ↔
      Reads tables table code others := by
  simp only [Reads, h]

/-
  What is derived from the record of a code is derived exactly
  when the record, if there is one, allows it.
-/
theorem exists_record?_bind_iff
    {α : Type}
    (hTables : tables.IsTables)
    (table code : String)
    (derive : Json → Except Defect (Option α)) :
    (∃ derived,
        (do
          match ← record? tables table code with
          | none => return none
          | some record => derive record) =
            .ok derived) ↔
      Reads tables table code fun record =>
        ∃ derived, derive record = .ok derived := by
  rcases record?_cases hTables table code with
    hNone | ⟨fields, hSome⟩
  · rw [hNone]
    constructor
    · intro _ record hRecord
      rw [hNone] at hRecord
      cases hRecord
    · intro _
      exact ⟨none, rfl⟩
  · rw [hSome]
    constructor
    · intro hDerived record hRecord
      rw [hSome] at hRecord
      cases hRecord
      exact hDerived
    · intro hReads
      exact hReads _ hSome

------------------------------------------------------------
-- Airflow
------------------------------------------------------------

/- A record has a number as its airflow. -/
def TellsAirflow (record : Json) : Prop :=
  ∃ v, record.field? "cfm" = some v ∧ v.IsNumber

instance (record : Json) : Decidable (TellsAirflow record) :=
  inferInstanceAs
    (Decidable (∃ v, record.field? "cfm" = some v ∧ v.IsNumber))

/- Numbers and nothing else can be grouped. -/
theorem exists_grouped_iff (v : Json) :
    (∃ s, grouped v = .ok s) ↔ v.IsNumber := by
  cases v with
  | scalar k =>
      cases k <;>
        simp [grouped, Json.IsNumber, Scalar.isNumber]
  | arr items => simp [grouped, Json.IsNumber]
  | obj fields => simp [grouped, Json.IsNumber]

/- When the airflow of a unit is derived. -/
theorem exists_deriveAirflow_iff
    (hTables : tables.IsTables)
    (attributes : OrderedMap Scalar Attribute) :
    (∃ derived, deriveAirflow attributes tables = .ok derived) ↔
      ∀ size,
        attributes.get? "SIZE" = some size →
          Reads tables "nominal_airflow" size.code
            TellsAirflow := by
  have hRecord :
      ∀ record : Json,
        (∃ derived,
            (do
              let cfm ← grouped (← record.required "cfm")
              return some
                ("[" ++ cfm ++ " cfm nominal airflow]")) =
                (.ok derived : Except Defect (Option String))) ↔
          TellsAirflow record := by
    intro record
    simp only [Outcome.bind_eq_ok_iff, Outcome.pure_eq_ok_iff,
      Json.required_eq_ok_iff]
    constructor
    · rintro ⟨_, v, hv, cfm, hGrouped, _⟩
      exact ⟨v, hv, (exists_grouped_iff v).mp ⟨cfm, hGrouped⟩⟩
    · rintro ⟨v, hv, hNumber⟩
      rcases (exists_grouped_iff v).mpr hNumber with
        ⟨cfm, hGrouped⟩
      exact ⟨_, v, hv, cfm, hGrouped, rfl⟩
  unfold deriveAirflow
  cases hSize : attributes.get? "SIZE" with
  | none => simp [pure, Except.pure]
  | some size =>
      simp only [Option.some.injEq, forall_eq']
      refine (exists_record?_bind_iff hTables
        "nominal_airflow" size.code _).trans ?_
      exact reads_congr hRecord

------------------------------------------------------------
-- Heating capacity
------------------------------------------------------------

/- A record has a number, or a numeral, as its power. -/
def TellsPower (record : Json) : Prop :=
  ∃ v x, record.field? "kw" = some v ∧ v.toFloat = .ok x

instance (record : Json) : Decidable (TellsPower record) :=
  decidable_of_iff
    (∃ v, record.field? "kw" = some v ∧ v.toFloat.isOk = true)
    (exists_congr fun v => by
      cases v.toFloat <;> simp [Except.isOk, Except.toBool])

/- A record has a scalar as its voltage. -/
def TellsVoltage (record : Json) : Prop :=
  ∃ k, record.field? "volts" = some (.scalar k)

instance (record : Json) : Decidable (TellsVoltage record) :=
  decidable_of_iff
    (∃ v, record.field? "volts" = some v ∧ ∃ k, v = .scalar k)
    (by
      constructor
      · rintro ⟨_, hVolts, k, rfl⟩
        exact ⟨k, hVolts⟩
      · rintro ⟨k, hVolts⟩
        exact ⟨_, hVolts, k, rfl⟩)

/- A record has an input and an output. -/
def TellsGas (record : Json) : Prop :=
  (∃ v, record.field? "input" = some v) ∧
    ∃ v, record.field? "output" = some v

instance (record : Json) : Decidable (TellsGas record) :=
  decidable_of_iff
    ((record.field? "input").isSome = true ∧
      (record.field? "output").isSome = true)
    (by simp only [TellsGas, Option.isSome_iff_exists])

/- When the input and output of gas heat are derived. -/
theorem exists_deriveGas_iff
    (hTables : tables.IsTables)
    (capacity : Attribute) :
    (∃ derived, deriveGas capacity tables = .ok derived) ↔
      Reads tables "gas_heat_mbh" capacity.code TellsGas := by
  have hRecord :
      ∀ record : Json,
        (∃ derived,
            (do
              let input ← record.required "input"
              let output ← record.required "output"
              return some
                ("[" ++ input.shown ++ " MBH input / "
                  ++ output.shown ++ " MBH output]")) =
                (.ok derived : Except Defect (Option String))) ↔
          TellsGas record := by
    intro record
    simp only [Outcome.bind_eq_ok_iff, Outcome.pure_eq_ok_iff,
      Json.required_eq_ok_iff]
    constructor
    · rintro ⟨_, input, hInput, output, hOutput, _⟩
      exact ⟨⟨input, hInput⟩, output, hOutput⟩
    · rintro ⟨⟨input, hInput⟩, output, hOutput⟩
      exact ⟨_, input, hInput, output, hOutput, rfl⟩
  unfold deriveGas
  refine (exists_record?_bind_iff hTables
    "gas_heat_mbh" capacity.code _).trans ?_
  exact reads_congr hRecord

/- When the rated voltage of a supply is found and is a key. -/
theorem exists_ratedVoltage_iff
    (hTables : tables.IsTables)
    (voltage : Option Attribute) :
    (∃ rated,
        ratedVoltage voltage tables = .ok rated ∧
          ∀ volts ∈ rated, ∃ k, volts.key = .ok k) ↔
      ∀ v ∈ voltage,
        Reads tables "voltage_rating" v.code TellsVoltage := by
  cases voltage with
  | none => simp [ratedVoltage, pure, Except.pure]
  | some v =>
      simp only [Option.mem_some_iff, forall_eq']
      rcases record?_cases hTables "voltage_rating" v.code with
        hNone | ⟨fields, hSome⟩
      · constructor
        · intro _ record hRecord
          rw [hNone] at hRecord
          cases hRecord
        · intro _
          refine ⟨none, ?_, by simp⟩
          simp only [ratedVoltage, hNone]
          rfl
      · have hRated :
            ∀ rated,
              ratedVoltage (some v) tables = .ok rated ↔
                ∃ volts,
                  (Json.obj fields).field? "volts" =
                      some volts ∧
                    some volts = rated := by
          intro rated
          simp only [ratedVoltage, hSome, Outcome.bind_eq_ok_iff,
            Except.ok.injEq, exists_eq_left',
            Json.required_eq_ok_iff, Outcome.pure_eq_ok_iff]
        constructor
        · rintro ⟨rated, hOk, hKey⟩ record hRecord
          rw [hSome] at hRecord
          cases hRecord
          rcases (hRated rated).mp hOk with ⟨volts, hVolts, rfl⟩
          rcases hKey volts rfl with ⟨k, hk⟩
          rw [Json.key_eq_ok_iff] at hk
          exact ⟨k, hk ▸ hVolts⟩
        · intro hReads
          rcases hReads _ hSome with ⟨k, hk⟩
          refine
            ⟨some (.scalar k), (hRated _).mpr ⟨_, hk, rfl⟩, ?_⟩
          intro volts hVolts
          cases hVolts
          exact ⟨k, rfl⟩

/- When the power of electric heat is derived. -/
theorem exists_deriveElectric_iff
    (hTables : tables.IsTables)
    (capacity : Attribute)
    (voltage : Option Attribute) :
    (∃ derived,
        deriveElectric capacity voltage tables = .ok derived) ↔
      Reads tables "electric_heat_kw" capacity.code
        fun record =>
          TellsPower record ∧
            ∀ v ∈ voltage,
              Reads tables "voltage_rating" v.code
                TellsVoltage := by
  unfold deriveElectric
  refine (exists_record?_bind_iff hTables
    "electric_heat_kw" capacity.code _).trans ?_
  have hRecord :
      ∀ record : Json,
        (∃ derived,
            (do
              let kw ← (← record.required "kw").toFloat
              match ← ratedVoltage voltage tables with
              | none =>
                  return some ("[" ++ kilowatts kw ++ " rated]")
              | some volts =>
                  let derated := (← volts.key) == deratedVoltage
                  let kw :=
                    if derated then kw * derateFactor else kw
                  return some
                    ("[" ++ kilowatts kw ++ " @ " ++ volts.shown
                      ++ "V]")) =
                (.ok derived : Except Defect (Option String))) ↔
          TellsPower record ∧
            ∃ rated,
              ratedVoltage voltage tables = .ok rated ∧
                ∀ volts ∈ rated, ∃ k, volts.key = .ok k := by
    intro record
    simp only [Outcome.bind_eq_ok_iff, Json.required_eq_ok_iff]
    constructor
    · rintro ⟨_, v, hv, kw, hKw, rated, hRated, hRest⟩
      refine ⟨⟨v, kw, hv, hKw⟩, rated, hRated, ?_⟩
      intro volts hVolts
      cases hVolts
      rcases Outcome.bind_eq_ok_iff.mp hRest with ⟨k, hk, _⟩
      exact ⟨k, hk⟩
    · rintro ⟨⟨v, kw, hv, hKw⟩, rated, hRated, hKey⟩
      cases rated with
      | none => exact ⟨_, v, hv, kw, hKw, none, hRated, rfl⟩
      | some volts =>
          rcases hKey volts rfl with ⟨k, hk⟩
          exact
            ⟨_, v, hv, kw, hKw, some volts, hRated,
              Outcome.bind_eq_ok_iff.mpr ⟨k, hk, rfl⟩⟩
  rw [← exists_ratedVoltage_iff hTables]
  exact reads_congr hRecord

/- When the heating capacity of a unit is derived. -/
theorem exists_deriveHeatingCapacity_iff
    (hTables : tables.IsTables)
    (attributes : OrderedMap Scalar Attribute) :
    (∃ derived,
        deriveHeatingCapacity attributes tables = .ok derived) ↔
      ∀ heat capacity,
        attributes.get? "B1" = some heat →
          attributes.get? "B3" = some capacity →
            (HeatClass.ofCode (.str heat.code) = .electric →
                Reads tables "electric_heat_kw" capacity.code
                  fun record =>
                    TellsPower record ∧
                      ∀ v ∈ attributes.get? "VOLTAGE",
                        Reads tables "voltage_rating" v.code
                          TellsVoltage) ∧
              (HeatClass.ofCode (.str heat.code) = .gas →
                Reads tables "gas_heat_mbh" capacity.code
                  TellsGas) := by
  unfold deriveHeatingCapacity
  cases hHeat : attributes.get? "B1" with
  | none => simp [pure, Except.pure]
  | some heat =>
      cases hCapacity : attributes.get? "B3" with
      | none => simp [pure, Except.pure]
      | some capacity =>
          simp only [Option.some.injEq]
          cases hClass : HeatClass.ofCode (.str heat.code) with
          | electric =>
              simp [hClass, exists_deriveElectric_iff hTables]
          | gas => simp [hClass, exists_deriveGas_iff hTables]
          | unheated => simp [hClass, pure, Except.pure]
          | other => simp [hClass, pure, Except.pure]

end Enhancer

end ModelNumber
