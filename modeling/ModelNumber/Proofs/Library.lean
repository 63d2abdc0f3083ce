import ModelNumber.Library.Basic
import ModelNumber.Proofs.Decoding.Readable
import ModelNumber.Proofs.Report.Document

/-
  The configurations that come with the library decode and
  export whatever is typed. They have no problems, their
  tables have all that the enhancers read, and whatever they
  show are texts, with different names for the categories.

  Main declarations:
    * `Library.configuration_eq_ok`
    * `Configuration.IsReady`
    * `Configuration.Presents`
    * `Configuration.IsReady.exists_decode`
    * `Library.presents_of_find?`
-/

namespace ModelNumber

------------------------------------------------------------
-- Loading
------------------------------------------------------------

namespace Library

variable {lib : Library} {key : String} {config : Configuration}

/- A configuration without problems passes the check. -/
theorem checked_eq_ok
    (hCheck : config.check = .ok []) :
    checked config = .ok config := by
  rw [checked, hCheck]
  rfl

/- A shipped configuration without problems is built as it is. -/
theorem build_eq_ok
    (hFind : lib.find? key = some config)
    (hCheck : config.check = .ok [])
    {r : Request}
    (hSource : r.source = .shipped) :
    lib.build key r = .ok config := by
  have hFetch : lib.fetch key r.source = .ok config := by
    simp only [fetch, hSource, hFind]
  rw [build, hFetch]
  cases r.validate with
  | false => rfl
  | true => exact checked_eq_ok hCheck

/- A shipped configuration without problems can be loaded. -/
theorem configuration_eq_ok
    (hFind : lib.find? (Text.lower key) = some config)
    (hCheck : config.check = .ok []) :
    lib.configuration key = .ok config := by
  have hBuild :
      lib.build (Text.lower key) { key } = .ok config :=
    build_eq_ok hFind hCheck rfl
  have hNone : (∅ : Cache).loaded.get? (Text.lower key) = none :=
    rfl
  simp only [configuration, load, hNone, hBuild, ite_self]
  rfl

end Library

namespace Configuration

variable {c : Configuration}

------------------------------------------------------------
-- Ready configurations
------------------------------------------------------------

/-
  A configuration that is ready for any text: it has no
  problems, its tables can be read, and it is plain.
-/
structure IsReady (c : Configuration) : Prop where
  check : c.check = .ok []
  plain : c.IsPlain
  tables : c.tables.IsTables
  readable : c.HasReadableTables

/-
  A decode presents a configuration: its attributes are shown
  as categories of the catalog, none of its notices tells of
  an unknown category, and it is exported.
-/
structure Presents
    (c : Configuration)
    (d : Decoding) : Prop where
  attributes : ∀ a ∈ d.attributes, c.catalog.Shows a
  notices : ∀ n ∈ d.notices, n.code ≠ "UNKNOWN_CATEGORY"
  exported : d.IsExported

/- A ready configuration decodes every text, and presents it. -/
theorem IsReady.exists_decode
    (hReady : c.IsReady)
    {options : Options}
    {dashes : List Char}
    (hDashes : options.dashes = .ok dashes)
    (text : String) :
    ∃ d, c.decode options text = .ok d ∧ c.Presents d := by
  have hChecked := check_eq_ok_nil_iff.mp hReady.check
  rcases hReady.readable.exists_decode hChecked hReady.tables
      hReady.plain.descriptions hDashes text with
    ⟨d, hd⟩
  rcases decode_eq_ok_iff.mp hd with ⟨split, keyed, hSteps⟩
  have hKnown : ∀ m ∈ keyed, c.catalog.contains m.1 = true := by
    intro m hm
    exact hChecked.contains_of_mem_keyed hSteps hm
  refine ⟨d, hd, ?_, ?_, ?_⟩
  · intro a ha
    exact hSteps.shows hKnown ha
  · intro n hn
    exact hSteps.code_ne_unknownCategory hKnown hn
  · exact
      (hReady.plain.isPlain_of_steps hKnown hSteps).isExported

/- Tables can be read if all of their rows can. -/
theorem hasReadableTables_of_rows
    {fields airflow power voltage gas : List (String × Json)}
    (hTables : c.tables = .obj fields)
    (hAirflow :
      fields.lookup "nominal_airflow" = some (.obj airflow))
    (hTellsAirflow :
      ∀ row ∈ airflow, Enhancer.TellsAirflow row.2)
    (hPower :
      fields.lookup "electric_heat_kw" = some (.obj power))
    (hTellsPower : ∀ row ∈ power, Enhancer.TellsPower row.2)
    (hVoltage :
      fields.lookup "voltage_rating" = some (.obj voltage))
    (hTellsVoltage :
      ∀ row ∈ voltage, Enhancer.TellsVoltage row.2)
    (hGas : fields.lookup "gas_heat_mbh" = some (.obj gas))
    (hTellsGas : ∀ row ∈ gas, Enhancer.TellsGas row.2) :
    c.HasReadableTables where
  airflow := by
    intro _ _ code _
    rw [hTables]
    exact Enhancer.reads_of_rows hAirflow hTellsAirflow code
  power := by
    intro _ _ _ code _
    rw [hTables]
    exact Enhancer.reads_of_rows hPower hTellsPower code
  voltage := by
    intro _ _ _ _ _ code _
    rw [hTables]
    exact Enhancer.reads_of_rows hVoltage hTellsVoltage code
  gas := by
    intro _ _ _ code _
    rw [hTables]
    exact Enhancer.reads_of_rows hGas hTellsGas code

end Configuration

namespace Library

------------------------------------------------------------
-- Shipped configurations
------------------------------------------------------------

/- The RN series is ready for any text. -/
theorem isReady_rn : rn.IsReady where
  check := rfl
  plain := by decide +kernel
  tables := by decide +kernel
  readable :=
    Configuration.hasReadableTables_of_rows rfl
      rfl (by decide +kernel) rfl (by decide +kernel)
      rfl (by decide +kernel) rfl (by decide +kernel)

/- The RQ series is ready for any text. -/
theorem isReady_rq : rq.IsReady where
  check := rfl
  plain := by decide +kernel
  tables := by decide +kernel
  readable :=
    Configuration.hasReadableTables_of_rows rfl
      rfl (by decide +kernel) rfl (by decide +kernel)
      rfl (by decide +kernel) rfl (by decide +kernel)

/- The configurations of the library are those of its two series. -/
theorem find?_standard_cases
    {key : String}
    {config : Configuration}
    (hFind : standard.find? key = some config) :
    key = "rn" ∧ config = rn ∨ key = "rq" ∧ config = rq := by
  have hMem : (key, config) ∈ standard.shipped := by
    rcases List.lookup_eq_some_iff.mp hFind with
      ⟨before, after, hShipped, _⟩
    rw [hShipped]
    exact List.mem_append_cons_self
  simpa [standard] using hMem

/-
  The configurations that come with the library are loaded by
  their keys, and whatever is typed, with any options, they
  decode and present it.
-/
theorem presents_of_find?
    {key : String}
    {config : Configuration}
    (hFind : standard.find? key = some config) :
    standard.configuration key = .ok config ∧
      ∀ (options : Options) (dashes : List Char),
        options.dashes = .ok dashes →
          ∀ text : String,
            ∃ d,
              config.decode options text = .ok d ∧
                config.Presents d := by
  have hLower : Text.lower key = key := by
    rcases find?_standard_cases hFind with ⟨rfl, _⟩ | ⟨rfl, _⟩
    · decide +kernel
    · decide +kernel
  have hReady : config.IsReady := by
    rcases find?_standard_cases hFind with ⟨_, rfl⟩ | ⟨_, rfl⟩
    · exact isReady_rn
    · exact isReady_rq
  constructor
  · apply configuration_eq_ok
    · rw [hLower]
      exact hFind
    · exact hReady.check
  · intro options dashes hDashes text
    exact hReady.exists_decode hDashes text

/-
  The RN series presents a text with tildes for dashes, for
  which there are a warning and a notice.
-/
theorem presents_rn_of_tildes :
    standard.find? "rn" = some rn ∧
      ({ dashCharacters := ["~"] } : Options).dashes = .ok ['~'] ∧
        ∃ d,
          rn.decode { dashCharacters := ["~"] }
              "rn~025~3~0~e~a~0~0~0~4:q" = .ok d ∧
            d.attributes.length = 11 ∧
              d.warnings ≠ [] ∧ d.notices ≠ [] ∧
              rn.Presents d := by
  have hFind : standard.find? "rn" = some rn := rfl
  have hShown :
      (rn.decode { dashCharacters := ["~"] }
          "rn~025~3~0~e~a~0~0~0~4:q").toOption.map
        (fun d => (d.attributes.length, d.warnings.isEmpty,
          d.notices.isEmpty)) = some (11, false, false) := by
    decide +kernel
  rcases (presents_of_find? hFind).2 { dashCharacters := ["~"] }
      ['~'] rfl "rn~025~3~0~e~a~0~0~0~4:q" with
    ⟨d, hd, hPresents⟩
  rw [hd] at hShown
  simp only [Except.toOption, Option.map_some, Option.some.injEq,
    Prod.mk.injEq, List.isEmpty_eq_false_iff] at hShown
  exact
    ⟨hFind, rfl, d, hd, hShown.1, hShown.2.1, hShown.2.2,
      hPresents⟩

end Library

end ModelNumber
