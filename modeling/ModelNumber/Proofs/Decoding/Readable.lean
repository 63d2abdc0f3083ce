import ModelNumber.Proofs.Configuration.Checked
import ModelNumber.Proofs.Decoding.Steps
import ModelNumber.Proofs.Enhancement.Named
import ModelNumber.Proofs.Enhancement.Tables
import ModelNumber.Proofs.Segment.Rendering

/-
  Tables that can be read. Of a checked configuration only the
  enhancers can fail, and only at a record that lacks a field
  or has the wrong kind of value in it. They look at records
  of codes that can be typed. When all those can be read,
  every text can be decoded.

  Main declarations:
    * `Text.IsTypable`
    * `Configuration.HasReadableTables`
    * `Configuration.Types` and `Configuration.TypesSegments`
    * `Configuration.HasReadableTables.exists_decode`
-/

namespace ModelNumber

------------------------------------------------------------
-- Codes that can be typed
------------------------------------------------------------

/- The options that respell nothing. -/
def Options.plain : Options where
  dashCharacters := []
  uppercase := false

/- A code can be typed if it is found where it is written. -/
def Text.IsTypable (code : String) : Prop :=
  Options.plain.IsCanonical code

instance (code : String) : Decidable (Text.IsTypable code) :=
  inferInstanceAs (Decidable (Options.plain.IsCanonical code))

/- Nothing is respelled by the plain options. -/
theorem Text.normal_plain (s : List Char) :
    normal [] false s = trim s := by
  rw [normal_eq_trim, flatMap_respell_eq_self]
  intro c _
  rfl

/- Whatever is found in a text can be typed. -/
theorem Split.isTypable_of_mem_codes
    {g : Grammar}
    {dashes : List Char}
    {uppercase : Bool}
    {text : List Char}
    {part : Part}
    {code : String}
    (hCode :
      code ∈ (ofNormal g
        (Text.normal dashes uppercase text)).codes part) :
    Text.IsTypable code := by
  have hTrimmed :
      Text.trim (Text.normal dashes uppercase text) =
        Text.normal dashes uppercase text := by
    rw [Text.normal_eq_trim]
    exact Text.trim_eq_self (Text.isTrimmed_trim _)
  rw [← hTrimmed, ← Text.normal_plain] at hCode
  refine isCanonical_of_mem_codes rfl ?_ hCode
  intro hUppercase
  cases hUppercase

------------------------------------------------------------
-- Segments of a text
------------------------------------------------------------

/- The code of a segment is one of the codes of its part. -/
theorem Split.mem_codes_of_mem_segments
    {split : Split}
    {seg : Segment}
    (hSeg : seg ∈ split.segments) :
    seg.code ∈ split.codes seg.part :=
  List.mem_map_of_mem
    (List.mem_filter.mpr ⟨hSeg, decide_eq_true rfl⟩)

------------------------------------------------------------
-- What has to be readable
------------------------------------------------------------

namespace Configuration

/- A configuration names an enhancer. -/
def Names
    (c : Configuration)
    (e : Enhancer) : Prop :=
  Json.str e.name ∈ c.enhancers

/- A category is one of the grammar. -/
def HasSlot
    (c : Configuration)
    (category : String) : Prop :=
  Json.str category ∈ c.grammar.categories

/- All records of typable codes in a table say something. -/
def Tells
    (c : Configuration)
    (table : String)
    (tells : Json → Prop) : Prop :=
  ∀ code,
    Text.IsTypable code →
      Enhancer.Reads c.tables table code tells

/- A table has a record of some typable code. -/
def HasRecord
    (c : Configuration)
    (table : String) : Prop :=
  ∃ code record,
    Text.IsTypable code ∧
      Enhancer.record? c.tables table code = .ok (some record)

/-
  The enhancers can read the record of every code that can be
  typed where they look at it. The voltage of a supply is only
  looked at when there is a record of electric heat.
-/
structure HasReadableTables (c : Configuration) : Prop where
  airflow :
    c.Names .airflow → c.HasSlot "SIZE" →
      c.Tells "nominal_airflow" Enhancer.TellsAirflow
  power :
    c.Names .heatingCapacity → c.HasSlot "B1" → c.HasSlot "B3" →
      c.Tells "electric_heat_kw" Enhancer.TellsPower
  voltage :
    c.Names .heatingCapacity → c.HasSlot "B1" → c.HasSlot "B3" →
      c.HasSlot "VOLTAGE" → c.HasRecord "electric_heat_kw" →
        c.Tells "voltage_rating" Enhancer.TellsVoltage
  gas :
    c.Names .heatingCapacity → c.HasSlot "B1" → c.HasSlot "B3" →
      c.Tells "gas_heat_mbh" Enhancer.TellsGas

------------------------------------------------------------
-- Readable tables are enough
------------------------------------------------------------

/- An attribute has a category of the grammar and a typable code. -/
structure Types
    (c : Configuration)
    (a : Attribute) : Prop where
  category : Json.scalar a.category ∈ c.grammar.categories
  code : Text.IsTypable a.code

variable {c : Configuration}

/- An attribute that speaks for a category fills a slot of it. -/
theorem hasSlot_and_isTypable_of_get?
    {as : List Attribute}
    (hTypes : ∀ a ∈ as, c.Types a)
    {name : String}
    {a : Attribute}
    (ha :
      (Attribute.byCategory as).get? (.str name) = some a) :
    c.HasSlot name ∧ Text.IsTypable a.code := by
  rcases Attribute.exists_of_get?_byCategory ha with
    ⟨hMem, hCategory⟩
  have hName : a.category = .str name :=
    Scalar.eq_str_of_beq (BEq.symm hCategory)
  have hTyped := hTypes a hMem
  have hSlot := hTyped.category
  rw [hName] at hSlot
  exact ⟨hSlot, hTyped.code⟩

namespace HasReadableTables

variable {as : List Attribute}

/- The airflow can be derived from typed attributes. -/
theorem exists_deriveAirflow
    (hReadable : c.HasReadableTables)
    (hTables : c.tables.IsTables)
    (hNames : c.Names .airflow)
    (hTypes : ∀ a ∈ as, c.Types a) :
    ∃ derived,
      Enhancer.deriveAirflow (Attribute.byCategory as) c.tables =
        .ok derived := by
  rw [Enhancer.exists_deriveAirflow_iff hTables]
  intro size hSize
  rcases hasSlot_and_isTypable_of_get? hTypes hSize with
    ⟨hSlot, hCode⟩
  exact hReadable.airflow hNames hSlot size.code hCode

/- The heating capacity can be derived from typed attributes. -/
theorem exists_deriveHeatingCapacity
    (hReadable : c.HasReadableTables)
    (hTables : c.tables.IsTables)
    (hNames : c.Names .heatingCapacity)
    (hTypes : ∀ a ∈ as, c.Types a) :
    ∃ derived,
      Enhancer.deriveHeatingCapacity (Attribute.byCategory as)
          c.tables =
        .ok derived := by
  rw [Enhancer.exists_deriveHeatingCapacity_iff hTables]
  intro heat capacity hHeat hCapacity
  have hB1 := (hasSlot_and_isTypable_of_get? hTypes hHeat).1
  rcases hasSlot_and_isTypable_of_get? hTypes hCapacity with
    ⟨hB3, hCode⟩
  constructor
  · intro _ record hRecord
    refine
      ⟨hReadable.power hNames hB1 hB3 _ hCode record hRecord, ?_⟩
    intro voltage hVoltage
    rcases hasSlot_and_isTypable_of_get? hTypes hVoltage with
      ⟨hSlot, hTypable⟩
    exact hReadable.voltage hNames hB1 hB3 hSlot
      ⟨capacity.code, record, hCode, hRecord⟩ _ hTypable
  · intro _
    exact hReadable.gas hNames hB1 hB3 capacity.code hCode

end HasReadableTables

------------------------------------------------------------
-- Named enhancers
------------------------------------------------------------

/- The enhancers of a checked configuration are those it names. -/
theorem Checked.exists_named
    (hChecked : c.Checked) :
    ∃ es,
      Enhancer.named c.enhancers = .ok es ∧
        ∀ e, e ∈ es ↔
          Enhancer.find? (.str e.name) = some e ∧ c.Names e := by
  have hNames :
      ∀ name ∈ c.enhancers,
        ∃ key e,
          name = .scalar key ∧ Enhancer.find? key = some e ∧
            Enhancer.find? (.str e.name) = some e := by
    intro name hName
    rcases hChecked.exists_enhancer hName with
      ⟨key, e, hKey, hFind, _⟩
    have hSame := Enhancer.eq_name_of_find? hFind
    exact ⟨key, e, hKey, hFind, hSame ▸ hFind⟩
  rcases Enhancer.exists_named hNames with
    ⟨es, hNamed, hMap, hFind⟩
  refine ⟨es, hNamed, ?_⟩
  intro e
  unfold Names
  rw [hMap, List.mem_map]
  constructor
  · intro he
    exact ⟨hFind e he, e, he, rfl⟩
  · rintro ⟨hOwn, other, hOther, hName⟩
    rw [Json.scalar.injEq, Scalar.str.injEq] at hName
    have hSame := hFind other hOther
    rw [hName, hOwn, Option.some.injEq] at hSame
    rwa [hSame]

/- Redescribing an attribute keeps its category and code. -/
theorem Types.of_redescribes
    {a b : Attribute}
    (ha : c.Types a)
    (h : a.Redescribes b) :
    c.Types b := by
  rw [Attribute.Redescribes] at h
  rw [h]
  exact ⟨ha.category, ha.code⟩

/- With readable tables, typed attributes can be enhanced. -/
theorem HasReadableTables.exists_enhanced
    (hReadable : c.HasReadableTables)
    (hChecked : c.Checked)
    (hTables : c.tables.IsTables)
    (options : Options)
    {as : List Attribute}
    (hTypes : ∀ a ∈ as, c.Types a)
    (hText : ∀ a ∈ as, a.HasText) :
    ∃ bs, c.enhanced options as = .ok bs := by
  unfold enhanced
  split
  · rcases hChecked.exists_named with ⟨es, hNamed, hMem⟩
    rw [hNamed]
    refine Enhancer.exists_runAll ?_ hText
    intro e he bs hbs
    have hTyped : ∀ b ∈ bs, c.Types b := by
      intro b hb
      rcases hbs.exists_of_mem_right hb with ⟨a, ha, hab⟩
      exact (hTypes a ha).of_redescribes hab
    rcases (hMem e).mp he with ⟨hFind, hNames⟩
    rcases Enhancer.eq_airflow_or_eq_heatingCapacity hFind with rfl | rfl
    · exact hReadable.exists_deriveAirflow hTables hNames hTyped
    · exact hReadable.exists_deriveHeatingCapacity hTables hNames
        hTyped
  · exact ⟨as, rfl⟩

/- The warnings of a checked configuration can be computed. -/
theorem Checked.exists_warningsOf
    (hChecked : c.Checked)
    (options : Options)
    (attributes : List Attribute) :
    ∃ warnings, c.warningsOf options attributes = .ok warnings := by
  have hSlots :
      ∀ category ∈ c.grammar.categories,
        ∃ key, category.key = .ok key := by
    intro category hCategory
    rcases hChecked.exists_key hCategory with ⟨key, hKey, _⟩
    exact ⟨key, Json.key_eq_ok_iff.mpr hKey⟩
  rcases Outcome.exists_mapM_eq_ok hSlots with ⟨slots, hMap⟩
  unfold warningsOf ruleScope
  rw [hMap]
  split
  · exact Rule.exists_warnings
      (fun r hr => hChecked.hasKeys hr) _ _
  · exact ⟨[], rfl⟩

------------------------------------------------------------
-- Decoding any text
------------------------------------------------------------

/- The segments of a split have slots and typable codes. -/
structure TypesSegments
    (c : Configuration)
    (split : Split) : Prop where
  category :
    ∀ s ∈ split.segments, ∀ category,
      s.category = some category →
        category ∈ c.grammar.categories
  code : ∀ s ∈ split.segments, Text.IsTypable s.code

/- The categories of a split are keys. -/
theorem Checked.exists_keyed
    (hChecked : c.Checked)
    {split : Split}
    (hTypes : c.TypesSegments split) :
    ∃ keyed : List (Scalar × Segment),
      split.mapped = keyed.map fun m => (Json.scalar m.1, m.2) := by
  have hKeys :
      ∀ m ∈ split.mapped,
        ∃ keyed,
          (do return ((← m.1.key), m.2)) =
            (.ok keyed : Except Defect (Scalar × Segment)) := by
    intro m hm
    rcases List.mem_filterMap.mp hm with ⟨seg, hSeg, hPair⟩
    rcases Option.map_eq_some_iff.mp hPair with
      ⟨category, hCategory, rfl⟩
    rcases hChecked.exists_key
        (hTypes.category seg hSeg category hCategory) with
      ⟨key, hKey, _⟩
    exact
      ⟨(key, seg), Outcome.bind_eq_ok_iff.mpr
        ⟨key, Json.key_eq_ok_iff.mpr hKey, rfl⟩⟩
  rcases Outcome.exists_mapM_eq_ok hKeys with ⟨keyed, hKeyed⟩
  exact ⟨keyed, Split.keyed_eq_ok_iff.mp hKeyed⟩

/- With readable tables, a text that is split can be decoded. -/
theorem HasReadableTables.exists_decode_of_split
    (hReadable : c.HasReadableTables)
    (hChecked : c.Checked)
    (hTables : c.tables.IsTables)
    (hText : c.catalog.HasTextDescriptions)
    {options : Options}
    {text : String}
    {split : Split}
    (hSplit : Split.ofText options c.grammar text = .ok split)
    (hTypes : c.TypesSegments split) :
    ∃ d, c.decode options text = .ok d := by
  rcases hChecked.exists_keyed hTypes with ⟨keyed, hKeyed⟩
  have hTyped :
      ∀ a ∈ keyed.map fun m => c.attributeOf m.1 m.2,
        c.Types a ∧ a.HasText := by
    intro a ha
    rcases List.mem_map.mp ha with ⟨m, hm, rfl⟩
    rcases (Split.mem_keyed_iff hKeyed).mp hm with
      ⟨hSeg, hCategory⟩
    exact
      ⟨⟨hTypes.category m.2 hSeg _ hCategory,
        hTypes.code m.2 hSeg⟩,
        Catalog.exists_resolve_description hText m.1 m.2.code⟩
  rcases hReadable.exists_enhanced hChecked hTables options
      (fun a ha => (hTyped a ha).1)
      (fun a ha => (hTyped a ha).2) with
    ⟨attributes, hAttributes⟩
  rcases hChecked.exists_warningsOf options attributes with
    ⟨warnings, hWarnings⟩
  unfold decode
  rw [hSplit]
  refine ⟨_, Outcome.bind_eq_ok_iff.mpr ⟨split, rfl,
    Outcome.bind_eq_ok_iff.mpr
      ⟨keyed, Split.keyed_eq_ok_iff.mpr hKeyed,
        Outcome.bind_eq_ok_iff.mpr
          ⟨attributes, hAttributes,
            Outcome.bind_eq_ok_iff.mpr
              ⟨warnings, hWarnings, rfl⟩⟩⟩⟩⟩

/- Every text is split into segments of this kind. -/
theorem typesSegments_ofNormal
    (c : Configuration)
    (dashes : List Char)
    (uppercase : Bool)
    (text : List Char) :
    c.TypesSegments
      (.ofNormal c.grammar
        (Text.normal dashes uppercase text)) where
  category := by
    intro s hs category hCategory
    exact Split.mem_categories_of_mem_segments hs hCategory
  code := by
    intro s hs
    exact Split.isTypable_of_mem_codes
      (Split.mem_codes_of_mem_segments hs)

/- With readable tables, every text can be decoded. -/
theorem HasReadableTables.exists_decode
    (hReadable : c.HasReadableTables)
    (hChecked : c.Checked)
    (hTables : c.tables.IsTables)
    (hText : c.catalog.HasTextDescriptions)
    {options : Options}
    {dashes : List Char}
    (hDashes : options.dashes = .ok dashes)
    (text : String) :
    ∃ d, c.decode options text = .ok d :=
  hReadable.exists_decode_of_split hChecked hTables hText
    (Split.ofText_eq_ok hDashes c.grammar text)
    (c.typesSegments_ofNormal dashes options.uppercase
      text.toList)

end Configuration

end ModelNumber
