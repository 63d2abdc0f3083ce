import ModelNumber.Proofs.Configuration.Read
import ModelNumber.Proofs.Configuration.Reference
import ModelNumber.Proofs.Decoding.Readable

/-
  When a decode has a result for every text. Readable tables
  are not only enough but needed: a code that can be typed can
  be written into its slot, and the text with it is decoded
  only if the records of the code can be read. The check does
  not look into records, so it depends on them whether there
  is a text that cannot be decoded.

  Main declarations:
    * `Grammar.filled` and `Split.exists_ofText_filled`
    * `Configuration.Fills`
    * `Configuration.hasReadableTables_of_exists_decode`
    * `Configuration.decode_total_iff`
-/

namespace ModelNumber

------------------------------------------------------------
-- Texts for chosen codes
------------------------------------------------------------

/- The number with a code for each slot of a grammar. -/
def Grammar.filled
    (g : Grammar)
    (fill : Json → String) : String :=
  Text.rendered (g.modelPart.map fill) (g.featurePart.map fill)

/- The entries of a part whose slots are filled. -/
theorem Part.entries_map
    (part : Part)
    (slots : List Json)
    (fill : Json → String) :
    part.entries slots (slots.map fill) =
      slots.map fun slot => (fill slot, part, slot) := by
  apply List.ext_getElem?
  intro i
  rw [entries, List.getElem?_mapIdx, List.getElem?_map,
    List.getElem?_map]
  cases slots[i]? <;> rfl

/-
  A split is filled if each segment has the code for its slot,
  and each slot has a segment.
-/
structure Split.IsFilled
    (split : Split)
    (g : Grammar)
    (fill : Json → String) : Prop where
  code :
    ∀ s ∈ split.segments, s.code = fill (Json.optional s.category)
  slot :
    ∀ slot ∈ g.categories,
      ∃ s ∈ split.segments, Json.optional s.category = slot

/- A filled number is split into what its slots are filled with. -/
theorem Split.exists_ofText_filled
    (g : Grammar)
    {fill : Json → String}
    (hFill : ∀ slot, Text.IsTypable (fill slot)) :
    ∃ split,
      ofText .plain g (g.filled fill) = .ok split ∧
        split.IsFilled g fill := by
  have hCodes :
      ∀ slots : List Json, ∀ code ∈ slots.map fill,
        Options.plain.IsCanonical code := by
    intro slots code hCode
    rcases List.mem_map.mp hCode with ⟨slot, _, rfl⟩
    exact hFill slot
  have hDashes : Options.plain.dashes = .ok [] := rfl
  rcases ofText_rendered hDashes List.not_mem_nil
      (hCodes g.modelPart) (hCodes g.featurePart) g with
    ⟨split, hSplit, hEntries, _⟩
  rw [Part.entries_map, Part.entries_map] at hEntries
  have hEntry :
      ∀ code part slot,
        (code, part, slot) ∈ split.segments.map Segment.entry ↔
          code = fill slot ∧ slot ∈ g.slots part := by
    intro code part slot
    rw [hEntries, List.mem_append, List.mem_map, List.mem_map]
    cases part with
    | model => simp [Grammar.slots, and_comm, eq_comm]
    | feature => simp [Grammar.slots, and_comm, eq_comm]
  refine ⟨split, hSplit, ?_, ?_⟩
  · intro s hs
    exact ((hEntry _ _ _).mp
      (List.mem_map.mpr ⟨s, hs, rfl⟩)).1
  · intro slot hSlot
    have hPart : ∃ part, slot ∈ g.slots part := by
      rcases List.mem_append.mp hSlot with hSlot | hSlot
      · exact ⟨.model, hSlot⟩
      · exact ⟨.feature, hSlot⟩
    rcases hPart with ⟨part, hPart⟩
    rcases List.mem_map.mp
        ((hEntry (fill slot) part slot).mpr ⟨rfl, hPart⟩) with
      ⟨s, hs, hSame⟩
    exact ⟨s, hs, congrArg (fun e => e.2.2) hSame⟩

namespace Configuration

variable {c : Configuration} {fill : Json → String}

/-
  Attributes are filled if each has the code for its category,
  and each category of the grammar has an attribute.
-/
structure Fills
    (c : Configuration)
    (fill : Json → String)
    (as : List Attribute) : Prop where
  code : ∀ a ∈ as, a.code = fill (.scalar a.category)
  category :
    ∀ name, c.HasSlot name → ∃ a ∈ as, a.category = .str name

/- Redescribed attributes are filled as before. -/
theorem Fills.of_redescribed
    {as bs : List Attribute}
    (hFills : c.Fills fill as)
    (h : Redescribed as bs) :
    c.Fills fill bs where
  code := by
    intro b hb
    rcases h.exists_of_mem_right hb with ⟨a, ha, hab⟩
    rw [Attribute.Redescribes] at hab
    rw [hab]
    exact hFills.code a ha
  category := by
    intro name hSlot
    rcases hFills.category name hSlot with ⟨a, ha, hName⟩
    rcases h.exists_of_mem ha with ⟨b, hb, hab⟩
    rw [Attribute.Redescribes] at hab
    refine ⟨b, hb, ?_⟩
    rw [hab]
    exact hName

/- The attribute of a slot has the code for the slot. -/
theorem Fills.exists_get?
    {as : List Attribute}
    (hFills : c.Fills fill as)
    {name : String}
    (hSlot : c.HasSlot name) :
    ∃ a,
      (Attribute.byCategory as).get? (.str name) = some a ∧
        a.code = fill (.str name) := by
  rcases hFills.category name hSlot with ⟨a, ha, hName⟩
  have hSame : (a.category == Scalar.str name) = true := by
    rw [hName]
    exact BEq.rfl
  rcases Attribute.exists_get?_byCategory ha hSame with ⟨b, hb⟩
  rcases Attribute.exists_of_get?_byCategory hb with
    ⟨hMem, hCategory⟩
  have hCode := hFills.code b hMem
  rw [Scalar.eq_str_of_beq (BEq.symm hCategory)] at hCode
  exact ⟨b, hb, hCode⟩

/- The attributes of a filled split are filled. -/
theorem Steps.fills
    {options : Options}
    {text : String}
    {split : Split}
    {keyed : List (Scalar × Segment)}
    {d : Decoding}
    (hSteps : c.Steps options text split keyed d)
    (hFilled : split.IsFilled c.grammar fill) :
    c.Fills fill
      (keyed.map fun m => c.attributeOf m.1 m.2) where
  code := by
    intro a ha
    rcases List.mem_map.mp ha with ⟨m, hm, rfl⟩
    rcases hSteps.mem_keyed_iff.mp hm with ⟨hSeg, hCategory⟩
    have hCode := hFilled.code m.2 hSeg
    rw [hCategory] at hCode
    exact hCode
  category := by
    intro name hSlot
    rcases hFilled.slot _ hSlot with ⟨s, hs, hCategory⟩
    have hSome : s.category = some (.str name) := by
      cases hCase : s.category with
      | none =>
          rw [hCase] at hCategory
          cases hCategory
      | some category =>
          rw [hCase] at hCategory
          exact congrArg some hCategory
    exact
      ⟨_, List.mem_map_of_mem
        (hSteps.mem_keyed_iff.mpr ⟨hs, hSome⟩), rfl⟩

/-
  Where all texts can be decoded, an enhancer can be run on
  attributes with any codes.
-/
theorem exists_run_of_exists_decode
    (hChecked : c.Checked)
    (hDecode : ∀ text, ∃ d, c.decode .plain text = .ok d)
    (hFill : ∀ slot, Text.IsTypable (fill slot))
    {e : Enhancer}
    (hFind : Enhancer.find? (.str e.name) = some e)
    (hNames : c.Names e) :
    ∃ as bs, c.Fills fill as ∧ e.run c.tables as = .ok bs := by
  rcases Split.exists_ofText_filled c.grammar hFill with
    ⟨filled, hSplit, hFilled⟩
  rcases hDecode (c.grammar.filled fill) with ⟨d, hd⟩
  rcases decode_eq_ok_iff.mp hd with ⟨split, keyed, hSteps⟩
  have hSame := hSteps.splits
  rw [hSplit] at hSame
  cases hSame
  rcases hChecked.exists_named with ⟨es, hNamed, hMem⟩
  have hRun := hSteps.attributes
  unfold enhanced at hRun
  rw [hNamed] at hRun
  rcases Enhancer.exists_run_of_runAll hRun e
      ((hMem e).mpr ⟨hFind, hNames⟩) with
    ⟨as, bs, has, hStep⟩
  exact
    ⟨as, bs, (hSteps.fills hFilled).of_redescribed has, hStep⟩

------------------------------------------------------------
-- Readable tables are needed
------------------------------------------------------------

/- An enhancer derives something from attributes with any codes. -/
theorem exists_derive_of_exists_decode
    (hChecked : c.Checked)
    (hDecode : ∀ text, ∃ d, c.decode .plain text = .ok d)
    (hFill : ∀ slot, Text.IsTypable (fill slot))
    {e : Enhancer}
    (hFind : Enhancer.find? (.str e.name) = some e)
    (hNames : c.Names e)
    {name : String}
    (hWrites : e.writes = .str name)
    (hSlot : c.HasSlot name) :
    ∃ as,
      c.Fills fill as ∧
        ∃ derived,
          e.derive (Attribute.byCategory as) c.tables =
            .ok derived := by
  rcases exists_run_of_exists_decode hChecked hDecode hFill hFind
      hNames with
    ⟨as, bs, hFills, hRun⟩
  rcases hFills.category name hSlot with ⟨a, ha, hName⟩
  have hTarget : (a.category == e.writes) = true := by
    rw [hName, hWrites]
    exact BEq.rfl
  exact
    ⟨as, hFills, Enhancer.exists_derive_of_run hRun ha hTarget⟩

/- Where all texts can be decoded, the airflow can be read. -/
theorem tells_airflow_of_exists_decode
    (hChecked : c.Checked)
    (hTables : c.tables.IsTables)
    (hDecode : ∀ text, ∃ d, c.decode .plain text = .ok d)
    (hNames : c.Names .airflow)
    (hSlot : c.HasSlot "SIZE") :
    c.Tells "nominal_airflow" Enhancer.TellsAirflow := by
  intro code hCode
  have hFill : ∀ _ : Json, Text.IsTypable code := fun _ => hCode
  rcases exists_derive_of_exists_decode hChecked hDecode hFill
      rfl hNames rfl hSlot with
    ⟨as, hFills, hDerive⟩
  rcases hFills.exists_get? hSlot with ⟨size, hSize, hSame⟩
  have hReads :=
    (Enhancer.exists_deriveAirflow_iff hTables _).mp hDerive size
      hSize
  rwa [hSame] at hReads

/- Codes for the heat type, the heat code and all other slots. -/
def heatFill
    (heat capacity other : String) : Json → String
| .str "B1" => heat
| .str "B3" => capacity
| _ => other

/-
  Where all texts can be decoded, the heating capacity can be
  derived for all codes.
-/
theorem reads_heat_of_exists_decode
    (hChecked : c.Checked)
    (hTables : c.tables.IsTables)
    (hDecode : ∀ text, ∃ d, c.decode .plain text = .ok d)
    (hNames : c.Names .heatingCapacity)
    (hB1 : c.HasSlot "B1")
    (hB3 : c.HasSlot "B3")
    {heat capacity other : String}
    (hHeat : Text.IsTypable heat)
    (hCapacity : Text.IsTypable capacity)
    (hOther : Text.IsTypable other) :
    (HeatClass.ofCode (.str heat) = .electric →
        Enhancer.Reads c.tables "electric_heat_kw" capacity
          fun record =>
            Enhancer.TellsPower record ∧
              (c.HasSlot "VOLTAGE" →
                Enhancer.Reads c.tables "voltage_rating" other
                  Enhancer.TellsVoltage)) ∧
      (HeatClass.ofCode (.str heat) = .gas →
        Enhancer.Reads c.tables "gas_heat_mbh" capacity
          Enhancer.TellsGas) := by
  have hFill :
      ∀ slot, Text.IsTypable
        (heatFill heat capacity other slot) := by
    intro slot
    unfold heatFill
    split
    · exact hHeat
    · exact hCapacity
    · exact hOther
  rcases exists_derive_of_exists_decode hChecked hDecode hFill
      rfl hNames rfl hB3 with
    ⟨as, hFills, hDerive⟩
  rcases hFills.exists_get? hB1 with ⟨b1, hGetB1, hCodeB1⟩
  rcases hFills.exists_get? hB3 with ⟨b3, hGetB3, hCodeB3⟩
  have hBoth :=
    (Enhancer.exists_deriveHeatingCapacity_iff hTables _).mp
      hDerive b1 b3 hGetB1 hGetB3
  rw [hCodeB1, hCodeB3] at hBoth
  refine ⟨?_, hBoth.2⟩
  intro hClass record hRecord
  rcases hBoth.1 hClass record hRecord with ⟨hPower, hVoltage⟩
  refine ⟨hPower, ?_⟩
  intro hSlot
  rcases hFills.exists_get? hSlot with ⟨v, hGet, hCode⟩
  have hReads := hVoltage v hGet
  rwa [hCode] at hReads

/- Where all texts can be decoded, the tables are readable. -/
theorem hasReadableTables_of_exists_decode
    (hChecked : c.Checked)
    (hTables : c.tables.IsTables)
    (hDecode : ∀ text, ∃ d, c.decode .plain text = .ok d) :
    c.HasReadableTables where
  airflow := tells_airflow_of_exists_decode hChecked hTables hDecode
  power := by
    intro hNames hB1 hB3 code hCode record hRecord
    have hE : Text.IsTypable "E" := by
      decide +kernel
    exact
      ((reads_heat_of_exists_decode hChecked hTables hDecode hNames
        hB1 hB3 hE hCode hE).1 rfl record hRecord).1
  voltage := by
    rintro hNames hB1 hB3 hSlot ⟨code, record, hCode, hRecord⟩
      other hOther
    have hE : Text.IsTypable "E" := by
      decide +kernel
    exact
      ((reads_heat_of_exists_decode hChecked hTables hDecode hNames
        hB1 hB3 hE hCode hOther).1 rfl record hRecord).2 hSlot
  gas := by
    intro hNames hB1 hB3 code hCode
    have hG : Text.IsTypable "G" := by
      decide +kernel
    exact
      (reads_heat_of_exists_decode hChecked hTables hDecode hNames
        hB1 hB3 hG hCode hG).2 rfl

/-
  Every text can be decoded with any options, unless a dash is
  no single character, exactly when the tables are readable.
-/
theorem decode_total_iff
    {doc : Json}
    {c : Configuration}
    (hRead : ofJson doc = .ok c)
    (hCheck : c.check = .ok [])
    (hText : c.catalog.HasTextDescriptions) :
    (∀ (options : Options) (dashes : List Char),
        options.dashes = .ok dashes →
          ∀ text, ∃ d, c.decode options text = .ok d) ↔
      c.HasReadableTables := by
  have hChecked := check_eq_ok_nil_iff.mp hCheck
  have hTables := isTables_of_ofJson hRead
  constructor
  · intro hTotal
    exact hasReadableTables_of_exists_decode hChecked hTables
      (hTotal .plain [] rfl)
  · intro hReadable options dashes hDashes text
    exact hReadable.exists_decode hChecked hTables hText hDashes
      text

------------------------------------------------------------
-- Records that are there and fields that are not
------------------------------------------------------------

/- A document with one size and the record of its airflow. -/
def airflowDocument (record : Json) : Json :=
  .obj
    [("key", "sizes"),
      ("title", "Sizes"),
      ("categories",
        .arr
          [.obj
            [("id", "SIZE"),
              ("name", "Size"),
              ("group", "model"),
              ("codes", .obj [("A", "Size A")])]]),
      ("positions", .obj []),
      ("grammar", .obj [("model_part", .arr ["SIZE"])]),
      ("reference_string", "A"),
      ("enhancers", .arr ["airflow"]),
      ("enhancement_tables",
        .obj [("nominal_airflow", .obj [("A", record)])])]

/- The configuration that the document describes. -/
def ofAirflow (record : Json) : Configuration :=
  { ofSizes "A" ["A"] with
    enhancers := ["airflow"]
    tables :=
      .obj [("nominal_airflow", .obj [("A", record)])] }

/- The only record is readable when it has a number of cfm. -/
theorem hasReadableTables_ofAirflow
    {fields : List (String × Json)}
    (hTells : Enhancer.TellsAirflow (.obj fields)) :
    (ofAirflow (.obj fields)).HasReadableTables := by
  have hOnly :
      ¬ (ofAirflow (.obj fields)).Names .heatingCapacity := by
    intro hMem
    have hName := List.mem_singleton.mp hMem
    rw [Json.scalar.injEq, Scalar.str.injEq] at hName
    revert hName
    decide
  refine
    { airflow := ?_
      power := fun hNames => absurd hNames hOnly
      voltage := fun hNames => absurd hNames hOnly
      gas := fun hNames => absurd hNames hOnly }
  intro _ _ code _ record hRecord
  by_cases hCode : code = "A"
  · subst hCode
    cases hRecord
    exact hTells
  · have hRow : [("A", Json.obj fields)].lookup code = none := by
      rw [List.lookup_cons, beq_false_of_ne hCode]
      rfl
    have hNone :
        Enhancer.record? (ofAirflow (.obj fields)).tables
            "nominal_airflow" code =
          .ok none :=
      Enhancer.record?_eq_none rfl hRow
    rw [hNone] at hRecord
    cases hRecord

/- The record of a size has a number of cfm. -/
theorem decode_total_ofAirflow :
    ofJson (airflowDocument (.obj [("cfm", .int 400)])) =
        .ok (ofAirflow (.obj [("cfm", .int 400)])) ∧
      (ofAirflow (.obj [("cfm", .int 400)])).check = .ok [] ∧
      (ofAirflow
        (.obj [("cfm", .int 400)])).catalog.HasTextDescriptions ∧
      ∀ (options : Options) (dashes : List Char),
        options.dashes = .ok dashes →
          ∀ text, ∃ d,
            (ofAirflow (.obj [("cfm", .int 400)])).decode options
              text = .ok d := by
  have hRead :
      ofJson (airflowDocument (.obj [("cfm", .int 400)])) =
        .ok (ofAirflow (.obj [("cfm", .int 400)])) :=
    rfl
  have hCheck :
      (ofAirflow (.obj [("cfm", .int 400)])).check = .ok [] :=
    rfl
  have hText :
      (ofAirflow
        (.obj [("cfm", .int 400)])).catalog.HasTextDescriptions :=
    by decide +kernel
  have hTells :
      Enhancer.TellsAirflow (.obj [("cfm", .int 400)]) :=
    ⟨.int 400, rfl, .int 400, rfl, rfl⟩
  exact
    ⟨hRead, hCheck, hText,
      (decode_total_iff hRead hCheck hText).mpr
        (hasReadableTables_ofAirflow hTells)⟩

/-
  The check does not miss the airflow in the record of a size,
  but a decode of the size does.
-/
theorem check_and_decode_error_ofAirflow :
    ofJson (airflowDocument (.obj [])) =
        .ok (ofAirflow (.obj [])) ∧
      (ofAirflow (.obj [])).check = .ok [] ∧
      (ofAirflow (.obj [])).catalog.HasTextDescriptions ∧
      (ofAirflow (.obj [])).decode {} "A" =
        .error (.missingField "cfm") :=
  ⟨rfl, rfl, by decide +kernel, rfl⟩

end Configuration

end ModelNumber
