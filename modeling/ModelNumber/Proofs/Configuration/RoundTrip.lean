import ModelNumber.Json.Reader
import ModelNumber.Proofs.Configuration.Writable

/-
  A configuration that was read can be written and is read
  back from what was written, if its document keeps codes and
  records in objects and names only texts as codes of rules.
  The names of all other fields are texts in any document.

  Main declarations:
    * `OrderedMap.mem_of_mem_entries_ofList`
    * `Json.IsPlainDocument`
    * `Configuration.isWritable_of_isReadFrom`
    * `Configuration.reads_back_of_ofJson`
-/

namespace ModelNumber

------------------------------------------------------------
-- Names of fields
------------------------------------------------------------

namespace OrderedMap

variable {α : Type}

/- With texts as keys, entries are taken over or replaced. -/
theorem mem_of_mem_entries_ofList
    {es : List (Scalar × α)}
    (hTexts : ∀ e ∈ es, ∃ s, e.1 = .str s)
    {e : Scalar × α}
    (h : e ∈ (ofList es).entries) :
    e ∈ es := by
  rcases exists_of_mem_entries_ofList h with ⟨d, hd, hKey, hValue⟩
  rcases hTexts d hd with ⟨s, hs⟩
  rw [hs] at hKey
  have hSame : e.1 = d.1 := by
    rw [hs]
    exact Scalar.eq_str_of_beq (BEq.symm hKey)
  have hEntry : e = d := Prod.ext hSame hValue
  rw [hEntry]
  exact hd

end OrderedMap

namespace Json

/- A map from an object has texts as keys. -/
theorem hasTextKeys_of_toMap
    {fields : List (String × Json)}
    {m : OrderedMap Scalar Json}
    (h : toMap (.obj fields) = .ok m) :
    m.HasTextKeys := by
  rw [toMap, Except.ok.injEq] at h
  subst h
  have hTexts :
      ∀ e ∈ fields.map fun f => (Scalar.str f.1, f.2),
        ∃ s, e.1 = .str s := by
    intro e he
    rcases List.mem_map.mp he with ⟨f, _, rfl⟩
    exact ⟨f.1, rfl⟩
  intro e he
  exact hTexts e (OrderedMap.mem_of_mem_entries_ofList hTexts he)

/- What is read from an object is a record. -/
theorem isRecord_of_readRecord
    {fields : List (String × Json)}
    {record : Json}
    (h : Configuration.readRecord (.obj fields) = .ok record) :
    record.IsRecord := by
  simp only [Configuration.readRecord, Outcome.bind_eq_ok_iff,
    Outcome.pure_eq_ok_iff] at h
  rcases h with ⟨m, hMap, rfl⟩
  have hKeys := hasTextKeys_of_toMap hMap
  refine ⟨_, rfl, ?_⟩
  rw [List.pairwise_map]
  refine m.distinct.imp_of_mem ?_
  intro d e hd he hOther
  rcases hKeys d hd with ⟨s, hs⟩
  rcases hKeys e he with ⟨t, ht⟩
  rw [hs, ht, Scalar.str_beq_str] at hOther
  rw [hs, ht]
  exact hOther

end Json

namespace Configuration

/- A range is that of the name it is read under. -/
theorem category_of_readRange
    {name : String}
    {v : Json}
    {r : PositionRange}
    (h : readRange name v = .ok r) :
    r.category = .str name := by
  unfold readRange at h
  split at h
  all_goals
    simp only [Outcome.bind_eq_ok_iff,
      Outcome.pure_eq_ok_iff] at h
  · rcases h with ⟨_, _, _, _, _, _, _, _, _, _, _, _, rfl⟩
    rfl
  · rcases h with ⟨_, _, _, _, _, _, rfl⟩
    rfl

/- Ranges that have been read are named. -/
theorem isNamed_of_readRanges
    {v : Json}
    {ranges : List PositionRange}
    (h : readRanges v = .ok ranges) :
    (PositionMap.ofRanges ranges).IsNamed := by
  simp only [readRanges, Outcome.bind_eq_ok_iff] at h
  rcases h with ⟨fields, _, hRanges⟩
  have hTexts :
      ∀ e ∈ ranges.map fun r => (r.category, r),
        ∃ s, e.1 = .str s ∧ e.2.category = .str s := by
    intro e he
    rcases List.mem_map.mp he with ⟨r, hr, rfl⟩
    rcases Outcome.exists_of_mem_result hRanges hr with
      ⟨f, _, hRead⟩
    have hName := category_of_readRange hRead
    exact ⟨f.1, hName, hName⟩
  intro e he
  refine hTexts e (OrderedMap.mem_of_mem_entries_ofList ?_ he)
  intro d hd
  rcases hTexts d hd with ⟨s, hs, _⟩
  exact ⟨s, hs⟩

end Configuration

------------------------------------------------------------
-- Documents
------------------------------------------------------------

namespace Json

/- The values of the fields of an object. -/
def values : Json → List Json
| .obj fields => fields.map Prod.snd
| _ => []

/-
  A document that keeps the codes of categories and the
  records of tables in objects, and names only texts as codes
  of rules. All else may have any form that can be read.
-/
structure IsPlainDocument (v : Json) : Prop where
  codes :
    ∀ categories ∈ v.field? "categories",
      ∀ category ∈ categories.items,
        ∀ codes ∈ category.field? "codes", codes.IsObject
  rules :
    ∀ rules ∈ v.field? "rules",
      ∀ rule ∈ rules.items, rule.NamesTexts
  records :
    ∀ tables ∈ v.field? "enhancement_tables",
      ∀ table ∈ tables.values,
        ∀ record ∈ table.values, record.IsObject

instance (v : Json) : Decidable v.IsPlainDocument :=
  decidable_of_iff
    ((∀ categories ∈ v.field? "categories",
        ∀ category ∈ categories.items,
          ∀ codes ∈ category.field? "codes", codes.IsObject) ∧
      (∀ rules ∈ v.field? "rules",
        ∀ rule ∈ rules.items, rule.NamesTexts) ∧
      ∀ tables ∈ v.field? "enhancement_tables",
        ∀ table ∈ tables.values,
          ∀ record ∈ table.values, record.IsObject)
    ⟨fun h => ⟨h.1, h.2.1, h.2.2⟩,
      fun h => ⟨h.codes, h.rules, h.records⟩⟩

/- The value of a field is one of the values. -/
theorem mem_values_of_fields
    {v : Json}
    {fields : List (String × Json)}
    (hFields : v.fields = .ok fields)
    {f : String × Json}
    (hf : f ∈ fields) :
    f.2 ∈ v.values := by
  cases v with
  | scalar k => cases hFields
  | arr items => cases hFields
  | obj all =>
      cases hFields
      exact List.mem_map_of_mem hf

/- What is read field by field is what can be read. -/
theorem forall_mem_of_mapM_fields
    {read : Json → Except Defect Json}
    {P : Json → Prop}
    {fields written : List (String × Json)}
    (hWritten :
      (fields.mapM fun f => do return (f.1, ← read f.2)) =
        (.ok written : Except Defect _))
    (hFields : ∀ f ∈ fields, ∀ w, read f.2 = .ok w → P w) :
    ∀ f ∈ written, P f.2 := by
  intro f hf
  rcases Outcome.exists_of_mem_result hWritten hf with
    ⟨g, hg, hStep⟩
  rcases Outcome.bind_eq_ok_iff.mp hStep with ⟨w, hw, hPair⟩
  cases hPair
  exact hFields g hg w hw

/- A table that is read from objects has records. -/
theorem isRecordTable_of_readTable
    {v table : Json}
    (hObjects : ∀ record ∈ v.values, record.IsObject)
    (h : Configuration.readTable v = .ok table) :
    table.IsRecordTable := by
  simp only [Configuration.readTable, Outcome.bind_eq_ok_iff,
    Outcome.pure_eq_ok_iff] at h
  rcases h with ⟨fields, hFields, rows, hRows, rfl⟩
  refine ⟨rows, rfl, forall_mem_of_mapM_fields hRows ?_⟩
  intro f hf record hRecord
  rcases hObjects f.2 (mem_values_of_fields hFields hf) with
    ⟨_, hObject⟩
  rw [hObject] at hRecord
  exact isRecord_of_readRecord hRecord

/- Tables that are read from objects have records. -/
theorem hasRecords_of_readTables
    {v tables : Json}
    (hObjects :
      ∀ table ∈ v.values,
        ∀ record ∈ table.values, record.IsObject)
    (h : Configuration.readTables v = .ok tables) :
    tables.HasRecords := by
  simp only [Configuration.readTables, Outcome.bind_eq_ok_iff,
    Outcome.pure_eq_ok_iff] at h
  rcases h with ⟨fields, hFields, all, hAll, rfl⟩
  refine ⟨all, rfl, forall_mem_of_mapM_fields hAll ?_⟩
  intro f hf table hTable
  exact
    isRecordTable_of_readTable
      (hObjects f.2 (mem_values_of_fields hFields hf)) hTable

end Json

namespace Configuration

/- A category with codes in an object has texts as codes. -/
theorem hasTextKeys_of_readCategory
    {v : Json}
    {read : Json × (Scalar → Category)}
    (hObject : ∀ codes ∈ v.field? "codes", codes.IsObject)
    (h : readCategory v = .ok read)
    (id : Scalar) :
    (read.2 id).codes.HasTextKeys := by
  simp only [readCategory, Outcome.bind_eq_ok_iff,
    Outcome.pure_eq_ok_iff, Json.optionalField_eq_ok_iff] at h
  rcases h with ⟨_, _, _, _, _, _, _, _, _, ⟨_, rfl⟩, codes,
    hCodes, rfl⟩
  cases hField : v.field? "codes" with
  | none =>
      rw [hField] at hCodes
      exact Json.hasTextKeys_of_toMap hCodes
  | some w =>
      rcases hObject w hField with ⟨fields, rfl⟩
      rw [hField] at hCodes
      exact Json.hasTextKeys_of_toMap hCodes

/- What holds of all categories holds of those of a catalog. -/
theorem forall_mem_of_enterCategories
    {key : Json}
    {P : Category → Prop} :
    ∀ {reads : List (Json × (Scalar → Category))}
      {catalog larger : Catalog},
      (∀ c ∈ catalog.categories, P c) →
        (∀ read ∈ reads, ∀ id, P (read.2 id)) →
          enterCategories key catalog reads = .ok larger →
            ∀ c ∈ larger.categories, P c
| [], catalog, larger, hOld, _, h => by
    cases h
    exact hOld
| (id, category) :: reads, catalog, larger, hOld, hNew, h => by
    rw [List.forall_mem_cons] at hNew
    unfold enterCategories at h
    split at h
    · cases h
    · rename_i key _
      split at h
      · cases h
      · rename_i next hAdd
        refine forall_mem_of_enterCategories ?_ hNew.2 h
        unfold Catalog.add at hAdd
        split at hAdd
        · cases hAdd
          intro c hc
          rcases List.mem_append.mp hc with hc | hc
          · exact hOld c hc
          · rw [List.mem_singleton.mp hc]
            exact hNew.1 key
        · cases hAdd

/- A configuration from a plain document can be written. -/
theorem isWritable_of_isReadFrom
    {v : Json}
    {c : Configuration}
    (hDocument : v.IsPlainDocument)
    (hRead : c.IsReadFrom v) :
    c.IsWritable where
  codes := by
    rcases hRead.catalog with
      ⟨w, items, reads, hw, hItems, hReads, hEnter⟩
    have hCodes := hDocument.codes w hw
    rw [Json.items_eq hItems] at hCodes
    refine forall_mem_of_enterCategories ?_ ?_ hEnter
    · intro c hc
      cases hc
    · intro read hMem id
      rcases Outcome.exists_of_mem_result hReads hMem with
        ⟨item, hItem, hOne⟩
      exact
        hasTextKeys_of_readCategory (hCodes item hItem) hOne id
  positions := by
    rcases hRead.positions with ⟨w, ranges, _, hRanges, hMap⟩
    rw [← hMap]
    exact isNamed_of_readRanges hRanges
  rules := by
    rcases hRead.rules with ⟨items, hItems, hRules⟩
    intro rule hRule
    rcases Outcome.exists_of_mem_result hRules hRule with
      ⟨item, hItem, hOne⟩
    refine Rule.isTextual_of_ofJson ?_ hOne
    cases hField : v.field? "rules" with
    | none =>
        rw [hField] at hItems
        cases hItems
        cases hItem
    | some w =>
        rw [hField] at hItems
        rw [← Json.items_eq hItems] at hItem
        exact hDocument.rules w hField item hItem
  tables := by
    refine Json.hasRecords_of_readTables ?_ hRead.tables
    cases hField : v.field? "enhancement_tables" with
    | none =>
        intro table hTable
        cases hTable
    | some w => exact hDocument.records w hField

/-
  A configuration that was read from a plain document is
  written to a tree that is read as the same configuration,
  which is therefore written and checked as before. If the
  parser reads the printed tree as that tree, the same is true
  of the text of the configuration.
-/
theorem reads_back_of_ofJson
    {v : Json}
    (hDocument : v.IsPlainDocument)
    {c : Configuration}
    (hRead : ofJson v = .ok c) :
    ∃ w,
      c.toJson = .ok w ∧
        ofJson w = .ok c ∧
        (Json.parse (Json.print .indentedAscii w) = .ok w →
          ∃ text,
            c.toText = .ok text ∧ ofText text = .ok c) := by
  rw [ofJson_eq_ok_iff] at hRead
  rcases (isWritable_of_isReadFrom hDocument hRead).exists_toJson
    with ⟨w, hWritten, hAgain⟩
  refine ⟨w, hWritten, hAgain, ?_⟩
  intro hParse
  refine ⟨_, by rw [toText, hWritten]; rfl, ?_⟩
  rw [ofText, hParse]
  exact hAgain

/- A document that is not in the form that is written. -/
def mixedDocument : Json :=
  .obj
    [("key", "mixed"),
      ("categories",
        .arr
          [.obj
              [("id", "SIZE"), ("name", "Size"),
                ("codes",
                  .obj [("A", "Small"), ("B", "Large")])],
            .obj
              [("id", "HEAT"), ("name", "Heat"),
                ("position", "B1")]]),
      ("grammar",
        .obj
          [("model_part", .arr ["SIZE"]),
            ("feature_part", .arr ["HEAT"])]),
      ("positions",
        .obj
          [("SIZE", "01"),
            ("HEAT",
              .obj
                [("start", " 2"), ("end", .int 3),
                  ("shared_with", "XY")])]),
      ("reference_string", "A:0"),
      ("rules",
        .arr
          [.obj
            [("condition",
                .obj [("category", "SIZE"), ("codes", "BA")]),
              ("affects", "HEAT"), ("info", .int 1),
              ("message", "Heat")]]),
      ("enhancement_tables",
        .obj
          [("airflow", .obj [("A", .obj [("cfm", .int 80)])])])]

/- The tree that the document is written to. -/
def mixedTree : Json :=
  .obj
    [("key", "mixed"), ("title", "mixed"),
      ("reference_string", "A:0"),
      ("grammar",
        .obj
          [("model_part", .arr ["SIZE"]),
            ("feature_part", .arr ["HEAT"])]),
      ("categories",
        .arr
          [.obj
              [("id", "SIZE"), ("name", "Size"),
                ("position", "SIZE"), ("group", ""),
                ("codes",
                  .obj [("A", "Small"), ("B", "Large")])],
            .obj
              [("id", "HEAT"), ("name", "Heat"),
                ("position", "B1"), ("group", ""),
                ("codes", .obj [])]]),
      ("navigation", .arr []),
      ("positions",
        .obj
          [("SIZE", .arr [.int 0, .int 1]),
            ("HEAT",
              .obj
                [("start", .int 2), ("end", .int 3),
                  ("shared_with", .arr ["X", "Y"])])]),
      ("rules",
        .arr
          [.obj
            [("condition",
                .obj
                  [("category", "SIZE"),
                    ("codes", .arr ["A", "B"])]),
              ("affects", "HEAT"), ("valid_codes", .arr []),
              ("message", "Heat"), ("hint", ""),
              ("info", .bool true)]]),
      ("enhancers", .arr []),
      ("enhancement_tables",
        .obj
          [("airflow", .obj [("A", .obj [("cfm", .int 80)])])])]

/- A document with no more than the fields that are written. -/
def bareDocument : Json :=
  .obj
    [("key", "bare"), ("title", "bare"),
      ("reference_string", ""),
      ("grammar",
        .obj [("model_part", .arr []), ("feature_part", .arr [])]),
      ("categories", .arr []), ("navigation", .arr []),
      ("positions", .obj []), ("rules", .arr []),
      ("enhancers", .arr []), ("enhancement_tables", .obj [])]

/-
  A document in another form is read back from its tree, and
  one in the form that is written also from its text.
-/
theorem reads_back_mixed_and_bare :
    mixedDocument.IsPlainDocument ∧
      (∃ c,
        ofJson mixedDocument = .ok c ∧
          c.toJson = .ok mixedTree ∧
          ofJson mixedTree = .ok c) ∧
      bareDocument.IsPlainDocument ∧
      Json.parse (Json.print .indentedAscii bareDocument) =
        .ok bareDocument ∧
      ∃ c text,
        ofJson bareDocument = .ok c ∧
          c.toText = .ok text ∧
          ofText text = .ok c := by
  have hMixed : mixedDocument.IsPlainDocument := by
    decide +kernel
  have hBare : bareDocument.IsPlainDocument := by
    decide +kernel
  have hMixedTree :
      ((ofJson mixedDocument).toOption.bind
          (·.toJson.toOption)) =
        some mixedTree := by
    decide +kernel
  have hBareTree :
      ((ofJson bareDocument).toOption.bind
          (·.toJson.toOption)) =
        some bareDocument := by
    decide +kernel
  have hParse :
      (Json.parse
          (Json.print .indentedAscii bareDocument)).toOption =
        some bareDocument := by
    decide +kernel
  simp only [Option.bind_eq_some_iff,
    Outcome.toOption_eq_some_iff] at hMixedTree hBareTree hParse
  rcases hMixedTree with ⟨c, hRead, hTree⟩
  rcases reads_back_of_ofJson hMixed hRead with
    ⟨w, hWritten, hAgain, _⟩
  rw [hTree, Except.ok.injEq] at hWritten
  rw [← hWritten] at hAgain
  rcases hBareTree with ⟨d, hReadBare, hTreeBare⟩
  rcases reads_back_of_ofJson hBare hReadBare with
    ⟨w, hWritten, _, hText⟩
  rw [hTreeBare, Except.ok.injEq] at hWritten
  rw [← hWritten] at hText
  rcases hText hParse with ⟨text, hOfText, hReadText⟩
  exact
    ⟨hMixed, ⟨c, hRead, hTree, hAgain⟩, hBare, hParse, d, text,
      hReadBare, hOfText, hReadText⟩

end Configuration

end ModelNumber
