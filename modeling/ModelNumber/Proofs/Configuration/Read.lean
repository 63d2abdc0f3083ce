import ModelNumber.Configuration.Reader
import ModelNumber.Proofs.Enhancement.Tables

/-
  What a document has to hold for a configuration to be read
  from it, and what is known of a configuration that was read,
  whatever the document holds.

  Main declarations:
    * `Configuration.IsReadFrom`
    * `Configuration.ofJson_eq_ok_iff`
    * `Configuration.isTables_of_readTables`
    * `Configuration.isTables_of_ofJson`
-/

namespace ModelNumber

namespace Configuration

------------------------------------------------------------
-- Documents
------------------------------------------------------------

/-
  What a document has to hold for a configuration to be read
  from it. What is optional has its default in its absence.
-/
structure IsReadFrom
    (c : Configuration)
    (v : Json) : Prop where
  fields : ∃ fields, v = .obj fields
  key : v.field? "key" = some c.key
  title : (v.field? "title").getD c.key = c.title
  catalog :
    ∃ w items categories,
      v.field? "categories" = some w ∧
        w.elements = .ok items ∧
        items.mapM readCategory = .ok categories ∧
        enterCategories c.key ∅ categories = .ok c.catalog
  positions :
    ∃ w ranges,
      v.field? "positions" = some w ∧
        readRanges w = .ok ranges ∧
        .ofRanges ranges = c.positions
  grammar :
    ∃ w,
      v.field? "grammar" = some w ∧
        readGrammar w = .ok c.grammar
  referenceString :
    v.field? "reference_string" = some c.referenceString
  rules :
    ∃ items,
      ((v.field? "rules").getD (.arr [])).elements =
          .ok items ∧
        items.mapM Rule.ofJson = .ok c.rules
  navigation :
    ∃ items,
      ((v.field? "navigation").getD (.arr [])).elements =
          .ok items ∧
        items.mapM readNavigation = .ok c.navigation
  enhancers :
    ((v.field? "enhancers").getD (.arr [])).elements =
      .ok c.enhancers
  tables :
    readTables ((v.field? "enhancement_tables").getD (.obj [])) =
      .ok c.tables

/- A list that may be missing is read element by element. -/
theorem readList_eq_ok_iff
    {α : Type}
    {v : Json}
    {name : String}
    {read : Json → Except Defect α}
    {as : List α} :
    readList v name read = .ok as ↔
      (∃ fields, v = .obj fields) ∧
        ∃ items,
          ((v.field? name).getD (.arr [])).elements =
              .ok items ∧
            items.mapM read = .ok as := by
  simp only [readList, Outcome.bind_eq_ok_iff,
    Json.optionalField_eq_ok_iff]
  constructor
  · rintro ⟨_, ⟨hFields, rfl⟩, items, hItems, hRead⟩
    exact ⟨hFields, items, hItems, hRead⟩
  · rintro ⟨hFields, items, hItems, hRead⟩
    exact ⟨_, ⟨hFields, rfl⟩, items, hItems, hRead⟩

/- A document with all required fields is read field by field. -/
theorem readComplete_eq_ok_iff
    {v key : Json}
    {c : Configuration}
    (hKey : v.field? "key" = some key) :
    readComplete v key = .ok c ↔ key = c.key ∧ c.IsReadFrom v := by
  simp only [readComplete, Outcome.bind_eq_ok_iff,
    Outcome.mapError_eq_ok_iff, Outcome.pure_eq_ok_iff,
    Json.required_eq_ok_iff, Json.optionalField_eq_ok_iff,
    readList_eq_ok_iff]
  constructor
  · rintro ⟨categories, ⟨w, hw, items, hItems, hCategories⟩,
      catalog, hCatalog, ranges, ⟨positions, hPositions, hRanges⟩,
      grammar, ⟨parts, hParts, hGrammar⟩, rules,
      ⟨hFields, hRules⟩, navigation, ⟨_, hNavigation⟩, _,
      ⟨_, rfl⟩, tables, hTables, title, ⟨_, hTitle⟩, reference,
      hReference, _, ⟨_, rfl⟩, enhancers, hEnhancers, rfl⟩
    exact
      ⟨rfl, hFields, hKey, hTitle,
        ⟨w, items, categories, hw, hItems, hCategories, hCatalog⟩,
        ⟨positions, ranges, hPositions, hRanges, rfl⟩,
        ⟨parts, hParts, hGrammar⟩, hReference, hRules, hNavigation,
        hEnhancers, hTables⟩
  · rintro ⟨rfl, hFields, _, hTitle,
      ⟨w, items, categories, hw, hItems, hCategories, hCatalog⟩,
      ⟨positions, ranges, hPositions, hRanges, hMap⟩,
      ⟨parts, hParts, hGrammar⟩, hReference, hRules, hNavigation,
      hEnhancers, hTables⟩
    refine
      ⟨categories, ⟨w, hw, items, hItems, hCategories⟩, _,
        hCatalog, ranges, ⟨positions, hPositions, hRanges⟩, _,
        ⟨parts, hParts, hGrammar⟩, _, ⟨hFields, hRules⟩, _,
        ⟨hFields, hNavigation⟩, _, ⟨hFields, rfl⟩, _, hTables, _,
        ⟨hFields, hTitle⟩, _, hReference, _, ⟨hFields, rfl⟩, _,
        hEnhancers, ?_⟩
    rw [hMap]

/- No key is missing where all required fields are there. -/
theorem missingKeys_eq_ok_nil
    {fields : List (String × Json)}
    (hAll :
      ∀ name ∈ requiredKeys, (fields.lookup name).isSome = true) :
    missingKeys (.obj fields) = .ok [] := by
  have hMentioned :
      requiredKeys.mapM (Json.mentions (.obj fields)) =
        .ok (requiredKeys.map fun _ => true) := by
    rw [Outcome.mapM_eq_ok_iff, List.forall₂_map_right_iff,
      List.forall₂_same]
    intro name hName
    rw [Json.mentions, hAll name hName]
  rw [missingKeys, hMentioned]
  rfl

/- A configuration is read from the documents that hold it. -/
theorem ofJson_eq_ok_iff
    {v : Json}
    {c : Configuration} :
    ofJson v = .ok c ↔ c.IsReadFrom v := by
  unfold ofJson
  constructor
  · intro h
    rcases Outcome.bind_eq_ok_iff.mp h with ⟨missing, _, hRest⟩
    split at hRest
    · simp only [Outcome.bind_eq_ok_iff,
        Outcome.mapError_eq_ok_iff,
        Json.required_eq_ok_iff] at hRest
      rcases hRest with ⟨key, hKey, hComplete⟩
      exact ((readComplete_eq_ok_iff hKey).mp hComplete).2
    · rcases Outcome.bind_eq_ok_iff.mp hRest with ⟨_, _, hThrow⟩
      cases hThrow
  · intro hRead
    rcases hRead.fields with ⟨fields, rfl⟩
    rcases hRead.catalog with ⟨categories, _, _, hCategories, _⟩
    rcases hRead.positions with ⟨positions, _, hPositions, _⟩
    rcases hRead.grammar with ⟨grammar, hGrammar, _⟩
    have hAll :
        ∀ name ∈ requiredKeys,
          (fields.lookup name).isSome = true := by
      simp only [requiredKeys, List.forall_mem_cons,
        Option.isSome_iff_exists]
      exact
        ⟨⟨_, hRead.key⟩, ⟨_, hCategories⟩, ⟨_, hGrammar⟩,
          ⟨_, hPositions⟩, ⟨_, hRead.referenceString⟩, by simp⟩
    rw [missingKeys_eq_ok_nil hAll]
    simp only [Outcome.bind_eq_ok_iff, Outcome.mapError_eq_ok_iff]
    refine ⟨[], rfl, ?_⟩
    rw [if_pos List.isEmpty_nil]
    simp only [Outcome.bind_eq_ok_iff, Outcome.mapError_eq_ok_iff,
      Json.required_eq_ok_iff]
    exact
      ⟨c.key, hRead.key,
        (readComplete_eq_ok_iff hRead.key).mpr ⟨rfl, hRead⟩⟩

------------------------------------------------------------
-- Tables
------------------------------------------------------------

/- A record that has been read is an object. -/
theorem exists_of_readRecord
    {v record : Json}
    (h : readRecord v = .ok record) :
    ∃ fields, record = .obj fields := by
  rcases Outcome.bind_eq_ok_iff.mp h with ⟨entries, _, hRecord⟩
  rw [Outcome.pure_eq_ok_iff] at hRecord
  exact ⟨_, hRecord.symm⟩

/- A table that has been read is an object of objects. -/
theorem exists_of_readTable
    {v table : Json}
    (h : readTable v = .ok table) :
    ∃ rows,
      table = .obj rows ∧
        ∀ row ∈ rows, ∃ record, row.2 = .obj record := by
  simp only [readTable, Outcome.bind_eq_ok_iff,
    Outcome.pure_eq_ok_iff] at h
  rcases h with ⟨fields, _, rows, hRows, hTable⟩
  refine ⟨rows, hTable.symm, ?_⟩
  intro row hRow
  rcases Outcome.exists_of_mem_result hRows hRow with
    ⟨f, _, hStep⟩
  rcases Outcome.bind_eq_ok_iff.mp hStep with
    ⟨record, hRecord, hPair⟩
  cases hPair
  exact exists_of_readRecord hRecord

/- Tables that have been read are tables of records. -/
theorem isTables_of_readTables
    {v tables : Json}
    (h : readTables v = .ok tables) :
    tables.IsTables := by
  simp only [readTables, Outcome.bind_eq_ok_iff,
    Outcome.pure_eq_ok_iff] at h
  rcases h with ⟨fields, _, all, hAll, hTables⟩
  refine ⟨all, hTables.symm, ?_⟩
  intro f hf
  rcases Outcome.exists_of_mem_result hAll hf with
    ⟨g, _, hStep⟩
  rcases Outcome.bind_eq_ok_iff.mp hStep with
    ⟨table, hTable, hPair⟩
  cases hPair
  exact exists_of_readTable hTable

/- The tables of a configuration are tables of records. -/
theorem isTables_of_ofJson
    {v : Json}
    {c : Configuration}
    (h : ofJson v = .ok c) :
    c.tables.IsTables :=
  isTables_of_readTables (ofJson_eq_ok_iff.mp h).tables

end Configuration

end ModelNumber
