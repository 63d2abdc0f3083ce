import ModelNumber.Configuration.Writer
import ModelNumber.Proofs.Configuration.Read
import ModelNumber.Proofs.Rule.Record

/-
  A configuration is read back from the document that it is
  written to, field by field and in every order. Writing needs
  names for what becomes the name of a field, and codes that
  can be put in order.

  Main declarations:
    * `OrderedMap.HasTextKeys` and `PositionMap.IsNamed`
    * `Json.HasRecords`
    * `Configuration.IsWritable`
    * `Configuration.IsWritable.exists_toJson`
-/

namespace ModelNumber

------------------------------------------------------------
-- Texts as keys
------------------------------------------------------------

namespace OrderedMap

variable {α : Type}

/- The keys of a map are texts. -/
def HasTextKeys (m : OrderedMap Scalar α) : Prop :=
  ∀ e ∈ m.entries, ∃ s, e.1 = .str s

end OrderedMap

namespace Json

/- A map with texts as keys is read back from its fields. -/
theorem toMap_fields
    {m : OrderedMap Scalar Json}
    (hKeys : m.HasTextKeys) :
    toMap (.obj (m.entries.map fun e => (fieldName e.1, e.2))) =
      .ok m := by
  have hEntries :
      (m.entries.map fun e => (fieldName e.1, e.2)).map
          (fun f => (Scalar.str f.1, f.2)) =
        m.entries := by
    rw [List.map_map]
    refine (List.map_congr_left ?_).trans (List.map_id _)
    intro e he
    rcases hKeys e he with ⟨s, hs⟩
    exact Prod.ext (by simp [hs, fieldName]) rfl
  rw [toMap, hEntries, OrderedMap.ofList_entries]

end Json

------------------------------------------------------------
-- Categories
------------------------------------------------------------

namespace Catalog

/- Catalogs with the same categories are the same. -/
theorem eq_of_categories_eq :
    ∀ {catalog other : Catalog},
      catalog.categories = other.categories → catalog = other
| ⟨_, _⟩, ⟨_, _⟩, rfl => rfl

/- A category with a new id is added at the end. -/
theorem exists_add
    {catalog : Catalog}
    {c : Category}
    (hNew : catalog.contains c.id = false) :
    ∃ larger,
      catalog.add c = .ok larger ∧
        larger.categories = catalog.categories ++ [c] :=
  ⟨_, dif_pos hNew, rfl⟩

end Catalog

namespace Configuration

/- A category with texts as codes is read back. -/
theorem exists_readCategory
    {category : Category}
    (hKeys : category.codes.HasTextKeys) :
    ∃ read,
      readCategory category.toJson =
          .ok (.scalar category.id, read) ∧
        read category.id = category := by
  refine
    ⟨fun id =>
      { id
        name := category.name
        position := category.position
        group := category.group
        codes := category.codes }, ?_, rfl⟩
  simp only [readCategory, Outcome.bind_eq_ok_iff,
    Outcome.pure_eq_ok_iff]
  exact
    ⟨_, rfl, _, rfl, _, rfl, _, rfl, _, rfl, _,
      Json.toMap_fields hKeys, rfl⟩

/- Categories with different ids are entered as they are. -/
theorem exists_enterCategories
    (key : Json) :
    ∀ {cs : List Category} {catalog : Catalog},
      (∀ c ∈ cs, c.codes.HasTextKeys) →
        ((catalog.categories ++ cs).Pairwise fun a b =>
          (a.id == b.id) = false) →
          ∃ read larger,
            (cs.map Category.toJson).mapM readCategory =
                .ok read ∧
              enterCategories key catalog read = .ok larger ∧
              larger.categories = catalog.categories ++ cs
| [], catalog, _, _ => ⟨[], catalog, rfl, rfl, by simp⟩
| c :: cs, catalog, hKeys, hDistinct => by
    rw [List.forall_mem_cons] at hKeys
    have hNew : catalog.contains c.id = false := by
      rw [Catalog.contains, List.any_eq_false]
      intro a ha
      have hOther :=
        (List.pairwise_append.mp hDistinct).2.2 a ha c
          List.mem_cons_self
      simp [hOther]
    rcases Catalog.exists_add hNew with
      ⟨next, hAdd, hCategories⟩
    have hRest :
        (next.categories ++ cs).Pairwise fun a b =>
          (a.id == b.id) = false := by
      rw [hCategories, List.append_assoc]
      exact hDistinct
    rcases exists_readCategory hKeys.1 with ⟨read, hRead, hSame⟩
    rcases exists_enterCategories key hKeys.2 hRest with
      ⟨reads, larger, hReads, hEnter, hLarger⟩
    refine ⟨(.scalar c.id, read) :: reads, larger, ?_, ?_, ?_⟩
    · rw [Outcome.mapM_eq_ok_iff] at hReads ⊢
      exact .cons hRead hReads
    · simp only [enterCategories, Json.key, hSame, hAdd]
      exact hEnter
    · rw [hLarger, hCategories, List.append_assoc]
      rfl

end Configuration

------------------------------------------------------------
-- Positions
------------------------------------------------------------

/- Each range of a map is that of the text it stands under. -/
def PositionMap.IsNamed (m : PositionMap) : Prop :=
  ∀ e ∈ m.entries, ∃ s, e.1 = .str s ∧ e.2.category = .str s

namespace Configuration

/- A range is read back, whichever form it is written in. -/
theorem readRange_toJson
    {r : PositionRange}
    {name : String}
    (hName : r.category = .str name) :
    readRange name r.toJson = .ok r := by
  cases r with
  | mk category start stop sharedWith =>
      simp only at hName
      subst hName
      cases sharedWith <;> rfl

/- A map of named ranges is read back. -/
theorem readRanges_fields
    {m : PositionMap}
    (hNamed : m.IsNamed) :
    readRanges
        (.obj (m.entries.map fun e =>
          (Json.fieldName e.1, e.2.toJson))) =
      .ok m.values := by
  simp only [readRanges, Outcome.bind_eq_ok_iff]
  refine ⟨_, rfl, ?_⟩
  rw [Outcome.mapM_eq_ok_iff, OrderedMap.values,
    List.forall₂_map_left_iff, List.forall₂_map_right_iff,
    List.forall₂_same]
  intro e he
  rcases hNamed e he with ⟨name, hKey, hCategory⟩
  rw [hKey]
  exact readRange_toJson hCategory

/- A map of named ranges is the map of its ranges. -/
theorem ofRanges_values
    {m : PositionMap}
    (hNamed : m.IsNamed) :
    PositionMap.ofRanges m.values = m := by
  have hEntries :
      m.values.map (fun r => (r.category, r)) = m.entries := by
    rw [OrderedMap.values, List.map_map]
    refine (List.map_congr_left ?_).trans (List.map_id _)
    intro e he
    rcases hNamed e he with ⟨name, hKey, hCategory⟩
    exact Prod.ext (hCategory.trans hKey.symm) rfl
  rw [PositionMap.ofRanges, hEntries, OrderedMap.ofList_entries]

------------------------------------------------------------
-- Grammar and navigation
------------------------------------------------------------

/- A grammar is read back. -/
theorem readGrammar_toJson (g : Grammar) :
    readGrammar g.toJson = .ok g := by
  simp only [readGrammar, Outcome.bind_eq_ok_iff,
    Outcome.pure_eq_ok_iff]
  exact ⟨_, rfl, _, rfl, _, rfl, _, rfl, rfl⟩

/- A line of the reference list is read back. -/
theorem readNavigation_toJson (n : NavigationEntry) :
    readNavigation n.toJson = .ok n := by
  simp only [readNavigation, Outcome.bind_eq_ok_iff,
    Outcome.pure_eq_ok_iff]
  refine ⟨_, rfl, _, rfl, _, rfl, ?_⟩
  cases n with
  | mk category name indent => cases indent <;> rfl

end Configuration

------------------------------------------------------------
-- Tables
------------------------------------------------------------

namespace Json

/- A value is an object without repeated names. -/
def IsRecord (v : Json) : Prop :=
  ∃ fields,
    v = .obj fields ∧
      fields.Pairwise fun f g => (f.1 == g.1) = false

/- A value is an object of records. -/
def IsRecordTable (v : Json) : Prop :=
  ∃ rows, v = .obj rows ∧ ∀ row ∈ rows, row.2.IsRecord

/- A value is an object of tables of records. -/
def HasRecords (v : Json) : Prop :=
  ∃ tables,
    v = .obj tables ∧ ∀ table ∈ tables, table.2.IsRecordTable

/- A record is read back. -/
theorem IsRecord.readRecord_eq
    {v : Json}
    (hRecord : v.IsRecord) :
    Configuration.readRecord v = .ok v := by
  rcases hRecord with ⟨fields, rfl, hDistinct⟩
  have hEntries :
      (fields.map fun f => (Scalar.str f.1, f.2)).Pairwise
        fun d e => (d.1 == e.1) = false := by
    rw [List.pairwise_map]
    refine hDistinct.imp ?_
    intro f g hOther
    rw [Scalar.str_beq_str]
    exact hOther
  simp only [Configuration.readRecord, Outcome.bind_eq_ok_iff,
    Outcome.pure_eq_ok_iff]
  refine ⟨_, rfl, ?_⟩
  rw [OrderedMap.entries_ofList hEntries, List.map_map]
  exact congrArg Json.obj (List.map_id fields)

/- Fields whose values are read back are read back. -/
theorem mapM_fields_eq_ok
    {read : Json → Except Defect Json}
    {fields : List (String × Json)}
    (hFields : ∀ f ∈ fields, read f.2 = .ok f.2) :
    (fields.mapM fun f => do return (f.1, ← read f.2)) =
      (.ok fields : Except Defect _) := by
  rw [Outcome.mapM_eq_ok_iff, List.forall₂_same]
  intro f hf
  rw [hFields f hf]
  rfl

/- A table of records is read back. -/
theorem IsRecordTable.readTable_eq
    {v : Json}
    (hTable : v.IsRecordTable) :
    Configuration.readTable v = .ok v := by
  rcases hTable with ⟨rows, rfl, hRows⟩
  simp only [Configuration.readTable, Outcome.bind_eq_ok_iff,
    Outcome.pure_eq_ok_iff]
  refine ⟨rows, rfl, rows, mapM_fields_eq_ok ?_, rfl⟩
  intro row hRow
  exact (hRows row hRow).readRecord_eq

/- Tables of records are read back. -/
theorem HasRecords.readTables_eq
    {v : Json}
    (hRecords : v.HasRecords) :
    Configuration.readTables v = .ok v := by
  rcases hRecords with ⟨tables, rfl, hTables⟩
  simp only [Configuration.readTables, Outcome.bind_eq_ok_iff,
    Outcome.pure_eq_ok_iff]
  refine ⟨tables, rfl, tables, mapM_fields_eq_ok ?_, rfl⟩
  intro table hTable
  exact (hTables table hTable).readTable_eq

end Json

------------------------------------------------------------
-- Writing and reading back
------------------------------------------------------------

namespace Configuration

/-
  A configuration can be written: there are names for all
  fields, and the codes of rules can be put in order.
-/
structure IsWritable (c : Configuration) : Prop where
  codes :
    ∀ category ∈ c.catalog.categories,
      category.codes.HasTextKeys
  positions : c.positions.IsNamed
  rules : ∀ rule ∈ c.rules, rule.IsTextual
  tables : c.tables.HasRecords

/- What can be written is read back as it is. -/
theorem IsWritable.exists_toJson
    {c : Configuration}
    (hWritable : c.IsWritable) :
    ∃ w, c.toJson = .ok w ∧ ofJson w = .ok c := by
  have hRules :
      ∀ rule ∈ c.rules,
        ∃ w, rule.toJson = .ok w ∧ Rule.ofJson w = .ok rule := by
    intro rule hRule
    exact Rule.exists_toJson (hWritable.rules rule hRule)
  rcases Outcome.exists_mapM_mapM_eq_ok hRules with
    ⟨rules, hWritten, hRead⟩
  have hDistinct :
      ((∅ : Catalog).categories
          ++ c.catalog.categories).Pairwise fun a b =>
        (a.id == b.id) = false :=
    c.catalog.distinct
  rcases exists_enterCategories c.key hWritable.codes hDistinct
    with ⟨categories, catalog, hCategories, hEnter, hSame⟩
  have hCatalog : catalog = c.catalog :=
    Catalog.eq_of_categories_eq hSame
  rw [hCatalog] at hEnter
  refine ⟨_, by rw [toJson, hWritten]; rfl, ?_⟩
  rw [ofJson_eq_ok_iff]
  exact
    { fields := ⟨_, rfl⟩
      key := rfl
      title := rfl
      catalog :=
        ⟨_, _, categories, rfl, rfl, hCategories, hEnter⟩
      positions :=
        ⟨_, _, rfl, readRanges_fields hWritable.positions,
          ofRanges_values hWritable.positions⟩
      grammar := ⟨_, rfl, readGrammar_toJson c.grammar⟩
      referenceString := rfl
      rules := ⟨rules, rfl, hRead⟩
      navigation :=
        ⟨_, rfl,
          Outcome.mapM_map_eq_ok fun n _ =>
            readNavigation_toJson n⟩
      enhancers := rfl
      tables := hWritable.tables.readTables_eq }

end Configuration

end ModelNumber
