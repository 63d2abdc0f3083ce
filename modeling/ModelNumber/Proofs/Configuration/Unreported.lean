import Mathlib.Tactic.MkIffOfInductiveProp
import ModelNumber.Proofs.Configuration.Escape

/-
  Which documents are read or reported, and which end their
  reading with another failure. A report has problems and the
  key of its document. There is none where a defect of an
  entry is not reported, and none for the tables and the list
  of enhancers, whatever is wrong with them.

  Main declarations:
    * `Configuration.BreaksTables` and
      `Configuration.readTables_eq_error_iff`
    * `Configuration.IsReport` and
      `Configuration.isReport_enterCategories`
    * `Configuration.ReadsCatalog` and
      `Configuration.Unreported`
    * `Configuration.Stage` and `Configuration.Stage.EndsAt`
    * `Configuration.Stage.EndsAt.unreported` and
      `Configuration.Unreported.exists_endsAt`
    * `Configuration.readComplete_eq_defect_iff`
    * `Configuration.ofJson_eq_defect_iff`
    * `Configuration.IsReadOrReported`
    * `Configuration.isReadOrReported_iff_not_unreported`
-/

namespace ModelNumber

namespace Configuration

open Outcome

variable {v : Json} {d : Defect}

------------------------------------------------------------
-- Tables
------------------------------------------------------------

/- Read all fields of an object in the same way. -/
def readFields
    (read : Json → Except Defect Json)
    (v : Json) : Except Defect Json := do
  let read ← (← v.fields).mapM fun f => do
    return (f.1, ← read f.2)
  return .obj read

/- A field is read when its value is. -/
theorem exists_readField_iff
    {read : Json → Except Defect Json}
    {f : String × Json} :
    (∃ b, (do return (f.1, ← read f.2) : Except Defect _) =
        .ok b) ↔
      ∃ w, read f.2 = .ok w := by
  simp only [bind_eq_ok_iff, pure_eq_ok_iff]
  constructor
  · rintro ⟨_, w, hw, _⟩
    exact ⟨w, hw⟩
  · rintro ⟨w, hw⟩
    exact ⟨_, w, hw, rfl⟩

/- An object fails with its first field that is unreadable. -/
theorem readFields_eq_error_iff
    {read : Json → Except Defect Json} :
    readFields read v = .error d ↔
      ¬ v.IsObject ∧ d = .unsupported ∨
        ∃ before f after,
          v = .obj (before ++ f :: after) ∧
            (∀ g ∈ before, ∃ w, read g.2 = .ok w) ∧
              read f.2 = .error d := by
  simp only [readFields, bind_eq_error_iff,
    Json.fields_eq_error_iff, mapM_eq_error_iff, pure_ne_error,
    exists_readField_iff, and_false, exists_false, or_false]
  constructor
  · rintro (hOther | ⟨fields, hFields, before, f, after, rfl,
      hFirst⟩)
    · exact .inl hOther
    · cases v <;> cases hFields
      exact .inr ⟨before, f, after, rfl, hFirst⟩
  · rintro (hOther | ⟨before, f, after, rfl, hFirst⟩)
    · exact .inl hOther
    · exact .inr ⟨_, rfl, before, f, after, rfl, hFirst⟩

/- What keeps tables from being read. -/
inductive BreaksTables : Json → Defect → Prop where
/- The tables are no object. -/
| tables {v : Json}
    (hOther : ¬ v.IsObject) :
    BreaksTables v .unsupported
/- The first unreadable table is no object. -/
| table {before after : List (String × Json)}
    {f : String × Json}
    (hBefore : ∀ g ∈ before, ∃ w, readTable g.2 = .ok w)
    (hOther : ¬ f.2.IsObject) :
    BreaksTables (.obj (before ++ f :: after)) .unsupported
/- The first unreadable record of that table is no map. -/
| record {before after rows rest : List (String × Json)}
    {f row : String × Json} {d : Defect}
    (hBefore : ∀ g ∈ before, ∃ w, readTable g.2 = .ok w)
    (hTable : f.2 = .obj (rows ++ row :: rest))
    (hRows : ∀ g ∈ rows, ∃ w, readRecord g.2 = .ok w)
    (hRecord : row.2.toMap = .error d) :
    BreaksTables (.obj (before ++ f :: after)) d

/- A record is unreadable when it is no map. -/
theorem readRecord_eq_error_iff :
    readRecord v = .error d ↔ v.toMap = .error d := by
  simp [readRecord, bind_eq_error_iff, pure, Except.pure]

/- Tables are unreadable for one of these reasons. -/
theorem readTables_eq_error_iff :
    readTables v = .error d ↔ BreaksTables v d := by
  have hTables : readTables v = readFields readTable v := rfl
  have hTable :
      ∀ w, readTable w = readFields readRecord w := fun _ => rfl
  rw [hTables, readFields_eq_error_iff]
  constructor
  · rintro (⟨hOther, rfl⟩ | ⟨before, f, after, rfl, hBefore,
      hFirst⟩)
    · exact .tables hOther
    · rw [hTable, readFields_eq_error_iff] at hFirst
      rcases hFirst with ⟨hOther, rfl⟩ |
        ⟨rows, row, rest, hRows, hReadable, hRecord⟩
      · exact .table hBefore hOther
      · exact
          .record hBefore hRows hReadable
            (readRecord_eq_error_iff.mp hRecord)
  · intro hBreaks
    cases hBreaks with
    | tables hOther => exact .inl ⟨hOther, rfl⟩
    | table hBefore hOther =>
        refine .inr ⟨_, _, _, rfl, hBefore, ?_⟩
        rw [hTable, readFields_eq_error_iff]
        exact .inl ⟨hOther, rfl⟩
    | record hBefore hRows hReadable hRecord =>
        refine .inr ⟨_, _, _, rfl, hBefore, ?_⟩
        rw [hTable, readFields_eq_error_iff]
        exact
          .inr ⟨_, _, _, hRows, hReadable,
            readRecord_eq_error_iff.mpr hRecord⟩

------------------------------------------------------------
-- Reports
------------------------------------------------------------

/- A fault reports problems of the document with a key. -/
def IsReport
    (key : Json)
    (fault : Fault) : Prop :=
  ∃ problems,
    problems ≠ [] ∧ fault = .invalid problems key

/- A defect is no report. -/
theorem not_isReport_defect
    {key : Json} :
    ¬ IsReport key (.defect d) := by
  rintro ⟨_, _, hFault⟩
  cases hFault

/- A fault reports problems, or it is a defect. -/
def IsReportOrDefect
    (key : Json)
    (fault : Fault) : Prop :=
  IsReport key fault ∨ ∃ d, fault = .defect d

/- A defect of an entry is reported, or it stays a defect. -/
theorem isReportOrDefect_ofEntry
    (key : Json)
    (d : Defect) :
    IsReportOrDefect key (.ofEntry key d) := by
  rw [Fault.ofEntry]
  split
  · exact .inl ⟨_, by simp, rfl⟩
  · exact .inr ⟨d, rfl⟩

/- A category that cannot be entered is reported. -/
theorem isReport_enterCategories
    {key : Json}
    {categories : List (Json × (Scalar → Category))}
    {fault : Fault} :
    ∀ {catalog : Catalog},
      enterCategories key catalog categories = .error fault →
        IsReport key fault := by
  induction categories with
  | nil =>
      intro catalog h
      cases h
  | cons category rest ih =>
      intro catalog h
      rw [enterCategories] at h
      split at h
      · rename_i d hKey
        cases h
        rcases isReportOrDefect_ofEntry key d with
          hReport | ⟨e, hDefect⟩
        · exact hReport
        · have hEscapes :=
            mapError_ofEntry_eq_defect_iff.mp
              (mapError_eq_error_iff.mpr ⟨d, hKey, hDefect⟩)
          exact absurd hEscapes Json.not_escapes_key
      · split at h
        · cases h
          exact ⟨_, by simp, rfl⟩
        · exact ih h

/- No category ends the reading without a report. -/
theorem enterCategories_ne_defect
    {key : Json}
    {categories : List (Json × (Scalar → Category))}
    {catalog : Catalog} :
    enterCategories key catalog categories ≠
      .error (.defect d) := by
  intro h
  exact not_isReport_defect (isReport_enterCategories h)

------------------------------------------------------------
-- Documents
------------------------------------------------------------

/- All required fields are there, and the categories are read. -/
structure ReadsCatalog (v : Json) : Prop where
  complete :
    ∀ name ∈ requiredKeys, ∃ w, v.field? name = some w
  catalog :
    ∃ key w items categories catalog,
      v.field? "key" = some key ∧
        v.field? "categories" = some w ∧
          w.elements = .ok items ∧
            items.mapM readCategory = .ok categories ∧
              enterCategories key ∅ categories = .ok catalog

/- The catalog is read under the key of the document. -/
theorem readsCatalog_iff
    (hComplete :
      ∀ name ∈ requiredKeys, ∃ w, v.field? name = some w)
    {key : Json}
    (hKey : v.field? "key" = some key) :
    ReadsCatalog v ↔
      ∃ categories,
        (∃ w,
          v.field? "categories" = some w ∧
            ∃ items,
              w.elements = .ok items ∧
                items.mapM readCategory = .ok categories) ∧
          ∃ catalog,
            enterCategories key ∅ categories = .ok catalog := by
  constructor
  · intro hReads
    rcases hReads.catalog with
      ⟨other, w, items, categories, catalog, hOther, hw, hItems,
        hCategories, hCatalog⟩
    rw [hKey] at hOther
    cases hOther
    exact
      ⟨categories, ⟨w, hw, items, hItems, hCategories⟩, catalog,
        hCatalog⟩
  · rintro ⟨categories, ⟨w, hw, items, hItems, hCategories⟩,
      catalog, hCatalog⟩
    exact
      ⟨hComplete, key, w, items, categories, catalog, hKey, hw,
        hItems, hCategories, hCatalog⟩

/- The position map is read as well. -/
@[mk_iff]
structure ReadsRanges (v : Json) : Prop
    extends ReadsCatalog v where
  ranges :
    ∃ ranges w,
      v.field? "positions" = some w ∧
        readRanges w = .ok ranges

/- The grammar is read as well. -/
@[mk_iff]
structure ReadsGrammar (v : Json) : Prop
    extends ReadsRanges v where
  grammar :
    ∃ grammar w,
      v.field? "grammar" = some w ∧
        readGrammar w = .ok grammar

/- The rules are read as well. -/
@[mk_iff]
structure ReadsRules (v : Json) : Prop
    extends ReadsGrammar v where
  rules : ∃ rules, readList v "rules" Rule.ofJson = .ok rules

/- The reference list is read as well. -/
@[mk_iff]
structure ReadsNavigation (v : Json) : Prop
    extends ReadsRules v where
  navigation :
    ∃ entries,
      readList v "navigation" readNavigation = .ok entries

/- The tables are read as well. -/
@[mk_iff]
structure ReadsTables (v : Json) : Prop
    extends ReadsNavigation v where
  tables :
    ∃ tables,
      readTables
          ((v.field? "enhancement_tables").getD (.obj [])) =
        .ok tables

/-
  What is wrong with a document and not reported. A document
  is read in the order of these cases, so all that comes
  before the defect can be read.
-/
inductive Unreported (v : Json) : Defect → Prop where
/- The position map is no object. -/
| positions {w : Json}
    (hReads : ReadsCatalog v)
    (hField : v.field? "positions" = some w)
    (hOther : ¬ w.IsObject) :
    Unreported v .unsupported
/- The first unreadable range has an infinite bound. -/
| bound {before after : List (String × Json)}
    {f : String × Json}
    (hReads : ReadsCatalog v)
    (hField :
      v.field? "positions" = some (.obj (before ++ f :: after)))
    (hBefore : ∀ g ∈ before, ∃ r, readRange g.1 g.2 = .ok r)
    (hInfinite : f.2.HasInfiniteBound) :
    Unreported v .unbounded
/- The grammar is no object. -/
| grammar {w : Json}
    (hReads : ReadsRanges v)
    (hField : v.field? "grammar" = some w)
    (hOther : ¬ w.IsObject) :
    Unreported v .unsupported
/- The first unreadable rule is no object. -/
| rule {w : Json} {before after : List Json}
    (hReads : ReadsGrammar v)
    (hField :
      ((v.field? "rules").getD (.arr [])).elements =
        .ok (before ++ w :: after))
    (hBefore : ∀ u ∈ before, ∃ r, Rule.ofJson u = .ok r)
    (hOther : ¬ w.IsObject) :
    Unreported v .unsupported
/- The first unreadable line of the reference list is none. -/
| navigation {w : Json} {before after : List Json}
    (hReads : ReadsRules v)
    (hField :
      ((v.field? "navigation").getD (.arr [])).elements =
        .ok (before ++ w :: after))
    (hBefore : ∀ u ∈ before, ∃ e, readNavigation u = .ok e)
    (hOther : ¬ w.IsObject) :
    Unreported v .unsupported
/- The tables are unreadable, for whatever reason. -/
| tables {d : Defect}
    (hReads : ReadsNavigation v)
    (hBreaks :
      BreaksTables
        ((v.field? "enhancement_tables").getD (.obj [])) d) :
    Unreported v d
/- The enhancers are no sequence. -/
| enhancers
    (hReads : ReadsTables v)
    (hOther :
      ¬ ∃ items,
        ((v.field? "enhancers").getD (.arr [])).elements =
          .ok items) :
    Unreported v .mistyped

/- Before such a defect the catalog has been read. -/
theorem Unreported.readsCatalog
    (hUnreported : Unreported v d) :
    ReadsCatalog v := by
  cases hUnreported with
  | positions hReads => exact hReads
  | bound hReads => exact hReads
  | grammar hReads => exact hReads.toReadsCatalog
  | rule hReads => exact hReads.toReadsCatalog
  | navigation hReads => exact hReads.toReadsCatalog
  | tables hReads => exact hReads.toReadsCatalog
  | enhancers hReads => exact hReads.toReadsCatalog

------------------------------------------------------------
-- Stages
------------------------------------------------------------

/- What is read of a document after its catalog, in order. -/
inductive Stage where
| positions
| grammar
| rules
| navigation
| tables
| enhancers

namespace Stage

/- All that comes before a stage has been read. -/
def Reached (v : Json) : Stage → Prop
| .positions => ReadsCatalog v
| .grammar => ReadsRanges v
| .rules => ReadsGrammar v
| .navigation => ReadsRules v
| .tables => ReadsNavigation v
| .enhancers => ReadsTables v

/- A stage fails with a defect that is not reported. -/
def Fails
    (v : Json)
    (d : Defect) : Stage → Prop
| .positions =>
    Escapes (do readRanges (← v.required "positions")) d
| .grammar =>
    Escapes (do readGrammar (← v.required "grammar")) d
| .rules => Escapes (readList v "rules" Rule.ofJson) d
| .navigation =>
    Escapes (readList v "navigation" readNavigation) d
| .tables =>
    readTables ((v.field? "enhancement_tables").getD (.obj [])) =
      .error d
| .enhancers =>
    ((v.field? "enhancers").getD (.arr [])).elements = .error d

/- The reading of a document ends at a stage. -/
def EndsAt
    (v : Json)
    (d : Defect)
    (stage : Stage) : Prop :=
  stage.Reached v ∧ stage.Fails v d

/- What holds of some stage holds of one of these six. -/
theorem exists_iff
    {p : Stage → Prop} :
    (∃ stage, p stage) ↔
      p .positions ∨ p .grammar ∨ p .rules ∨ p .navigation ∨
        p .tables ∨ p .enhancers := by
  constructor
  · rintro ⟨stage, h⟩
    cases stage <;> simp [h]
  · rintro (h | h | h | h | h | h) <;> exact ⟨_, h⟩

variable {fields : List (String × Json)}

/-
  The position map fails when it is no object, or when its
  first unreadable range has an infinite bound.
-/
theorem fails_positions_iff :
    Fails v d .positions ↔
      ∃ w,
        v.field? "positions" = some w ∧
          (¬ w.IsObject ∧ d = .unsupported ∨
            ∃ before f after,
              w = .obj (before ++ f :: after) ∧
                (∀ g ∈ before,
                  ∃ r, readRange g.1 g.2 = .ok r) ∧
                f.2.HasInfiniteBound ∧ d = .unbounded) := by
  simp only [Fails, escapes_bind_iff, Json.not_escapes_required,
    Json.required_eq_ok_iff, escapes_readRanges_iff, false_or]

/- The grammar fails when it is no object. -/
theorem fails_grammar_iff :
    Fails v d .grammar ↔
      ∃ w,
        v.field? "grammar" = some w ∧
          ¬ w.IsObject ∧ d = .unsupported := by
  simp only [Fails, escapes_bind_iff, Json.not_escapes_required,
    Json.required_eq_ok_iff, needsObject_readGrammar.escapes_iff,
    false_or]

/- The rules fail when the first unreadable one is no object. -/
theorem fails_rules_iff :
    Fails (.obj fields) d .rules ↔
      ∃ before w after,
        (((Json.obj fields).field? "rules").getD
            (.arr [])).elements = .ok (before ++ w :: after) ∧
          (∀ u ∈ before, ∃ r, Rule.ofJson u = .ok r) ∧
            ¬ w.IsObject ∧ d = .unsupported :=
  escapes_readList_iff needsObject_ofJson

/-
  The reference list fails when the first unreadable line is
  no object.
-/
theorem fails_navigation_iff :
    Fails (.obj fields) d .navigation ↔
      ∃ before w after,
        (((Json.obj fields).field? "navigation").getD
            (.arr [])).elements = .ok (before ++ w :: after) ∧
          (∀ u ∈ before, ∃ e, readNavigation u = .ok e) ∧
            ¬ w.IsObject ∧ d = .unsupported :=
  escapes_readList_iff needsObject_readNavigation

/- The tables fail for the reasons that keep them unread. -/
theorem fails_tables_iff :
    Fails v d .tables ↔
      BreaksTables
        ((v.field? "enhancement_tables").getD (.obj [])) d :=
  readTables_eq_error_iff

/- The enhancers fail when they are no sequence. -/
theorem fails_enhancers_iff :
    Fails v d .enhancers ↔
      (¬ ∃ items,
          ((v.field? "enhancers").getD (.arr [])).elements =
            .ok items) ∧
        d = .mistyped :=
  Json.elements_eq_error_iff

/- A stage at which the reading ends is one of the cases. -/
theorem EndsAt.unreported
    {stage : Stage}
    (hEnds : stage.EndsAt (.obj fields) d) :
    Unreported (.obj fields) d := by
  rcases hEnds with ⟨hReached, hFails⟩
  cases stage with
  | positions =>
      rcases fails_positions_iff.mp hFails with
        ⟨w, hField, ⟨hOther, rfl⟩ |
          ⟨_, _, _, rfl, hBefore, hInfinite, rfl⟩⟩
      · exact .positions hReached hField hOther
      · exact .bound hReached hField hBefore hInfinite
  | grammar =>
      rcases fails_grammar_iff.mp hFails with
        ⟨w, hField, hOther, rfl⟩
      exact .grammar hReached hField hOther
  | rules =>
      rcases fails_rules_iff.mp hFails with
        ⟨_, _, _, hItems, hBefore, hOther, rfl⟩
      exact .rule hReached hItems hBefore hOther
  | navigation =>
      rcases fails_navigation_iff.mp hFails with
        ⟨_, _, _, hItems, hBefore, hOther, rfl⟩
      exact .navigation hReached hItems hBefore hOther
  | tables =>
      exact .tables hReached (fails_tables_iff.mp hFails)
  | enhancers =>
      rcases fails_enhancers_iff.mp hFails with ⟨hOther, rfl⟩
      exact .enhancers hReached hOther

end Stage

/- In each of the cases the reading ends at a stage. -/
theorem Unreported.exists_endsAt
    {fields : List (String × Json)}
    (hUnreported : Unreported (.obj fields) d) :
    ∃ stage : Stage, stage.EndsAt (.obj fields) d := by
  cases hUnreported with
  | positions hReads hField hOther =>
      have hFails :=
        Stage.fails_positions_iff.mpr
          ⟨_, hField, .inl ⟨hOther, rfl⟩⟩
      exact ⟨.positions, hReads, hFails⟩
  | bound hReads hField hBefore hInfinite =>
      have hFails :=
        Stage.fails_positions_iff.mpr
          ⟨_, hField,
            .inr ⟨_, _, _, rfl, hBefore, hInfinite, rfl⟩⟩
      exact ⟨.positions, hReads, hFails⟩
  | grammar hReads hField hOther =>
      have hFails :=
        Stage.fails_grammar_iff.mpr ⟨_, hField, hOther, rfl⟩
      exact ⟨.grammar, hReads, hFails⟩
  | rule hReads hItems hBefore hOther =>
      have hFails :=
        Stage.fails_rules_iff.mpr
          ⟨_, _, _, hItems, hBefore, hOther, rfl⟩
      exact ⟨.rules, hReads, hFails⟩
  | navigation hReads hItems hBefore hOther =>
      have hFails :=
        Stage.fails_navigation_iff.mpr
          ⟨_, _, _, hItems, hBefore, hOther, rfl⟩
      exact ⟨.navigation, hReads, hFails⟩
  | tables hReads hBreaks =>
      have hFails := Stage.fails_tables_iff.mpr hBreaks
      exact ⟨.tables, hReads, hFails⟩
  | enhancers hReads hOther =>
      have hFails :=
        Stage.fails_enhancers_iff.mpr ⟨hOther, rfl⟩
      exact ⟨.enhancers, hReads, hFails⟩

/- What is wrong with the categories is reported. -/
theorem not_escapes_readCategories :
    ¬ Escapes
      (do
        (← (← v.required "categories").elements).mapM
          readCategory)
      d := by
  simp only [escapes_bind_iff, Json.not_escapes_required,
    Json.not_escapes_elements,
    not_escapes_mapM fun _ => not_escapes_readCategory,
    and_false, exists_false, or_self, not_false_eq_true]

/-
  The reading of a document ends without a report when it ends
  at one of the stages.
-/
theorem readComplete_eq_defect_iff_exists_endsAt
    {fields : List (String × Json)}
    {key : Json}
    (hComplete :
      ∀ name ∈ requiredKeys,
        ∃ w, (Json.obj fields).field? name = some w)
    (hKey : (Json.obj fields).field? "key" = some key) :
    readComplete (.obj fields) key = .error (.defect d) ↔
      ∃ stage : Stage, stage.EndsAt (.obj fields) d := by
  rcases hComplete "reference_string" (by simp [requiredKeys])
    with ⟨reference, hReference⟩
  rw [← Json.required_eq_ok_iff] at hReference
  -- A step fails, or it has a result and a later step fails.
  simp only [readComplete, bind_eq_error_iff, bind_eq_ok_iff,
    mapError_ofEntry_eq_defect_iff, mapError_defect_eq_defect_iff,
    mapError_eq_ok_iff, not_escapes_readCategories,
    enterCategories_ne_defect, hReference,
    Json.required_eq_ok_iff, Json.optionalField_obj,
    pure_ne_error, reduceCtorEq, Except.ok.injEq, false_or,
    or_false, and_false, exists_false, exists_eq_left']
  -- What comes later does not depend on what has been read.
  simp only [exists_and_right, ← and_assoc]
  rw [← readsCatalog_iff hComplete hKey]
  -- A stage is reached when all steps before it have results.
  simp only [Stage.exists_iff, Stage.EndsAt, Stage.Reached,
    Stage.Fails, readsTables_iff, readsNavigation_iff,
    readsRules_iff, readsGrammar_iff, readsRanges_iff,
    and_or_left, and_assoc]

/- Where the reading of a document ends without a report. -/
theorem readComplete_eq_defect_iff
    {fields : List (String × Json)}
    {key : Json}
    (hComplete :
      ∀ name ∈ requiredKeys,
        ∃ w, (Json.obj fields).field? name = some w)
    (hKey : (Json.obj fields).field? "key" = some key) :
    readComplete (.obj fields) key = .error (.defect d) ↔
      Unreported (.obj fields) d := by
  rw [readComplete_eq_defect_iff_exists_endsAt hComplete hKey]
  constructor
  · rintro ⟨stage, hEnds⟩
    exact hEnds.unreported
  · exact Unreported.exists_endsAt

/- What a document with a key ends with concerns that key. -/
theorem isReportOrDefect_readComplete
    {key : Json}
    {fault : Fault}
    (h : readComplete v key = .error fault) :
    IsReportOrDefect key fault := by
  simp only [readComplete, bind_eq_error_iff] at h
  have hEntry :
      ∀ {α : Type} {x : Except Defect α},
        Except.mapError (.ofEntry key) x = .error fault →
          IsReportOrDefect key fault := by
    intro α x hx
    rcases mapError_eq_error_iff.mp hx with ⟨d, _, rfl⟩
    exact isReportOrDefect_ofEntry key d
  rcases h with h | ⟨categories, _, h | ⟨catalog, _, h |
    ⟨ranges, _, h | ⟨grammar, _, h | ⟨rules, _, h |
      ⟨entries, _, h⟩⟩⟩⟩⟩⟩
  · exact hEntry h
  · exact .inl (isReport_enterCategories h)
  · exact hEntry h
  · exact hEntry h
  · exact hEntry h
  · exact hEntry h
  · rcases mapError_eq_error_iff.mp h with ⟨d, _, rfl⟩
    exact .inr ⟨d, rfl⟩

/-
  A document is read, or what is wrong with it is reported
  under its key.
-/
def IsReadOrReported (v : Json) : Prop :=
  (∃ c, ofJson v = .ok c) ∨
    ∃ fault,
      ofJson v = .error fault ∧
        IsReport ((v.field? "key").getD .null) fault

/- A document with all required fields is read further. -/
theorem ofJson_eq_readComplete
    {fields : List (String × Json)}
    (hComplete :
      ∀ name ∈ requiredKeys,
        ∃ w, (Json.obj fields).field? name = some w)
    {key : Json}
    (hKey : (Json.obj fields).field? "key" = some key) :
    ofJson (.obj fields) = readComplete (.obj fields) key := by
  have hAll :
      ∀ name ∈ requiredKeys,
        (fields.lookup name).isSome = true := by
    intro name hName
    exact Option.isSome_iff_exists.mpr (hComplete name hName)
  rw [ofJson, missingKeys_eq_ok_nil hAll,
    Json.required_eq_ok_iff.mpr hKey]
  rfl

/- The required fields that an object does not have. -/
def lacking (fields : List (String × Json)) : List String :=
  requiredKeys.filter fun name => (fields.lookup name).isNone

/- An object lacks no field when it has all of them. -/
theorem lacking_eq_nil_iff
    {fields : List (String × Json)} :
    lacking fields = [] ↔
      ∀ name ∈ requiredKeys,
        ∃ w, (Json.obj fields).field? name = some w := by
  rw [lacking, List.filter_eq_nil_iff]
  refine forall₂_congr fun name _ => ?_
  rw [Option.isNone_iff_eq_none]
  exact Option.ne_none_iff_exists'

/- The fields that are missing are those that an object lacks. -/
theorem missingKeys_obj (fields : List (String × Json)) :
    missingKeys (.obj fields) = .ok (lacking fields) := by
  have hMentioned :
      requiredKeys.mapM (Json.mentions (.obj fields)) =
        .ok (requiredKeys.map fun name =>
          (fields.lookup name).isSome) :=
    mapM_eq_ok_map fun _ _ => rfl
  rw [missingKeys, hMentioned, lacking]
  refine congrArg Except.ok ?_
  induction requiredKeys with
  | nil => rfl
  | cons name names ih =>
      rw [List.map_cons, List.zip_cons_cons, List.filterMap_cons,
        List.filter_cons]
      cases fields.lookup name <;> simp [ih]

/- Missing fields are reported, all at once. -/
theorem ofJson_eq_lacking
    {fields : List (String × Json)}
    (hLacking : lacking fields ≠ []) :
    ofJson (.obj fields) =
      .error (.invalid ((lacking fields).map .missingKey)
        (((Json.obj fields).field? "key").getD .null)) := by
  rw [ofJson, missingKeys_obj]
  simp only [Except.mapError, bind, Except.bind]
  rw [if_neg (by simpa using hLacking)]
  rfl

/- Which defects end the reading of an object. -/
theorem ofJson_eq_defect_iff
    {fields : List (String × Json)} :
    ofJson (.obj fields) = .error (.defect d) ↔
      Unreported (.obj fields) d := by
  by_cases hLacking : lacking fields = []
  · have hComplete := lacking_eq_nil_iff.mp hLacking
    rcases hComplete "key" (by simp [requiredKeys]) with
      ⟨key, hKey⟩
    rw [ofJson_eq_readComplete hComplete hKey]
    exact readComplete_eq_defect_iff hComplete hKey
  · rw [ofJson_eq_lacking hLacking]
    refine iff_of_false (by simp) ?_
    intro hUnreported
    have hComplete := hUnreported.readsCatalog.complete
    exact hLacking (lacking_eq_nil_iff.mpr hComplete)

/- What else an object ends with is a report under its key. -/
theorem isReportOrDefect_ofJson
    {fields : List (String × Json)}
    {fault : Fault}
    (h : ofJson (.obj fields) = .error fault) :
    IsReportOrDefect
      (((Json.obj fields).field? "key").getD .null)
      fault := by
  by_cases hLacking : lacking fields = []
  · have hComplete := lacking_eq_nil_iff.mp hLacking
    rcases hComplete "key" (by simp [requiredKeys]) with
      ⟨key, hKey⟩
    rw [ofJson_eq_readComplete hComplete hKey] at h
    rw [hKey]
    exact isReportOrDefect_readComplete h
  · rw [ofJson_eq_lacking hLacking] at h
    cases h
    exact .inl ⟨_, by simpa using hLacking, rfl⟩

/- What ends with a defect is neither read nor reported. -/
theorem not_isReadOrReported_of_defect
    (h : ofJson v = .error (.defect d)) :
    ¬ IsReadOrReported v := by
  rintro (⟨c, hRead⟩ | ⟨fault, hFault, hReport⟩)
  · rw [h] at hRead
    cases hRead
  · rw [h] at hFault
    cases hFault
    exact not_isReport_defect hReport

/-
  A document is read, or what is wrong with it is reported,
  unless something is wrong with it that is not reported. The
  reading then ends with that very defect.
-/
theorem isReadOrReported_iff_not_unreported
    (fields : List (String × Json)) :
    (IsReadOrReported (.obj fields) ↔
        ∀ d, ¬ Unreported (.obj fields) d) ∧
      ∀ d,
        ofJson (.obj fields) = .error (.defect d) ↔
          Unreported (.obj fields) d := by
  refine ⟨?_, fun d => ofJson_eq_defect_iff⟩
  constructor
  · intro hDone d hUnreported
    exact
      not_isReadOrReported_of_defect
        (ofJson_eq_defect_iff.mpr hUnreported) hDone
  · intro hNone
    cases hRead : ofJson (.obj fields) with
    | ok c => exact .inl ⟨c, hRead⟩
    | error fault =>
        rcases isReportOrDefect_ofJson hRead with
          hReport | ⟨d, rfl⟩
        · exact .inr ⟨fault, hRead, hReport⟩
        · exact absurd (ofJson_eq_defect_iff.mp hRead) (hNone d)

/- A document with one category, below some fields of its own. -/
def sizesDocument (fields : List (String × Json)) : Json :=
  .obj
    (fields ++
      [("key", .str "sizes"), ("title", .str "Sizes"),
        ("categories",
          .arr
            [.obj
              [("id", .str "SIZE"), ("name", .str "Size"),
                ("group", .str "model"),
                ("codes", .obj [("A", .str "Size A")])]]),
        ("positions", .obj []),
        ("grammar", .obj [("model_part", .arr [.str "SIZE"])]),
        ("reference_string", .str "A")])

/-
  A text in the place of a category is reported, but a text in
  the place of a line of the reference list is not.
-/
theorem not_isReadOrReported_sizesDocument :
    ofJson (sizesDocument [("categories", .arr [.str "Size"])]) =
        .error
          (.invalid [.malformedEntry .mistyped]
            (.str "sizes")) ∧
      ofJson
          (sizesDocument [("navigation", .arr [.str "Size"])]) =
        .error (.defect .unsupported) ∧
      ¬ IsReadOrReported
        (sizesDocument [("navigation", .arr [.str "Size"])]) := by
  have hDefect :
      ofJson
          (sizesDocument [("navigation", .arr [.str "Size"])]) =
        .error (.defect .unsupported) := by
    rfl
  exact ⟨rfl, hDefect, not_isReadOrReported_of_defect hDefect⟩

end Configuration

end ModelNumber
