import ModelNumber.Proofs.Configuration.Reference
import ModelNumber.Proofs.Decoding.Continuation
import ModelNumber.Proofs.Decoding.Gaps
import ModelNumber.Proofs.Decoding.Readable
import ModelNumber.Report.Export

/-
  Which decodes are exported attribute by attribute. An
  attribute whose name is taken is labelled with its position
  too, and a label that is taken as well overwrites what had
  it. So an export keeps all attributes exactly when their
  labels are different, and a configuration loses none,
  whatever is typed, exactly when the labels of its whole
  grammar are different.

  Main declarations:
    * `Caption.labels` and `Caption.AreApart`
    * `Decoding.Exports`
    * `Decoding.ExportsEach`
    * `Decoding.exists_exportedAttributes_of_distinct`
    * `Configuration.HasDistinctLabels`
    * `Configuration.exportsEach_iff`
-/

namespace ModelNumber

------------------------------------------------------------
-- Labels
------------------------------------------------------------

/- What a category is shown as. -/
structure Caption where
  name : String
  position : String
deriving DecidableEq, Repr

namespace Caption

/- The label of a caption, when some labels are taken. -/
def label
    (taken : List String)
    (c : Caption) : String :=
  if c.name ∈ taken then
    c.name ++ " (" ++ c.position ++ ")"
  else
    c.name

/- The labels of captions, given one after the other. -/
def labels : List String → List Caption → List String
| _, [] => []
| taken, c :: cs =>
    c.label taken :: labels (c.label taken :: taken) cs

/- No label of captions is taken when it is given. -/
def AreApart
    (taken : List String)
    (cs : List Caption) : Prop :=
  (labels taken cs).Nodup ∧ ∀ l ∈ labels taken cs, l ∉ taken

variable {taken : List String} {c : Caption} {cs : List Caption}

/- Captions are apart when the first one is from what is taken. -/
theorem areApart_cons :
    AreApart taken (c :: cs) ↔
      c.label taken ∉ taken ∧
        AreApart (c.label taken :: taken) cs := by
  unfold AreApart
  rw [labels, List.nodup_cons, List.forall_mem_cons]
  constructor
  · rintro ⟨⟨hFirst, hNodup⟩, hNew, hOthers⟩
    refine ⟨hNew, hNodup, ?_⟩
    intro l hl hMem
    rcases List.mem_cons.mp hMem with rfl | hMem
    · exact hFirst hl
    · exact hOthers l hl hMem
  · rintro ⟨hNew, hNodup, hOthers⟩
    refine ⟨⟨?_, hNodup⟩, hNew, ?_⟩
    · intro hl
      exact hOthers _ hl List.mem_cons_self
    · intro l hl hMem
      exact hOthers l hl (List.mem_cons_of_mem _ hMem)

/- A label is still free when less is taken. -/
theorem label_not_mem_of_subset
    {fewer : List String}
    (hSubset : fewer ⊆ taken)
    (hFree : c.label taken ∉ taken) :
    c.label fewer ∉ fewer := by
  unfold label at hFree ⊢
  by_cases hName : c.name ∈ fewer
  · rw [if_pos (hSubset hName)] at hFree
    rw [if_pos hName]
    exact fun hMem => hFree (hSubset hMem)
  · rwa [if_neg hName]

/- Where less was taken, less is taken with a label. -/
theorem label_cons_subset
    {fewer : List String}
    (hSubset : fewer ⊆ taken) :
    c.label fewer :: fewer ⊆ c.label taken :: taken := by
  refine List.cons_subset.mpr
    ⟨?_, fun l hl => List.mem_cons_of_mem _ (hSubset hl)⟩
  unfold label
  by_cases hName : c.name ∈ fewer
  · rw [if_pos hName, if_pos (hSubset hName)]
    exact List.mem_cons_self
  · rw [if_neg hName]
    by_cases hTaken : c.name ∈ taken
    · exact List.mem_cons_of_mem _ hTaken
    · rw [if_neg hTaken]
      exact List.mem_cons_self

/- Captions that are apart are so without some of them. -/
theorem AreApart.sublist
    {some : List Caption}
    (hSublist : some.Sublist cs) :
    ∀ {fewer taken : List String},
      fewer ⊆ taken → AreApart taken cs → AreApart fewer some := by
  induction hSublist with
  | slnil =>
      intro _ _ _ _
      exact ⟨List.nodup_nil, fun l hl => by cases hl⟩
  | cons c _ ih =>
      intro fewer taken hSubset hApart
      exact ih (fun l hl => List.mem_cons_of_mem _ (hSubset hl))
        (areApart_cons.mp hApart).2
  | cons_cons c _ ih =>
      intro fewer taken hSubset hApart
      rcases areApart_cons.mp hApart with ⟨hFree, hRest⟩
      exact areApart_cons.mpr
        ⟨label_not_mem_of_subset hSubset hFree,
          ih (label_cons_subset hSubset) hRest⟩

/- There is a label for each caption. -/
theorem length_labels :
    ∀ (taken : List String) (cs : List Caption),
      (labels taken cs).length = cs.length
| _, [] => rfl
| taken, c :: cs => by
    rw [labels, List.length_cons, List.length_cons,
      length_labels]

/- Where all names are different and free, they are the labels. -/
theorem labels_eq_names
    (hNames : (cs.map name).Nodup)
    (hFree : ∀ c ∈ cs, c.name ∉ taken) :
    labels taken cs = cs.map name := by
  induction cs generalizing taken with
  | nil => rfl
  | cons c cs ih =>
      rw [List.map_cons, List.nodup_cons] at hNames
      rw [List.forall_mem_cons] at hFree
      have hLabel : c.label taken = c.name := if_neg hFree.1
      rw [labels, hLabel, List.map_cons, ih hNames.2]
      intro other hOther
      rw [List.mem_cons, not_or]
      refine ⟨?_, hFree.2 other hOther⟩
      intro hSame
      exact hNames.1 (hSame ▸ List.mem_map_of_mem hOther)

end Caption

------------------------------------------------------------
-- Exported attributes
------------------------------------------------------------

/- The caption of an attribute. -/
def Attribute.caption (a : Attribute) : Caption where
  name := a.name.shown
  position := a.position.shown

/- What is exported of an attribute, under its label. -/
def Attribute.exported (a : Attribute) : Json :=
  .obj [("code", a.code), ("description", a.description)]

namespace Decoding

/- A map has just the texts of a list among its keys. -/
def HasTaken
    (m : OrderedMap Scalar Json)
    (taken : List String) : Prop :=
  ∀ s, m.contains (.str s) = true ↔ s ∈ taken

/- A named attribute is entered under its label. -/
theorem enterAttribute_eq
    {m : OrderedMap Scalar Json}
    {taken : List String}
    (hTaken : HasTaken m taken)
    {a : Attribute}
    (hName : ∃ name, a.name = .str name) :
    enterAttribute m a =
      .ok (m.insert (.str (a.caption.label taken)) a.exported) := by
  rcases hName with ⟨name, hName⟩
  have hKey : a.name.key = .ok (.str name) := by
    rw [hName]
    rfl
  have hShown : a.caption.name = name := by
    rw [Attribute.caption, hName]
    rfl
  rw [enterAttribute, hKey, Caption.label, hShown]
  by_cases hMem : name ∈ taken
  · have hContains := (hTaken name).mpr hMem
    simp only [hMem, if_true]
    change Except.ok (m.insert (if _ then _ else _) _) = _
    rw [if_pos hContains]
    rfl
  · have hContains := mt (hTaken name).mp hMem
    simp only [hMem, if_false]
    change Except.ok (m.insert (if _ then _ else _) _) = _
    rw [if_neg hContains]
    rfl

/- The label of an entry is taken after it. -/
theorem HasTaken.insert
    {m : OrderedMap Scalar Json}
    {taken : List String}
    (hTaken : HasTaken m taken)
    (l : String)
    (v : Json) :
    HasTaken (m.insert (.str l) v) (l :: taken) := by
  intro s
  rw [OrderedMap.contains_insert, Bool.or_eq_true, hTaken s,
    List.mem_cons, Scalar.str_beq_str, beq_iff_eq, eq_comm]

/-
  What exporting attributes one after the other makes of a map
  with some labels. It grows by each of them exactly when
  their captions are apart, and then by their labels in order.
-/
structure Exports
    (m : OrderedMap Scalar Json)
    (taken : List String)
    (as : List Attribute)
    (exported : OrderedMap Scalar Json) : Prop where
  size_le : exported.size ≤ m.size + as.length
  apart :
    exported.size = m.size + as.length →
      Caption.AreApart taken (as.map Attribute.caption)
  entries :
    Caption.AreApart taken (as.map Attribute.caption) →
      exported.entries =
        m.entries ++
          ((Caption.labels taken (as.map Attribute.caption)).zip
            as).map fun p => (Scalar.str p.1, p.2.exported)

/- An attribute with a free label comes in first. -/
theorem Exports.cons_of_free
    {m exported : OrderedMap Scalar Json}
    {taken : List String}
    (hTaken : HasTaken m taken)
    {a : Attribute}
    {as : List Attribute}
    (hFree : a.caption.label taken ∉ taken)
    (hRest :
      Exports (m.insert (.str (a.caption.label taken)) a.exported)
        (a.caption.label taken :: taken) as exported) :
    Exports m taken (a :: as) exported := by
  have hNew :
      ∀ e ∈ m.entries,
        (e.1 == Scalar.str (a.caption.label taken)) = false := by
    have hNone := mt (hTaken (a.caption.label taken)).mp hFree
    rw [Bool.not_eq_true, OrderedMap.contains,
      List.any_eq_false] at hNone
    intro e he
    exact Bool.not_eq_true _ ▸ hNone e he
  have hEntries := m.entries_insert_of_new a.exported hNew
  have hSize :
      (m.insert (.str (a.caption.label taken)) a.exported).size =
        m.size + 1 := by
    rw [OrderedMap.size, hEntries, List.length_append]
    rfl
  rcases hRest with ⟨hLe, hApart, hAll⟩
  rw [hSize] at hLe hApart
  rw [hEntries] at hAll
  constructor
  · rw [List.length_cons]
    omega
  · intro hLength
    rw [List.length_cons] at hLength
    exact Caption.areApart_cons.mpr ⟨hFree, hApart (by omega)⟩
  · intro hCaptions
    rw [List.map_cons, Caption.areApart_cons] at hCaptions
    rw [hAll hCaptions.2, List.append_assoc]
    rfl

/- An attribute with a taken label adds nothing. -/
theorem Exports.cons_of_taken
    {m exported : OrderedMap Scalar Json}
    {taken : List String}
    (hTaken : HasTaken m taken)
    {a : Attribute}
    {as : List Attribute}
    (hMem : a.caption.label taken ∈ taken)
    (hRest :
      Exports (m.insert (.str (a.caption.label taken)) a.exported)
        (a.caption.label taken :: taken) as exported) :
    Exports m taken (a :: as) exported := by
  have hSize :
      (m.insert (.str (a.caption.label taken)) a.exported).size =
        m.size := by
    have hKeys :=
      OrderedMap.keys_insert_of_contains a.exported
        ((hTaken _).mpr hMem)
    have hLength := congrArg List.length hKeys
    rwa [OrderedMap.keys, OrderedMap.keys, List.length_map,
      List.length_map] at hLength
  have hLe := hRest.size_le
  rw [hSize] at hLe
  constructor
  · rw [List.length_cons]
    omega
  · intro hLength
    rw [List.length_cons] at hLength
    omega
  · intro hCaptions
    exact absurd hMem (Caption.areApart_cons.mp hCaptions).1

/- Named attributes can be exported one after the other. -/
theorem exists_exports
    {as : List Attribute}
    (hNames : ∀ a ∈ as, ∃ name, a.name = .str name)
    {m : OrderedMap Scalar Json}
    {taken : List String}
    (hTaken : HasTaken m taken) :
    ∃ exported,
      as.foldlM enterAttribute m = .ok exported ∧
        Exports m taken as exported := by
  induction as generalizing m taken with
  | nil =>
      refine ⟨m, rfl, Nat.le_refl _, ?_, ?_⟩
      · intro _
        exact ⟨List.nodup_nil, fun l hl => by cases hl⟩
      · intro _
        exact (List.append_nil _).symm
  | cons a as ih =>
      rw [List.forall_mem_cons] at hNames
      rcases ih hNames.2
          (hTaken.insert (a.caption.label taken) a.exported) with
        ⟨exported, hFold, hExports⟩
      refine ⟨exported, ?_, ?_⟩
      · rw [List.foldlM_cons, enterAttribute_eq hTaken hNames.1]
        exact hFold
      · by_cases hMem : a.caption.label taken ∈ taken
        · exact .cons_of_taken hTaken hMem hExports
        · exact .cons_of_free hTaken hMem hExports

------------------------------------------------------------
-- Exported decodes
------------------------------------------------------------

/-
  A decode is exported attribute by attribute: in its document
  there is one field for each attribute, in order, with the
  code and the description of the attribute.
-/
def ExportsEach
    (d : Decoding)
    (withWarnings withNotices : Bool) : Prop :=
  ∃ document fields,
    d.toJson withWarnings withNotices = .ok document ∧
      d.toText withWarnings withNotices =
        .ok (Json.print .indented document) ∧
      document.field? "Attributes" = some (.obj fields) ∧
      (fields.map Prod.fst).Nodup ∧
      fields.map Prod.snd = d.attributes.map Attribute.exported

variable {d : Decoding} {withWarnings withNotices : Bool}

/- The fields of exported attributes. -/
def exportedFields
    (exported : OrderedMap Scalar Json) : List (String × Json) :=
  exported.entries.map fun e => (Json.fieldName e.1, e.2)

/- The document of a decode, given its exported attributes. -/
theorem toJson_of_exportedAttributes
    {exported : OrderedMap Scalar Json}
    (hExported : d.exportedAttributes = .ok exported) :
    d.toJson withWarnings withNotices =
      .ok (.obj
        ([("Model Type", d.modelType),
            ("Model Number", .str d.normalized),
            ("Attributes", .obj (exportedFields exported))]
          ++ fieldIf withWarnings "Warnings"
            (.arr (d.warnings.map Warning.toJson))
          ++ fieldIf withNotices "Notices"
            (.arr (d.notices.map Notice.toJson)))) := by
  rw [toJson, hExported]
  rfl

/- The text of a decode is that of its document. -/
theorem toText_of_toJson
    {document : Json}
    (hDocument : d.toJson withWarnings withNotices = .ok document) :
    d.toText withWarnings withNotices =
      .ok (Json.print .indented document) := by
  rw [toText, hDocument]
  rfl

/- What the fields of exported attributes have to be. -/
theorem exportsEach_iff_of_exportedAttributes
    {exported : OrderedMap Scalar Json}
    (hExported : d.exportedAttributes = .ok exported) :
    d.ExportsEach withWarnings withNotices ↔
      ((exportedFields exported).map Prod.fst).Nodup ∧
        (exportedFields exported).map Prod.snd =
          d.attributes.map Attribute.exported := by
  have hDocument :
      d.toJson withWarnings withNotices = .ok _ :=
    toJson_of_exportedAttributes hExported
  constructor
  · rintro ⟨other, fields, hOther, _, hFields, hNodup, hValues⟩
    rw [hDocument] at hOther
    cases hOther
    cases hFields
    exact ⟨hNodup, hValues⟩
  · rintro ⟨hNodup, hValues⟩
    exact
      ⟨_, _, hDocument, toText_of_toJson hDocument, rfl, hNodup,
        hValues⟩

/- At first no label is taken. -/
theorem hasTaken_empty : HasTaken ∅ [] := by
  intro s
  exact iff_of_false Bool.false_ne_true List.not_mem_nil

/- Where the labels are different, they name the fields. -/
theorem exists_exportedAttributes_of_nodup
    (hNames : ∀ a ∈ d.attributes, ∃ name, a.name = .str name)
    (hNodup :
      (Caption.labels []
        (d.attributes.map Attribute.caption)).Nodup) :
    ∃ exported,
      d.exportedAttributes = .ok exported ∧
        exportedFields exported =
          (Caption.labels []
            (d.attributes.map Attribute.caption)).zip
              (d.attributes.map Attribute.exported) := by
  rcases exists_exports hNames hasTaken_empty with
    ⟨exported, hExported, hExports⟩
  refine ⟨exported, hExported, ?_⟩
  have hEntries :=
    hExports.entries ⟨hNodup, fun l _ => List.not_mem_nil⟩
  rw [exportedFields, hEntries, List.zip_map_right]
  exact List.map_map

/- A decode is exported one by one when its labels are different. -/
theorem exportsEach_iff_nodup
    (hNames : ∀ a ∈ d.attributes, ∃ name, a.name = .str name) :
    d.ExportsEach withWarnings withNotices ↔
      (Caption.labels []
        (d.attributes.map Attribute.caption)).Nodup := by
  constructor
  · intro hEach
    rcases exists_exports hNames hasTaken_empty with
      ⟨exported, hExported, hExports⟩
    rw [exportsEach_iff_of_exportedAttributes hExported] at hEach
    have hLength := congrArg List.length hEach.2
    rw [exportedFields, List.length_map, List.length_map,
      List.length_map] at hLength
    have hSize :
        exported.size =
          (∅ : OrderedMap Scalar Json).size +
            d.attributes.length := by
      rw [OrderedMap.size, hLength]
      exact (Nat.zero_add _).symm
    exact (hExports.apart hSize).1
  · intro hNodup
    rcases exists_exportedAttributes_of_nodup hNames hNodup with
      ⟨exported, hExported, hFields⟩
    rw [exportsEach_iff_of_exportedAttributes hExported, hFields]
    have hLength :
        (Caption.labels []
            (d.attributes.map Attribute.caption)).length =
          (d.attributes.map Attribute.exported).length := by
      rw [Caption.length_labels, List.length_map, List.length_map]
    exact
      ⟨(List.map_fst_zip (Nat.le_of_eq hLength)).symm ▸ hNodup,
        List.map_snd_zip (Nat.le_of_eq hLength.symm)⟩

/- Attributes with different names are exported under these. -/
theorem exists_exportedAttributes_of_distinct
    (hNames : ∀ a ∈ d.attributes, ∃ name, a.name = .str name)
    (hDistinct :
      (d.attributes.map fun a => a.caption.name).Nodup) :
    ∃ exported,
      d.exportedAttributes = .ok exported ∧
        exportedFields exported =
          d.attributes.map fun a => (a.caption.name, a.exported) := by
  have hLabels :
      Caption.labels [] (d.attributes.map Attribute.caption) =
        d.attributes.map fun a => a.caption.name := by
    rw [Caption.labels_eq_names]
    · exact List.map_map
    · rw [List.map_map]
      exact hDistinct
    · intro c _
      exact List.not_mem_nil
  rcases exists_exportedAttributes_of_nodup hNames
      (hLabels.symm ▸ hDistinct) with
    ⟨exported, hExported, hFields⟩
  refine ⟨exported, hExported, ?_⟩
  rw [hFields, hLabels, List.zip_map']

end Decoding

------------------------------------------------------------
-- Labels of a grammar
------------------------------------------------------------

/- The caption of a category. -/
def Catalog.caption
    (catalog : Catalog)
    (category : Scalar) : Caption where
  name := (catalog.resolve category "").name.shown
  position := (catalog.resolve category "").position.shown

/- An attribute that is shown as its category has its caption. -/
theorem Catalog.Shows.caption_eq
    {catalog : Catalog}
    {a : Attribute}
    (h : catalog.Shows a) :
    a.caption = catalog.caption a.category := by
  rcases h with ⟨c, hGet, hName, hPosition⟩
  rw [Attribute.caption, Catalog.caption,
    Catalog.resolve_name hGet, Catalog.resolve_position hGet,
    hName, hPosition]

/- An attribute that is shown as its category is named by a text. -/
theorem Catalog.HasTextNames.exists_name
    {catalog : Catalog}
    (hNames : catalog.HasTextNames)
    {a : Attribute}
    (h : catalog.Shows a) :
    ∃ name, a.name = .str name := by
  rcases h with ⟨c, hGet, hName, _⟩
  rw [hName]
  exact hNames c (List.mem_of_find?_eq_some hGet)

/- With a code for each slot, each slot has a segment. -/
theorem Split.exists_mapped_categories
    {g : Grammar}
    (hTextual : g.IsTextual) :
    ∃ text : String,
      (ofNormal g (Text.normal [] false text.toList)).mapped.map
          Prod.fst =
        g.categories := by
  have hDashes : Options.plain.dashes = .ok [] := rfl
  have hA : Options.plain.IsCanonical "A" := by
    decide +kernel
  have hCodes :
      ∀ slots : List Json, ∀ code ∈ slots.map fun _ => "A",
        Options.plain.IsCanonical code := by
    intro slots code hCode
    rcases List.mem_map.mp hCode with ⟨_, _, rfl⟩
    exact hA
  let text :=
    Text.rendered (g.modelPart.map fun _ => "A")
      (g.featurePart.map fun _ => "A")
  refine ⟨text, ?_⟩
  have hNormal :
      Text.normal [] false text.toList =
        Text.trim text.toList :=
    normal_rendered hDashes List.not_mem_nil
      (hCodes g.modelPart) (hCodes g.featurePart)
  rcases codes_rendered hDashes (hCodes g.modelPart)
      (hCodes g.featurePart) g with
    ⟨hModel, hFeature⟩
  rw [codes_eq_map_tokens] at hModel hFeature
  have hModelLength := congrArg List.length hModel
  have hFeatureLength := congrArg List.length hFeature
  rw [List.length_map, List.length_map]
    at hModelLength hFeatureLength
  rw [hNormal, mapped_ofNormal hTextual, List.map_append,
    List.map_map, List.map_map, Grammar.categories]
  exact
    congrArg₂ (· ++ ·)
      (List.map_fst_zip (Nat.le_of_eq hModelLength.symm))
      (List.map_fst_zip (Nat.le_of_eq hFeatureLength.symm))

namespace Configuration

variable {c : Configuration}

/- The captions of the categories of a grammar, in order. -/
def captions (c : Configuration) : List Caption :=
  c.grammar.categories.filterMap fun category =>
    category.key.toOption.map c.catalog.caption

/- The labels of a full model number are different. -/
def HasDistinctLabels (c : Configuration) : Prop :=
  (Caption.labels [] c.captions).Nodup

instance (c : Configuration) : Decidable c.HasDistinctLabels :=
  inferInstanceAs
    (Decidable (Caption.labels [] c.captions).Nodup)

/- The captions of attributes are those of their categories. -/
theorem captions_eq
    {as : List Attribute}
    (hShows : ∀ a ∈ as, c.catalog.Shows a) :
    as.map Attribute.caption =
      (as.map fun a => Json.scalar a.category).filterMap
        fun category =>
          category.key.toOption.map c.catalog.caption := by
  rw [List.filterMap_map, ← List.filterMap_eq_map]
  apply List.filterMap_congr
  intro a ha
  exact congrArg some (hShows a ha).caption_eq

/- The captions of a decode are some of those of the grammar. -/
theorem Steps.captions_sublist
    {options : Options}
    {text : String}
    {split : Split}
    {keyed : List (Scalar × Segment)}
    {d : Decoding}
    (hSteps : c.Steps options text split keyed d)
    (hShows : ∀ a ∈ d.attributes, c.catalog.Shows a) :
    (d.attributes.map Attribute.caption).Sublist c.captions := by
  rcases Split.exists_of_ofText_eq_ok hSteps.splits with
    ⟨dashes, _, rfl⟩
  have hSublist :=
    Split.pairs_categories_sublist c.grammar
      (Text.normal dashes options.uppercase text.toList)
  rw [← hSteps.attributes_pairs, List.map_map] at hSublist
  rw [captions_eq hShows]
  exact hSublist.filterMap _

/- Some text has an attribute for each category. -/
theorem Checked.exists_decode_categories
    (hChecked : c.Checked)
    (hTextual : c.grammar.IsTextual) :
    ∃ options text d,
      c.decode options text = .ok d ∧
        (d.attributes.map fun a => Json.scalar a.category) =
          c.grammar.categories := by
  rcases Split.exists_mapped_categories hTextual with
    ⟨text, hMapped⟩
  let options := { Options.plain with enhance := false }
  rcases hChecked.exists_keyed
      (c.typesSegments_ofNormal [] false text.toList) with
    ⟨keyed, hKeyed⟩
  let attributes := keyed.map fun m => c.attributeOf m.1 m.2
  rcases hChecked.exists_warningsOf options attributes with
    ⟨warnings, hWarnings⟩
  have hDashes : options.dashes = .ok [] := rfl
  refine
    ⟨options, text,
      { raw := text
        normalized := _
        modelType := c.key
        attributes := attributes
        notices := _
        warnings := warnings
        expectedSegments := _ },
      decode_eq_ok_iff.mpr
        ⟨_, keyed, Split.ofText_eq_ok hDashes c.grammar text,
          hKeyed, rfl, hWarnings, rfl, rfl, rfl, rfl, rfl⟩,
      ?_⟩
  rw [hKeyed, List.map_map] at hMapped
  rw [List.map_map]
  exact hMapped

/-
  A configuration without problems, whose names are texts,
  exports all decodes attribute by attribute exactly when the
  labels of a full model number are different.
-/
theorem exportsEach_iff
    {c : Configuration}
    (hCheck : c.check = .ok [])
    (hIds : c.catalog.HasTextIds)
    (hNames : c.catalog.HasTextNames) :
    (∀ (options : Options) (text : String) (d : Decoding),
        c.decode options text = .ok d →
          ∀ withWarnings withNotices,
            d.ExportsEach withWarnings withNotices) ↔
      c.HasDistinctLabels := by
  have hChecked := check_eq_ok_nil_iff.mp hCheck
  have hShows :
      ∀ {options text split keyed d},
        c.Steps options text split keyed d →
          ∀ a ∈ d.attributes, c.catalog.Shows a := by
    intro options text split keyed d hSteps a ha
    exact hSteps.shows
      (fun m hm => hChecked.contains_of_mem_keyed hSteps hm) ha
  constructor
  · intro hExports
    rcases hChecked.exists_decode_categories
        (hChecked.isTextual hIds) with
      ⟨options, text, d, hd, hCategories⟩
    rcases decode_eq_ok_iff.mp hd with ⟨split, keyed, hSteps⟩
    have hEach :=
      (Decoding.exportsEach_iff_nodup
        (fun a ha => hNames.exists_name (hShows hSteps a ha))).mp
        (hExports options text d hd true false)
    rw [captions_eq (hShows hSteps), hCategories] at hEach
    exact hEach
  · intro hLabels options text d hd withWarnings withNotices
    rcases decode_eq_ok_iff.mp hd with ⟨split, keyed, hSteps⟩
    refine
      (Decoding.exportsEach_iff_nodup
        (fun a ha => hNames.exists_name (hShows hSteps a ha))).mpr
        (Caption.AreApart.sublist
          (hSteps.captions_sublist (hShows hSteps))
          (List.Subset.refl _)
          ⟨hLabels, fun l _ => List.not_mem_nil⟩).1

------------------------------------------------------------
-- Fans of one name
------------------------------------------------------------

/- A model type with a number of fans and nothing else. -/
def ofFans (fans : Nat) : Configuration where
  key := "fans"
  title := "Fans"
  catalog :=
    { categories :=
        [Category.ofCodes "FAN" "Fan" "FAN" "model"
          [("A", "Plenum fan"), ("B", "Belt drive fan"),
            ("C", "Fan array")]]
      distinct := List.pairwise_singleton _ _ }
  positions := .ofBounds []
  grammar := .ofNames (List.replicate fans "FAN") []
  referenceString :=
    "-".intercalate (List.replicate fans "A")
  rules := []
  navigation := []
  enhancers := []
  tables := .obj []

/- Two fans are told apart, whatever is typed. -/
theorem exportsEach_ofFans_two :
    (ofFans 2).check = .ok [] ∧
      (ofFans 2).catalog.HasTextIds ∧
      (ofFans 2).catalog.HasTextNames ∧
      (ofFans 2).HasDistinctLabels ∧
      ∀ (options : Options) (text : String) (d : Decoding),
        (ofFans 2).decode options text = .ok d →
          d.ExportsEach true false := by
  have hCheck : (ofFans 2).check = .ok [] := rfl
  have hIds : (ofFans 2).catalog.HasTextIds := by
    decide +kernel
  have hNames : (ofFans 2).catalog.HasTextNames := by
    decide +kernel
  have hLabels : (ofFans 2).HasDistinctLabels := by
    decide +kernel
  refine ⟨hCheck, hIds, hNames, hLabels, ?_⟩
  intro options text d hd
  exact (exportsEach_iff hCheck hIds hNames).mpr hLabels options
    text d hd true false

/-
  Of three fans the third one is exported in the place of the
  second, though no problem has been found.
-/
theorem check_and_not_exportsEach_ofFans_three :
    (ofFans 3).check = .ok [] ∧
      (ofFans 3).catalog.HasTextIds ∧
      (ofFans 3).catalog.HasTextNames ∧
      ∃ d,
        (ofFans 3).decode {} "A-B-C" = .ok d ∧
          d.attributes.length = 3 ∧
          ¬ d.ExportsEach true false := by
  have hSame :
      ((ofFans 3).decode {} "A-B-C").toOption.map
          (fun d => (d.attributes.map Attribute.name,
            d.attributes.map Attribute.caption)) =
        some
          (List.replicate 3 (.str "Fan"),
            List.replicate 3 ⟨"Fan", "FAN"⟩) := by
    decide +kernel
  rcases Option.map_eq_some_iff.mp hSame with ⟨d, hSome, hBoth⟩
  have hd := Outcome.toOption_eq_some_iff.mp hSome
  simp only [Prod.mk.injEq] at hBoth
  rcases hBoth with ⟨hNames, hCaptions⟩
  have hText : ∀ a ∈ d.attributes, ∃ name, a.name = .str name := by
    intro a ha
    have hName := List.mem_map_of_mem (f := Attribute.name) ha
    rw [hNames] at hName
    exact ⟨"Fan", List.eq_of_mem_replicate hName⟩
  refine
    ⟨rfl, by decide +kernel, by decide +kernel, d, hd, ?_, ?_⟩
  · have hLength := congrArg List.length hNames
    rwa [List.length_map] at hLength
  · rw [Decoding.exportsEach_iff_nodup hText, hCaptions]
    decide

end Configuration

end ModelNumber
