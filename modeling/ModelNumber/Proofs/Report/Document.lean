import ModelNumber.Proofs.Decoding.Account
import ModelNumber.Proofs.Json.ReadBack
import ModelNumber.Proofs.Report.Export
import ModelNumber.Proofs.Rule.Outcome

/-
  The document of a decode is read back from its text. It has
  nothing in it but texts, places in the normal form, and
  fields of different names, as long as the configuration has
  texts for whatever is shown and different names for its
  categories.

  Main declarations:
    * `Decoding.IsPlain` and `Decoding.Documents`
    * `Decoding.IsExported` and `Decoding.IsPlain.isExported`
    * `Configuration.IsPlain`
    * `Configuration.IsPlain.isPlain_of_steps`
-/

namespace ModelNumber

------------------------------------------------------------
-- Parts of a document
------------------------------------------------------------

/- A text can be read back. -/
theorem Json.isReadable_str (s : String) :
    (Json.str s).IsReadable :=
  .scalar trivial

/- A place in a text is short, unless the text is too long. -/
theorem Json.isShort_of_lt
    {place length : Nat}
    (hPlace : place < length)
    (hLength : length ≤ 10 ^ Numeral.digitLimit) :
    Json.IsShort place := by
  unfold IsShort
  rw [Int.natAbs_natCast, Nat.length_toDigits_le_iff]
  · exact Nat.lt_of_lt_of_le hPlace hLength
  · decide
  · decide

/- A warning says texts about categories that are texts. -/
structure Warning.IsPlain (w : Warning) : Prop where
  message : ∃ s, w.message = .str s
  hint : ∃ s, w.hint = .str s
  categories : ∀ c ∈ w.categories, ∃ s, c = .str s

instance (w : Warning) : Decidable w.IsPlain :=
  decidable_of_iff
    ((∃ s, w.message = .str s) ∧ (∃ s, w.hint = .str s) ∧
      ∀ c ∈ w.categories, ∃ s, c = .str s)
    ⟨fun ⟨hMessage, hHint, hCategories⟩ =>
        ⟨hMessage, hHint, hCategories⟩,
      fun h => ⟨h.message, h.hint, h.categories⟩⟩

/- A warning of texts can be read back. -/
theorem Warning.IsPlain.isReadable_toJson
    {w : Warning}
    (hPlain : w.IsPlain) :
    w.toJson.IsReadable := by
  rcases hPlain with
    ⟨⟨message, hMessage⟩, ⟨hint, hHint⟩, hCategories⟩
  have hAll : (Json.arr w.categories).IsReadable := by
    refine .arr ?_
    intro c hc
    rcases hCategories c hc with ⟨s, rfl⟩
    exact Json.isReadable_str s
  rw [toJson, hMessage, hHint]
  refine .obj (by simp) ?_
  simp only [List.forall_mem_cons]
  exact
    ⟨Json.isReadable_str _, Json.isReadable_str _,
      Json.isReadable_str _, hAll, Json.isReadable_str _,
      List.forall_mem_nil _⟩

/- A notice is about a category that is a text, if about any. -/
def Notice.IsPlain (n : Notice) : Prop :=
  ∀ category, n.category? = some category → ∃ s, category = .str s

/- A notice about a place that is short can be read back. -/
theorem Notice.IsPlain.isReadable_toJson
    {n : Notice}
    (hPlain : n.IsPlain)
    (hShort : Json.IsShort n.place) :
    n.toJson.IsReadable := by
  have hSegment : (optionalText n.segment?).IsReadable := by
    cases n.segment? with
    | none => exact .scalar trivial
    | some s => exact Json.isReadable_str s
  have hCategory :
      (Json.optional (n.category?.map Json.scalar)).IsReadable := by
    cases hSome : n.category? with
    | none => exact .scalar trivial
    | some category =>
        rcases hPlain category hSome with ⟨s, rfl⟩
        exact Json.isReadable_str s
  rw [toJson]
  refine .obj (by simp) ?_
  simp only [List.forall_mem_cons]
  exact
    ⟨Json.isReadable_str _, Json.isReadable_str _, hSegment,
      hCategory, .scalar hShort,
      List.forall_mem_nil _⟩

/- An attribute that is described by a text can be read back. -/
theorem Attribute.HasText.isReadable_exported
    {a : Attribute}
    (hText : a.HasText) :
    a.exported.IsReadable := by
  rcases hText with ⟨description, hDescription⟩
  rw [exported, hDescription]
  refine .obj (by simp) ?_
  simp only [List.forall_mem_cons]
  exact
    ⟨Json.isReadable_str _, Json.isReadable_str _,
      List.forall_mem_nil _⟩

------------------------------------------------------------
-- Documents
------------------------------------------------------------

namespace Decoding

/-
  All that is shown of a decode are texts, and its attributes
  have different names.
-/
structure IsPlain (d : Decoding) : Prop where
  modelType : ∃ s, d.modelType = .str s
  names : ∀ a ∈ d.attributes, ∃ name, a.name = .str name
  distinct : (d.attributes.map fun a => a.caption.name).Nodup
  descriptions : ∀ a ∈ d.attributes, a.HasText
  warnings : ∀ w ∈ d.warnings, w.IsPlain
  notices : ∀ n ∈ d.notices, n.IsPlain
  places : ∀ n ∈ d.notices, n.place < d.normalized.length

/-
  A document exports a decode by plain names: it has one field
  for each attribute, in order, which is named as the
  attribute is.
-/
def Documents
    (d : Decoding)
    (document : Json) : Prop :=
  ∃ fields,
    document.field? "Attributes" = some (.obj fields) ∧
      (fields.map Prod.fst).Nodup ∧
      (fields.map fun f => Json.str f.1) =
        d.attributes.map Attribute.name ∧
      fields.map Prod.snd = d.attributes.map Attribute.exported

variable {d : Decoding} {withWarnings withNotices : Bool}

/- A field that is only there when it is wanted can be read back. -/
theorem isReadable_of_mem_fieldIf
    {wanted : Bool}
    {name : String}
    {value : Json}
    (hValue : wanted = true → value.IsReadable)
    {f : String × Json}
    (hf : f ∈ fieldIf wanted name value) :
    f.2.IsReadable := by
  unfold fieldIf at hf
  split at hf
  · rename_i hWanted
    rw [List.mem_singleton.mp hf]
    exact hValue hWanted
  · cases hf

namespace IsPlain

/- The exported attributes of a plain decode can be read back. -/
theorem isReadable_attributes
    (hPlain : d.IsPlain) :
    (Json.obj
      (d.attributes.map fun a =>
        (a.caption.name, a.exported))).IsReadable := by
  refine .obj ?_ ?_
  · rw [List.map_map]
    exact hPlain.distinct
  · intro f hf
    rcases List.mem_map.mp hf with ⟨a, ha, rfl⟩
    exact (hPlain.descriptions a ha).isReadable_exported

/- The warnings of a plain decode can be read back. -/
theorem isReadable_warnings
    (hPlain : d.IsPlain) :
    (Json.arr (d.warnings.map Warning.toJson)).IsReadable := by
  refine .arr ?_
  intro v hv
  rcases List.mem_map.mp hv with ⟨w, hw, rfl⟩
  exact (hPlain.warnings w hw).isReadable_toJson

/- So can its notices, if their places are not too long. -/
theorem isReadable_notices
    (hPlain : d.IsPlain)
    (hLength : d.normalized.length ≤ 10 ^ Numeral.digitLimit) :
    (Json.arr (d.notices.map Notice.toJson)).IsReadable := by
  refine .arr ?_
  intro v hv
  rcases List.mem_map.mp hv with ⟨n, hn, rfl⟩
  exact
    (hPlain.notices n hn).isReadable_toJson
      (Json.isShort_of_lt (hPlain.places n hn) hLength)

/-
  A plain decode has a document. It can be read back, unless
  it has notices about places that take too many digits.
-/
theorem exists_document
    (hPlain : d.IsPlain)
    (withWarnings withNotices : Bool) :
    ∃ document,
      d.toJson withWarnings withNotices = .ok document ∧
        d.Documents document ∧
        ((withNotices = true →
            d.normalized.length ≤ 10 ^ Numeral.digitLimit) →
          document.IsReadable) := by
  rcases exists_exportedAttributes_of_distinct hPlain.names
      hPlain.distinct with
    ⟨exported, hExported, hFields⟩
  refine
    ⟨_, toJson_of_exportedAttributes hExported,
      ⟨_, rfl, ?_, ?_, ?_⟩, ?_⟩
  · rw [hFields, List.map_map]
    exact hPlain.distinct
  · rw [hFields, List.map_map]
    apply List.map_congr_left
    intro a ha
    rcases hPlain.names a ha with ⟨name, hName⟩
    simp only [Function.comp_apply, Attribute.caption, hName]
    rfl
  · rw [hFields, List.map_map]
    rfl
  · intro hLength
    rcases hPlain.modelType with ⟨key, hKey⟩
    refine .obj ?_ ?_
    · cases withWarnings <;> cases withNotices <;> simp [fieldIf]
    · rw [hKey, hFields, List.forall_mem_append,
        List.forall_mem_append]
      simp only [List.forall_mem_cons]
      refine
        ⟨⟨⟨Json.isReadable_str _, Json.isReadable_str _,
          hPlain.isReadable_attributes, List.forall_mem_nil _⟩,
          ?_⟩, ?_⟩
      · intro f hf
        exact isReadable_of_mem_fieldIf
          (fun _ => hPlain.isReadable_warnings) hf
      · intro f hf
        exact isReadable_of_mem_fieldIf
          (fun hWanted =>
            hPlain.isReadable_notices (hLength hWanted)) hf

end IsPlain

/-
  A decode is exported: with or without messages there is a
  text of its document, and with warnings the document is read
  back from the text. Of notices, the numbers of their places
  must not be too long to be read.
-/
structure IsExported (d : Decoding) : Prop where
  texts :
    ∀ withWarnings withNotices,
      ∃ document,
        d.toText withWarnings withNotices =
            .ok (Json.print .indented document) ∧
          d.Documents document
  documents :
    ∀ withNotices,
      (withNotices = true →
          d.normalized.length ≤ 10 ^ Numeral.digitLimit) →
        ∃ document,
          d.toText true withNotices =
              .ok (Json.print .indented document) ∧
            d.toDocument withNotices = .ok document ∧
            d.Documents document

/- A plain decode is exported. -/
theorem IsPlain.isExported
    (hPlain : d.IsPlain) :
    d.IsExported := by
  constructor
  · intro withWarnings withNotices
    rcases hPlain.exists_document withWarnings withNotices with
      ⟨document, hDocument, hFields, _⟩
    exact ⟨document, toText_of_toJson hDocument, hFields⟩
  · intro withNotices hLength
    rcases hPlain.exists_document true withNotices with
      ⟨document, hDocument, hFields, hReadable⟩
    have hText := toText_of_toJson hDocument
    refine ⟨document, hText, ?_, hFields⟩
    rw [toDocument, hText]
    exact Json.parse_print Json.isReadable_indented
      (hReadable hLength)

end Decoding

------------------------------------------------------------
-- Plain configurations
------------------------------------------------------------

namespace Configuration

/-
  All that a configuration shows are texts, and the categories
  of its grammar have different names.
-/
structure IsPlain (c : Configuration) : Prop where
  key : ∃ s, c.key = .str s
  ids : c.catalog.HasTextIds
  names : c.catalog.HasTextNames
  descriptions : c.catalog.HasTextDescriptions
  rules : ∀ r ∈ c.rules, r.warning.IsPlain
  distinct : (c.captions.map Caption.name).Nodup

instance (c : Configuration) : Decidable c.IsPlain :=
  decidable_of_iff
    ((∃ s, c.key = .str s) ∧ c.catalog.HasTextIds ∧
      c.catalog.HasTextNames ∧ c.catalog.HasTextDescriptions ∧
      (∀ r ∈ c.rules, r.warning.IsPlain) ∧
      (c.captions.map Caption.name).Nodup)
    ⟨fun ⟨hKey, hIds, hNames, hTexts, hRules, hDistinct⟩ =>
        ⟨hKey, hIds, hNames, hTexts, hRules, hDistinct⟩,
      fun h =>
        ⟨h.key, h.ids, h.names, h.descriptions, h.rules,
          h.distinct⟩⟩

variable {c : Configuration} {options : Options}
variable {text : String} {split : Split}
variable {keyed : List (Scalar × Segment)} {d : Decoding}

/- The descriptions of a decode are texts where all are. -/
theorem Steps.hasText
    (hSteps : c.Steps options text split keyed d)
    (hText : c.catalog.HasTextDescriptions) :
    ∀ a ∈ d.attributes, a.HasText := by
  have hFirst :
      ∀ a ∈ keyed.map fun m => c.attributeOf m.1 m.2,
        a.HasText := by
    intro a ha
    rcases List.mem_map.mp ha with ⟨m, _, rfl⟩
    exact Catalog.exists_resolve_description hText m.1 m.2.code
  have hEnhanced := hSteps.attributes
  unfold enhanced at hEnhanced
  split at hEnhanced
  · rcases Outcome.bind_eq_ok_iff.mp hEnhanced with
      ⟨enhancers, _, hRun⟩
    exact Enhancer.hasText_of_runAll hFirst hRun
  · rw [← Outcome.pure_eq_ok_iff.mp hEnhanced]
    exact hFirst

/- The notice about a keyed segment: its category and place. -/
theorem category?_of_noticeOf
    {key : Scalar}
    {s : Segment}
    {n : Notice}
    (h : c.noticeOf key s = some n) :
    n.category? = some key ∧ n.place = s.start := by
  rcases noticeOf_cases c key s with
    ⟨_, hSome⟩ | ⟨_, _, name, position, hSome⟩ | ⟨_, hNone⟩
  · rw [hSome] at h
    cases h
    exact ⟨rfl, rfl⟩
  · rw [hSome] at h
    cases h
    exact ⟨rfl, rfl⟩
  · rw [hNone] at h
    cases h

/-
  A notice of a decode is about a place in the normal form,
  and about no category or one of a keyed segment.
-/
theorem Steps.notice_cases
    (hSteps : c.Steps options text split keyed d)
    {n : Notice}
    (hn : n ∈ d.notices) :
    n.place < d.normalized.length ∧
      (n.category? = none ∨
        ∃ m ∈ keyed, n.category? = some m.1) := by
  have hNormal := hSteps.normalized
  rcases Split.exists_of_ofText_eq_ok hSteps.splits with
    ⟨dashes, _, rfl⟩
  rw [Split.ofNormal_normalized] at hNormal
  rw [hNormal, String.length_ofList]
  rw [hSteps.notices, List.mem_append] at hn
  rcases hn with hn | hn
  · rcases Split.notice_cases hn with
      ⟨_, _, _, _, rfl, hPlace⟩ | ⟨_, rfl, hPlace⟩
    · exact ⟨hPlace, Or.inl rfl⟩
    · exact ⟨hPlace, Or.inl rfl⟩
  · split at hn
    · rcases List.mem_filterMap.mp hn with ⟨m, hm, hNotice⟩
      rcases category?_of_noticeOf hNotice with
        ⟨hCategory, hPlace⟩
      have hSeg := (hSteps.mem_keyed_iff.mp hm).1
      rw [hPlace]
      exact
        ⟨Split.start_lt_length hSeg, Or.inr ⟨m, hm, hCategory⟩⟩
    · cases hn

/- Decodes of plain configurations are plain. -/
theorem IsPlain.isPlain_of_steps
    (hPlain : c.IsPlain)
    (hKnown : ∀ m ∈ keyed, c.catalog.contains m.1 = true)
    (hSteps : c.Steps options text split keyed d) :
    d.IsPlain where
  modelType := by
    rw [hSteps.modelType]
    exact hPlain.key
  names := by
    intro a ha
    exact hPlain.names.exists_name (hSteps.shows hKnown ha)
  distinct := by
    have hSublist :=
      hSteps.captions_sublist fun a ha => hSteps.shows hKnown ha
    have hNames := hSublist.map Caption.name
    rw [List.map_map] at hNames
    exact hPlain.distinct.sublist hNames
  descriptions := hSteps.hasText hPlain.descriptions
  warnings := by
    intro w hw
    have hWarnings := hSteps.warnings
    unfold warningsOf at hWarnings
    split at hWarnings
    · rcases Outcome.bind_eq_ok_iff.mp hWarnings with
        ⟨scope, _, hFound⟩
      rcases Rule.exists_of_mem_warnings hFound hw with
        ⟨r, hr, rfl⟩
      exact hPlain.rules r hr
    · rw [← Outcome.pure_eq_ok_iff.mp hWarnings] at hw
      cases hw
  notices := by
    intro n hn category hCategory
    rcases (hSteps.notice_cases hn).2 with hNone | ⟨m, hm, hSome⟩
    · rw [hNone] at hCategory
      cases hCategory
    · rw [hSome] at hCategory
      cases hCategory
      exact Catalog.exists_of_contains hPlain.ids (hKnown m hm)
  places := by
    intro n hn
    exact (hSteps.notice_cases hn).1

end Configuration

end ModelNumber
