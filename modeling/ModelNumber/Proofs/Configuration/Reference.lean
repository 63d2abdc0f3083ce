import ModelNumber.Proofs.Configuration.Checked
import ModelNumber.Proofs.Segment.Rendering

/-
  The reference string is read twice: by the check, which cuts
  it at the first colon and at hyphens and takes the chunks as
  they are, and by a decode, which brings it into normal form
  and trims what it finds. What a decode finds is what it
  finds in the chunks of the check, one by one. So the two
  agree when all chunks are canonical, and otherwise a decode
  may stumble over a reference string without problems.

  Main declarations:
    * `Part.reread` and `Part.rereadings`
    * `Split.codes_ofNormal_normal`
    * `Configuration.ReadsCleanly`
    * `Configuration.readsCleanly_iff`
    * `Configuration.reference_readsCleanly_iff`
-/

namespace ModelNumber

------------------------------------------------------------
-- The parts of a spelled text
------------------------------------------------------------

section Spelled

variable {dashes : List Char} {uppercase : Bool}

/- A colon comes from each colon and from nothing else. -/
theorem Text.count_colon_respell
    (hColon : ':' ∉ dashes)
    (s : List Char) :
    (s.flatMap (respell dashes uppercase)).count ':' =
      s.count ':' := by
  induction s with
  | nil => rfl
  | cons c s ih =>
      rw [List.flatMap_cons, List.count_append, ih]
      by_cases hc : c = ':'
      · subst hc
        rw [respell_of_mark (by decide) hColon,
          List.count_singleton_self, List.count_cons_self,
          Nat.add_comm]
      · have hNone : ':' ∉ respell dashes uppercase c := by
          intro hMem
          exact hc (eq_of_colon_mem_respell hMem)
        rw [List.count_eq_zero.mpr hNone, List.count_cons_of_ne hc,
          Nat.zero_add]

/- A normal form has as many colons as the text. -/
theorem Text.count_colon_normal
    (hColon : ':' ∉ dashes)
    (s : List Char) :
    (normal dashes uppercase s).count ':' = s.count ':' := by
  have hBlank :
      ∀ {gap : List Char},
        (∀ c ∈ gap, isBlank c = true) → gap.count ':' = 0 := by
    intro gap hGap
    exact List.count_eq_zero.mpr (colon_not_mem_of_isBlank hGap)
  rcases exists_eq_append_trim_append
      (s.flatMap (respell dashes uppercase)) with
    ⟨gap, hGap, hAll⟩
  have hCount :
      (s.flatMap (respell dashes uppercase)).count ':' =
        s.count ':' :=
    count_colon_respell hColon s
  rw [hAll, List.count_append, List.count_append, hBlank hGap,
    hBlank fun c hc => List.mem_takeWhile_imp hc] at hCount
  rw [normal_eq_trim]
  omega

/- Spelling a text spells its parts. -/
theorem Part.text_flatMap_respell
    (hColon : ':' ∉ dashes)
    (part : Part)
    (s : List Char) :
    part.text (s.flatMap (Text.respell dashes uppercase)) =
      (part.text s).flatMap (Text.respell dashes uppercase) := by
  have hNone :
      ∀ {t : List Char},
        ':' ∉ t →
          ':' ∉ t.flatMap (Text.respell dashes uppercase) := by
    intro t ht hMem
    rcases List.mem_flatMap.mp hMem with ⟨c, hc, hSpelled⟩
    rw [Text.eq_of_colon_mem_respell hSpelled] at hc
    exact ht hc
  rcases Text.eq_modelPart_or_append s with
    ⟨hNo, hModel, hFeature⟩ | ⟨feature, hSplit, hFeature⟩
  · rcases Text.parts_of_no_colon (hNone hNo) with
      ⟨hModel', hFeature'⟩
    cases part with
    | model => rw [text, text, hModel, hModel']
    | feature =>
        rw [text, text, hFeature, hFeature']
        rfl
  · have hSpelled :
        s.flatMap (Text.respell dashes uppercase) =
          (Text.modelPart s).flatMap
              (Text.respell dashes uppercase)
            ++ ':' :: feature.flatMap
              (Text.respell dashes uppercase) := by
      conv_lhs => rw [hSplit]
      rw [List.flatMap_append, List.flatMap_cons,
        Text.respell_of_mark (by decide) hColon]
      rfl
    rcases Text.parts_of_colon
        (hNone (Text.colon_not_mem_modelPart s))
        (feature.flatMap (Text.respell dashes uppercase)) with
      ⟨hModel', hFeature'⟩
    rw [hSpelled]
    cases part with
    | model => rw [text, text, hModel']
    | feature =>
        rw [text, text, hFeature, hFeature']
        rfl

end Spelled

------------------------------------------------------------
-- Reading chunk by chunk
------------------------------------------------------------

namespace Part

/- The codes that a decode finds in a chunk by itself. -/
def reread
    (part : Part)
    (chunk : List Char) : List (List Char) :=
  Token.codes part.isSeparator
    (Text.normal Options.usualDashes true chunk)

/- The codes that a decode finds in the chunks of the check. -/
def rereadings
    (part : Part)
    (reference : List Char) : List String :=
  ((part.chunks reference).flatMap part.reread).map String.ofList

/- A chunk is read as its characters are spelled. -/
theorem reread_eq
    (part : Part)
    (chunk : List Char) :
    part.reread chunk =
      Token.codes part.isSeparator
        (chunk.flatMap
          (Text.respell Options.usualDashes true)) := by
  rw [reread, Text.normal_eq_trim,
    Token.codes_trim fun c hc => part.isSeparator_of_isBlank hc]

/- A text is read chunk by chunk. -/
theorem codes_flatMap_respell
    (part : Part)
    (s : List Char) :
    Token.codes part.isSeparator
        (s.flatMap (Text.respell Options.usualDashes true)) =
      ((Text.chunks (· == '-') s).filter (!·.isEmpty)).flatMap
        part.reread := by
  have hHyphen : part.isSeparator '-' = true := by
    cases part <;> rfl
  have hChunk :
      ∀ t : List Char,
        (∀ c ∈ t, (c == '-') = false) →
          Token.codes part.isSeparator
              (t.flatMap
                (Text.respell Options.usualDashes true)) =
            ((Text.chunks (· == '-') t).filter
              (!·.isEmpty)).flatMap part.reread := by
    intro t ht
    rw [Text.chunks_of_uncut ht, ← reread_eq]
    cases t with
    | nil => cases part <;> rfl
    | cons c t => simp
  induction s using Text.cut_induction (· == '-') with
  | hWhole s hs => exact hChunk s hs
  | hCut s c t hs hc ih =>
      have hChunks :
          Text.chunks (· == '-') (s ++ c :: t) =
            Text.chunks (· == '-') s
              ++ Text.chunks (· == '-') t :=
        Text.chunks_append_cons s t hc
      have hSame : c = '-' := beq_iff_eq.mp hc
      subst hSame
      rw [hChunks, List.filter_append, List.flatMap_append,
        List.flatMap_append, List.flatMap_cons,
        Text.respell_hyphen, ← hChunk s hs, ← ih]
      exact Token.codes_append_cons _ _ hHyphen

end Part

/- What a decode finds is what it finds chunk by chunk. -/
theorem Split.codes_ofNormal_normal
    (g : Grammar)
    (reference : List Char)
    (part : Part) :
    (ofNormal g
        (Text.normal Options.usualDashes true reference)).codes
        part =
      part.rereadings reference := by
  rw [codes_ofNormal, Text.normal_eq_trim, Part.codes_text_trim,
    Part.text_flatMap_respell (by decide),
    Part.codes_flatMap_respell]
  rfl

------------------------------------------------------------
-- Clean readings
------------------------------------------------------------

/- The mapped segments of a part whose slots are texts. -/
theorem Part.mapped_segments
    (part : Part)
    {slots : List Json}
    (hSlots : ∀ slot ∈ slots, slotCategory slot = some slot)
    (tokens : List Token) :
    (part.segments slots tokens).filterMap
        (fun seg => seg.category.map fun category =>
          (category, seg)) =
      (slots.zip tokens).map fun p =>
        (p.1, segmentOfToken part (some p.1) p.2) := by
  induction tokens generalizing slots with
  | nil => cases slots <;> rfl
  | cons t tokens ih =>
      cases slots with
      | nil =>
          rw [segments, List.filterMap_cons]
          exact ih hSlots
      | cons slot slots =>
          rw [List.forall_mem_cons] at hSlots
          rw [segments, hSlots.1, List.filterMap_cons]
          exact congrArg (List.cons _) (ih hSlots.2)

namespace Split

/- The mapped segments of a split by a grammar of texts. -/
theorem mapped_ofNormal
    {g : Grammar}
    (hGrammar : g.IsTextual)
    (s : List Char) :
    (ofNormal g s).mapped =
      ((g.modelPart.zip (Part.model.tokens s)).map fun p =>
          (p.1, segmentOfToken .model (some p.1) p.2))
        ++ (g.featurePart.zip (Part.feature.tokens s)).map fun p =>
          (p.1, segmentOfToken .feature (some p.1) p.2) := by
  have hSlots :
      ∀ part : Part, ∀ slot ∈ g.slots part,
        slotCategory slot = some slot := by
    intro part slot hSlot
    exact hGrammar.slotCategory_eq hSlot
  have hModel :=
    Part.model.mapped_segments (hSlots .model)
      (Part.model.tokens s)
  have hFeature :=
    Part.feature.mapped_segments (hSlots .feature)
      (Part.feature.tokens s)
  rw [mapped, ofNormal_segments, List.filterMap_append]
  exact congrArg₂ (· ++ ·) hModel hFeature

/-
  There are no notices about a text with one colon at most and
  no more tokens than slots.
-/
theorem ofNormal_notices_eq_nil_iff
    (g : Grammar)
    (s : List Char) :
    (ofNormal g s).notices = [] ↔
      s.count ':' ≤ 1 ∧
        ∀ part : Part,
          (part.tokens s).length ≤ (g.slots part).length := by
  have hColons : laterColons s = [] ↔ s.count ':' ≤ 1 := by
    refine ⟨?_, laterColons_eq_nil⟩
    intro hNil
    rcases laterColons_cases s with
      ⟨_, hCount⟩ | ⟨place, hOne, _⟩
    · exact hCount
    · rw [hNil] at hOne
      cases hOne
  rw [ofNormal_notices, List.append_eq_nil_iff,
    List.append_eq_nil_iff, hColons, Part.surplus, Part.surplus,
    List.map_eq_nil_iff, List.map_eq_nil_iff,
    List.drop_eq_nil_iff, List.drop_eq_nil_iff]
  constructor
  · rintro ⟨⟨hModel, hCount⟩, hFeature⟩
    refine ⟨hCount, ?_⟩
    intro part
    cases part with
    | model => exact hModel
    | feature => exact hFeature
  · rintro ⟨hCount, hLength⟩
    exact ⟨⟨hLength .model, hCount⟩, hLength .feature⟩

end Split

namespace Configuration

/-
  A split is clean if it fills all categories of the grammar
  in order, with codes that the catalog knows, and there is
  nothing to notice.
-/
structure ReadsCleanly
    (c : Configuration)
    (split : Split) : Prop where
  categories :
    split.mapped.map Prod.fst = c.grammar.categories
  notices : split.notices = []
  known : ∀ m ∈ split.mapped, c.Knows m.1 m.2.code

/- The codes of a part are known if its tokens are, by slots. -/
theorem forall₂_knows_codes_iff
    (c : Configuration)
    (s : List Char)
    (part : Part) :
    List.Forall₂ c.Knows (c.grammar.slots part)
        ((Split.ofNormal c.grammar s).codes part) ↔
      (c.grammar.slots part).length = (part.tokens s).length ∧
        ∀ slot t,
          (slot, t) ∈
              (c.grammar.slots part).zip (part.tokens s) →
            c.Knows slot (String.ofList t.code) := by
  rw [Split.codes_eq_map_tokens, List.forall₂_map_right_iff,
    List.forall₂_iff_zip]

/-
  A split is clean exactly when the text has one colon at most
  and a known code for each slot of both parts.
-/
theorem readsCleanly_iff
    {c : Configuration}
    (hGrammar : c.grammar.IsTextual)
    (s : List Char) :
    c.ReadsCleanly (.ofNormal c.grammar s) ↔
      s.count ':' ≤ 1 ∧
        ∀ part : Part,
          List.Forall₂ c.Knows (c.grammar.slots part)
            ((Split.ofNormal c.grammar s).codes part) := by
  have hMapped := Split.mapped_ofNormal hGrammar s
  constructor
  · intro hClean
    have hNotices :=
      (Split.ofNormal_notices_eq_nil_iff _ s).mp hClean.notices
    have hCategories := hClean.categories
    rw [hMapped] at hCategories
    have hLength := congrArg List.length hCategories
    have hModelLength := hNotices.2 .model
    have hFeatureLength := hNotices.2 .feature
    simp only [List.length_map, List.length_append,
      List.length_zip, Grammar.categories, Grammar.slots]
      at hLength hModelLength hFeatureLength
    refine ⟨hNotices.1, ?_⟩
    intro part
    rw [forall₂_knows_codes_iff]
    constructor
    · cases part <;> simp only [Grammar.slots] <;> omega
    · intro slot t hPair
      refine hClean.known
        (slot, segmentOfToken part (some slot) t) ?_
      rw [hMapped, List.mem_append, List.mem_map, List.mem_map]
      cases part with
      | model => exact Or.inl ⟨_, hPair, rfl⟩
      | feature => exact Or.inr ⟨_, hPair, rfl⟩
  · rintro ⟨hCount, hKnown⟩
    simp only [forall₂_knows_codes_iff] at hKnown
    have hModel := hKnown .model
    have hFeature := hKnown .feature
    refine ⟨?_, ?_, ?_⟩
    · rw [hMapped, List.map_append, List.map_map, List.map_map]
      exact congrArg₂ (· ++ ·)
        (List.map_fst_zip (Nat.le_of_eq hModel.1))
        (List.map_fst_zip (Nat.le_of_eq hFeature.1))
    · refine (Split.ofNormal_notices_eq_nil_iff _ s).mpr
        ⟨hCount, ?_⟩
      intro part
      exact Nat.le_of_eq (hKnown part).1.symm
    · intro m hm
      rw [hMapped, List.mem_append, List.mem_map,
        List.mem_map] at hm
      rcases hm with ⟨p, hp, rfl⟩ | ⟨p, hp, rfl⟩
      · exact hModel.2 p.1 p.2 hp
      · exact hFeature.2 p.1 p.2 hp

end Configuration

------------------------------------------------------------
-- The reference string
------------------------------------------------------------

/- All chunks that the check finds in a text are canonical. -/
def Text.HasCanonicalChunks (reference : List Char) : Prop :=
  ∀ part : Part, ∀ chunk ∈ part.chunks reference,
    ({} : Options).IsCanonical (String.ofList chunk)

instance (reference : List Char) :
    Decidable (Text.HasCanonicalChunks reference) :=
  decidable_of_iff
    ((∀ chunk ∈ Part.model.chunks reference,
        ({} : Options).IsCanonical (String.ofList chunk)) ∧
      ∀ chunk ∈ Part.feature.chunks reference,
        ({} : Options).IsCanonical (String.ofList chunk))
    (by
      constructor
      · rintro ⟨hModel, hFeature⟩ part
        cases part with
        | model => exact hModel
        | feature => exact hFeature
      · intro hCanonical
        exact ⟨hCanonical .model, hCanonical .feature⟩)

namespace Text.HasCanonicalChunks

variable {reference : List Char}

/- Canonical chunks are read as they are. -/
theorem rereadings_eq
    (hCanonical : HasCanonicalChunks reference)
    (part : Part) :
    part.rereadings reference =
      (part.chunks reference).map String.ofList := by
  have hDashes : ({} : Options).dashes = .ok Options.usualDashes :=
    rfl
  have hReread :
      ∀ chunk ∈ part.chunks reference,
        part.reread chunk = [chunk] := by
    intro chunk hChunk
    have hCode := hCanonical part chunk hChunk
    have hNormal := hCode.normal_toList hDashes
    have hTrimmed := hCode.isTrimmed hDashes
    have hUncut := hCode.uncut part
    rw [String.toList_ofList] at hNormal hTrimmed hUncut
    have hNonempty : chunk ≠ [] := by
      rintro rfl
      exact hCode.nonempty rfl
    rw [Part.reread]
    refine (congrArg _ hNormal).trans ?_
    rw [Token.codes_of_uncut hUncut, Text.trim_eq_self hTrimmed,
      if_neg hNonempty]
  rw [Part.rereadings, List.flatMap_congr hReread]
  simp

/- Chunks that are read as they are, are canonical. -/
theorem of_rereadings_eq
    (hAgree :
      ∀ part : Part,
        part.rereadings reference =
          (part.chunks reference).map String.ofList) :
    HasCanonicalChunks reference := by
  have hDashes : ({} : Options).dashes = .ok Options.usualDashes :=
    rfl
  intro part chunk hChunk
  -- The slots do not matter for the codes of a split.
  have hCode :
      String.ofList chunk ∈
        (Split.ofNormal ⟨[], []⟩
          (normal Options.usualDashes true reference)).codes
          part := by
    rw [Split.codes_ofNormal_normal, hAgree part]
    exact List.mem_map_of_mem hChunk
  exact Split.isCanonical_of_mem_codes hDashes
    (Options.settledDashes_usualDashes true) hCode

/- With canonical chunks there is one colon at most. -/
theorem count_colon
    (hCanonical : HasCanonicalChunks reference) :
    reference.count ':' ≤ 1 := by
  rcases eq_modelPart_or_append reference with
    ⟨hColon, _, _⟩ | ⟨feature, hSplit, hFeature⟩
  · rw [List.count_eq_zero.mpr hColon]
    exact Nat.zero_le 1
  · have hColon : ':' ∉ feature := by
      intro hMem
      have hChunks :
          ∃ chunk ∈ chunks (· == '-') feature, ':' ∈ chunk :=
        exists_mem_chunks hMem (by decide)
      rcases hChunks with ⟨chunk, hChunk, hIn⟩
      have hFound : chunk ∈ Part.feature.chunks reference := by
        rw [Part.chunks, Part.text, hFeature]
        refine List.mem_filter.mpr ⟨hChunk, ?_⟩
        cases chunk with
        | nil => cases hIn
        | cons c chunk => rfl
      refine (hCanonical .feature chunk hFound).colon ?_
      rw [String.toList_ofList]
      exact hIn
    rw [hSplit, List.count_append, List.count_cons_self,
      List.count_eq_zero.mpr (colon_not_mem_modelPart reference),
      List.count_eq_zero.mpr hColon]

end Text.HasCanonicalChunks

namespace Configuration

/- A checked grammar names categories by texts. -/
theorem Checked.isTextual
    {c : Configuration}
    (hChecked : c.Checked)
    (hIds : c.catalog.HasTextIds) :
    c.grammar.IsTextual := by
  intro category hCategory
  rcases hChecked.exists_key hCategory with
    ⟨key, rfl, hContains⟩
  rcases Catalog.exists_of_contains hIds hContains with
    ⟨id, rfl⟩
  exact ⟨id, rfl⟩

/-
  How a decode reads the reference string of a configuration
  without problems. It is clean exactly when there is one
  colon at most and what is found in the chunks of the check,
  one by one, is a known code for each slot. It finds the
  chunks themselves exactly when they are canonical, and is
  clean then.
-/
theorem reference_readsCleanly_iff
    {c : Configuration}
    (hCheck : c.check = .ok [])
    (hIds : c.catalog.HasTextIds)
    (hText : c.catalog.HasTextDescriptions) :
    ∃ reference split,
      c.referenceString = .str reference ∧
        Split.ofText {} c.grammar reference = .ok split ∧
        (c.ReadsCleanly split ↔
          reference.toList.count ':' ≤ 1 ∧
            ∀ part : Part,
              List.Forall₂ c.Knows (c.grammar.slots part)
                (part.rereadings reference.toList)) ∧
        ((∀ part : Part,
            split.codes part =
              (part.chunks reference.toList).map
                String.ofList) ↔
          Text.HasCanonicalChunks reference.toList) ∧
        (Text.HasCanonicalChunks reference.toList →
          c.ReadsCleanly split) := by
  have hChecked := check_eq_ok_nil_iff.mp hCheck
  have hDashes : ({} : Options).dashes = .ok Options.usualDashes :=
    rfl
  rcases hChecked.exists_reference hText with
    ⟨reference, hReference, hKnown⟩
  have hClean :=
    readsCleanly_iff (hChecked.isTextual hIds)
      (Text.normal Options.usualDashes true reference.toList)
  rw [Text.count_colon_normal (by decide)] at hClean
  simp only [Split.codes_ofNormal_normal] at hClean
  refine
    ⟨reference, _, hReference,
      Split.ofText_eq_ok hDashes c.grammar reference, hClean,
      ?_, ?_⟩
  · simp only [Split.codes_ofNormal_normal]
    constructor
    · exact Text.HasCanonicalChunks.of_rereadings_eq
    · intro hCanonical part
      exact hCanonical.rereadings_eq part
  · intro hCanonical
    refine hClean.mpr ⟨hCanonical.count_colon, ?_⟩
    intro part
    rw [hCanonical.rereadings_eq part,
      List.forall₂_map_right_iff]
    exact hKnown part

/- The reference string of the RN series is read cleanly. -/
theorem reference_readsCleanly_rn :
    Library.rn.check = .ok [] ∧
      Library.rn.catalog.HasTextIds ∧
      Library.rn.catalog.HasTextDescriptions ∧
      ∃ reference split,
        Library.rn.referenceString = .str reference ∧
          Split.ofText {} Library.rn.grammar reference =
            .ok split ∧
          Text.HasCanonicalChunks reference.toList ∧
          Library.rn.ReadsCleanly split := by
  have hCheck : Library.rn.check = .ok [] := rfl
  have hIds : Library.rn.catalog.HasTextIds := by
    decide +kernel
  have hText : Library.rn.catalog.HasTextDescriptions := by
    decide +kernel
  have hCanonical :
      Text.HasCanonicalChunks
        "RN-025-3-0-E-A-0-G-0-4:A-3-A-0-1".toList := by
    decide +kernel
  rcases reference_readsCleanly_iff hCheck hIds hText with
    ⟨reference, split, hReference, hSplit, _, _, hClean⟩
  cases hReference
  exact
    ⟨hCheck, hIds, hText, _, split, rfl, hSplit, hCanonical,
      hClean hCanonical⟩

/- A model type with sizes only. -/
def ofSizes
    (reference : String)
    (sizes : List String) : Configuration where
  key := "sizes"
  title := "Sizes"
  catalog :=
    { categories :=
        [Category.ofCodes "SIZE" "Size" "SIZE" "model"
          (sizes.map fun size => (size, "Size " ++ size))]
      distinct := List.pairwise_singleton _ _ }
  positions := .ofBounds []
  grammar := .ofNames ["SIZE"] []
  referenceString := reference
  rules := []
  navigation := []
  enhancers := []
  tables := .obj []

/-
  The check accepts a code in small letters, and a decode does
  not find it in the reference string.
-/
theorem check_and_not_readsCleanly_ofSizes :
    (ofSizes "a" ["a"]).check = .ok [] ∧
      (ofSizes "a" ["a"]).catalog.HasTextIds ∧
      (ofSizes "a" ["a"]).catalog.HasTextDescriptions ∧
      ∃ split,
        Split.ofText {} (ofSizes "a" ["a"]).grammar "a" =
            .ok split ∧
          ¬ (ofSizes "a" ["a"]).ReadsCleanly split := by
  have hDashes : ({} : Options).dashes = .ok Options.usualDashes :=
    rfl
  refine ⟨rfl, by decide +kernel, by decide +kernel, _,
    Split.ofText_eq_ok hDashes _ _, ?_⟩
  intro hClean
  have hMapped :
      (Split.ofNormal (ofSizes "a" ["a"]).grammar
          (Text.normal Options.usualDashes true
            "a".toList)).mapped =
        [(.str "SIZE",
          { code := "A"
            part := .model
            start := 0
            stop := 1
            category := some (.str "SIZE") })] :=
    rfl
  have hKnown := hClean.known
  rw [hMapped] at hKnown
  rcases hKnown _ (List.mem_singleton_self _) with
    ⟨key, hKey, hCode⟩
  cases hKey
  revert hCode
  decide +kernel

end Configuration

end ModelNumber
