import ModelNumber.Proofs.Segment.Normal
import ModelNumber.Proofs.Segment.Token
import ModelNumber.Segment.Split

/-
  How the segments of a split come from the tokens of its two
  parts: one segment a token, with the category of its slot,
  and one notice for each token beyond the slots. Together the
  segments cover the normal form.

  Main declarations:
    * `Grammar.IsTextual` and `Grammar.IsDistinct`
    * `Part.text`, `Part.offset` and `Part.tokens`
    * `Split.ofNormal_segments` and `Split.ofNormal_notices`
    * `Split.ofNormal_categories_sublist`
    * `Split.ofPart` and `Split.codes`
    * `Part.getElem?_segments`
    * `Text.SecondColon` and `Split.laterColons_cases`
    * `Split.CoversText` and `Split.coversText_ofNormal`
    * `Split.start_lt_length` and `Split.notice_cases`
-/

namespace ModelNumber

------------------------------------------------------------
-- Grammars
------------------------------------------------------------

/- The slots of a part are among the categories. -/
theorem Grammar.mem_categories_of_mem_slots
    {g : Grammar}
    {part : Part}
    {slot : Json}
    (hSlot : slot ∈ g.slots part) :
    slot ∈ g.categories := by
  rw [Grammar.categories, List.mem_append]
  cases part with
  | model => exact Or.inl hSlot
  | feature => exact Or.inr hSlot

/- The categories of a grammar are texts. -/
def Grammar.IsTextual (g : Grammar) : Prop :=
  ∀ category ∈ g.categories, ∃ name, category = .str name

/- The categories of a grammar are pairwise different. -/
def Grammar.IsDistinct (g : Grammar) : Prop :=
  g.categories.Pairwise fun a b => a.same b = false

instance (g : Grammar) : Decidable g.IsDistinct :=
  inferInstanceAs
    (Decidable (g.categories.Pairwise fun a b => a.same b = false))

/- A slot of a textual grammar is a text. -/
theorem Grammar.IsTextual.exists_eq_str
    {g : Grammar}
    (hg : g.IsTextual)
    {part : Part}
    {slot : Json}
    (hSlot : slot ∈ g.slots part) :
    ∃ name, slot = .str name :=
  hg slot (mem_categories_of_mem_slots hSlot)

/- A text as a slot is a category. -/
theorem Grammar.IsTextual.slotCategory_eq
    {g : Grammar}
    (hg : g.IsTextual)
    {part : Part}
    {slot : Json}
    (hSlot : slot ∈ g.slots part) :
    slotCategory slot = some slot := by
  rcases hg.exists_eq_str hSlot with ⟨name, rfl⟩
  rfl

------------------------------------------------------------
-- The two parts of a text
------------------------------------------------------------

namespace Text

/- There is no colon in a model part. -/
theorem colon_not_mem_modelPart (s : List Char) :
    ':' ∉ modelPart s := by
  intro hColon
  have hKept := List.mem_takeWhile_imp hColon
  simp at hKept

/- There is no colon among blanks. -/
theorem colon_not_mem_of_isBlank
    {s : List Char}
    (hs : ∀ c ∈ s, isBlank c = true) :
    ':' ∉ s := by
  intro hColon
  have hBlank := hs ':' hColon
  revert hBlank
  decide

/- The parts of a text that has a colon. -/
theorem parts_of_colon
    {model : List Char}
    (hModel : ':' ∉ model)
    (feature : List Char) :
    modelPart (model ++ ':' :: feature) = model ∧
      featurePart? (model ++ ':' :: feature) = some feature := by
  have hKeep : ∀ c ∈ model, (c != ':') = true := by
    intro c hc
    rw [bne_iff_ne]
    rintro rfl
    exact hModel hc
  constructor
  · rw [modelPart, List.takeWhile_append_of_pos hKeep]
    simp
  · rw [featurePart?, List.dropWhile_append_of_pos hKeep]
    simp

/- The parts of a text that has no colon. -/
theorem parts_of_no_colon
    {model : List Char}
    (hModel : ':' ∉ model) :
    modelPart model = model ∧ featurePart? model = none := by
  have hKeep : ∀ c ∈ model, (c != ':') = true := by
    intro c hc
    rw [bne_iff_ne]
    rintro rfl
    exact hModel hc
  constructor
  · exact List.takeWhile_eq_self_iff.mpr hKeep
  · rw [featurePart?, List.dropWhile_eq_nil_iff.mpr hKeep]

/- A text is its model part, or has a colon behind it. -/
theorem eq_modelPart_or_append (s : List Char) :
    (':' ∉ s ∧ modelPart s = s ∧ featurePart? s = none) ∨
      ∃ feature,
        s = modelPart s ++ ':' :: feature ∧
          featurePart? s = some feature := by
  cases hDrop : s.dropWhile (· != ':') with
  | nil =>
      have hColon : ':' ∉ s := by
        intro hMem
        have hKept := List.dropWhile_eq_nil_iff.mp hDrop _ hMem
        simp at hKept
      exact Or.inl ⟨hColon, parts_of_no_colon hColon⟩
  | cons c feature =>
      have hHead := List.head?_dropWhile_not (· != ':') s
      rw [hDrop] at hHead
      have hc : c = ':' := by simpa using hHead
      refine Or.inr ⟨feature, ?_, by rw [featurePart?, hDrop]⟩
      rw [← hc, ← hDrop]
      exact List.takeWhile_append_dropWhile.symm

end Text

namespace Part

/- The text of a part, empty where there is no colon. -/
def text : Part → List Char → List Char
| .model, s => Text.modelPart s
| .feature, s => (Text.featurePart? s).getD []

/- Where the text of a part starts. -/
def offset : Part → List Char → Nat
| .model, _ => 0
| .feature, s => (Text.modelPart s).length + 1

/- The tokens of a part. -/
def tokens
    (part : Part)
    (s : List Char) : List Token :=
  Token.scan part.isSeparator (part.offset s) (part.text s)

/- The codes of the tokens of a part. -/
theorem tokens_map_code
    (part : Part)
    (s : List Char) :
    (part.tokens s).map Token.code =
      Token.codes part.isSeparator (part.text s) :=
  Token.scan_map_code _ _

/- The scanner covers the text of each part. -/
theorem covers_tokens
    (part : Part)
    (s : List Char) :
    Token.Covers (part.offset s) (part.text s)
      (part.tokens s) := by
  cases part with
  | model =>
      refine Token.covers_scan ?_ ?_ _
      · intro c hc
        exact Or.inl (by simpa [isSeparator] using hc)
      · intro c hc hCut
        rcases hCut with rfl | rfl
        · rfl
        · exact (Text.colon_not_mem_modelPart s hc).elim
  | feature =>
      refine Token.covers_scan ?_ ?_ _
      · intro c hc
        simpa [isSeparator, Token.IsSeparator] using hc
      · intro c _ hCut
        simpa [isSeparator, Token.IsSeparator] using hCut

/- The text of a part is taken from the text. -/
theorem mem_of_mem_text
    {part : Part}
    {s : List Char}
    {c : Char}
    (hc : c ∈ part.text s) :
    c ∈ s := by
  rcases Text.eq_modelPart_or_append s with
    ⟨_, hModel, hFeature⟩ | ⟨feature, hSplit, hFeature⟩
  · cases part with
    | model => rwa [text, hModel] at hc
    | feature =>
        rw [text, hFeature] at hc
        cases hc
  · rw [hSplit]
    cases part with
    | model => exact List.mem_append_left _ hc
    | feature =>
        rw [text, hFeature] at hc
        exact List.mem_append_right _ (List.mem_cons_of_mem _ hc)

/- A blank separates nothing. -/
theorem isSeparator_of_isBlank
    (part : Part)
    {c : Char}
    (hc : Text.isBlank c = true) :
    part.isSeparator c = false := by
  cases hCut : part.isSeparator c with
  | false => rfl
  | true =>
      have hMark : c = '-' ∨ c = ':' := by
        cases part with
        | model => exact Or.inl (by simpa [isSeparator] using hCut)
        | feature => simpa [isSeparator] using hCut
      rcases hMark with rfl | rfl <;> revert hc <;> decide

/- Trimming a text does not change the codes of its parts. -/
theorem codes_text_trim
    (part : Part)
    (s : List Char) :
    Token.codes part.isSeparator (part.text (Text.trim s)) =
      Token.codes part.isSeparator (part.text s) := by
  rcases Text.exists_eq_append_trim_append s with
    ⟨gap, hGap, hs⟩
  have hLead :
      ∀ c ∈ s.takeWhile Text.isBlank,
        Text.isBlank c = true := by
    intro c hc
    exact List.mem_takeWhile_imp hc
  have hUncut :
      ∀ {blanks : List Char},
        (∀ c ∈ blanks, Text.isBlank c = true) →
          ∀ c ∈ blanks, part.isSeparator c = false := by
    intro blanks hBlanks c hc
    exact part.isSeparator_of_isBlank (hBlanks c hc)
  have hLeadColon := Text.colon_not_mem_of_isBlank hLead
  have hGapColon := Text.colon_not_mem_of_isBlank hGap
  generalize Text.trim s = t at hs
  generalize s.takeWhile Text.isBlank = lead
    at hs hLead hLeadColon
  subst hs
  rcases Text.eq_modelPart_or_append t with
    ⟨hColon, hModel, hFeature⟩ | ⟨feature, hSplit, hFeature⟩
  · have hWhole : ':' ∉ lead ++ t ++ gap := by
      simp [hLeadColon, hColon, hGapColon]
    rcases Text.parts_of_no_colon hWhole with
      ⟨hModel', hFeature'⟩
    cases part with
    | model =>
        simp only [text, hModel, hModel']
        rw [Token.codes_append_blank hGap (hUncut hGap),
          Token.codes_blank_append hLead (hUncut hLead)]
    | feature => simp only [text, hFeature, hFeature']
  · have hColon := Text.colon_not_mem_modelPart t
    have hWhole :
        lead ++ t ++ gap =
          (lead ++ Text.modelPart t) ++ ':' :: (feature ++ gap) := by
      conv_lhs => rw [hSplit]
      simp
    have hFirst : ':' ∉ lead ++ Text.modelPart t := by
      simp [hLeadColon, hColon]
    rcases Text.parts_of_colon hFirst (feature ++ gap) with
      ⟨hModel', hFeature'⟩
    rw [hWhole]
    cases part with
    | model =>
        simp only [text, hModel']
        rw [Token.codes_blank_append hLead (hUncut hLead)]
    | feature =>
        simp only [text, hFeature, hFeature', Option.getD_some]
        rw [Token.codes_append_blank hGap (hUncut hGap)]

end Part

/- The tokens of both parts cover a text. -/
theorem Token.covers_parts (s : List Char) :
    Token.Covers 0 s
      (Part.model.tokens s ++ Part.feature.tokens s) := by
  have hModel := Part.model.covers_tokens s
  have hFeature := Part.feature.covers_tokens s
  rcases Text.eq_modelPart_or_append s with
    ⟨_, hSame, hNone⟩ | ⟨feature, hSplit, hSome⟩
  · have hEmpty : Part.feature.tokens s = [] := by
      simp [Part.tokens, Part.text, hNone, Token.scan,
        Token.scanFrom, Token.Scan.finished]
    rw [hEmpty, List.append_nil]
    simpa [Part.offset, Part.text, hSame] using hModel
  · have hText : Part.feature.text s = feature := by
      simp [Part.text, hSome]
    have hOffset :
        Part.feature.offset s =
          Part.model.offset s + (Part.model.text s).length + 1 := by
      simp [Part.offset, Part.text]
    rw [hOffset] at hFeature
    have hBoth :=
      Token.Covers.append_cons hModel (c := ':') (Or.inr rfl)
        hFeature
    have hWhole :
        Part.model.text s ++ ':' :: Part.feature.text s = s := by
      rw [hText]
      exact hSplit.symm
    rwa [hWhole] at hBoth

------------------------------------------------------------
-- Segments of tokens
------------------------------------------------------------

namespace Segment

/- The token that a segment is made of. -/
def token (s : Segment) : Token where
  start := s.start
  code := s.code.toList

/- A place lies inside a segment. -/
def Holds
    (s : Segment)
    (i : Nat) : Prop :=
  s.start ≤ i ∧ i < s.stop

end Segment

/- The segment of a token is made of that token. -/
theorem segmentOfToken_token
    (part : Part)
    (category : Option Json)
    (t : Token) :
    (segmentOfToken part category t).token = t := by
  simp [Segment.token, segmentOfToken]

/- The segment of a token stops where the token does. -/
theorem segmentOfToken_stop
    (part : Part)
    (category : Option Json)
    (t : Token) :
    (segmentOfToken part category t).stop =
      (segmentOfToken part category t).token.stop := by
  rw [segmentOfToken_token]
  rfl

namespace Part

/- Each token has the category of the slot with its number. -/
theorem segments_eq_mapIdx
    (part : Part)
    (slots : List Json)
    (tokens : List Token) :
    part.segments slots tokens =
      tokens.mapIdx fun i t =>
        segmentOfToken part (slots[i]?.bind slotCategory) t := by
  induction tokens generalizing slots with
  | nil => cases slots <;> rfl
  | cons t tokens ih =>
      cases slots with
      | nil => simp [segments, ih, List.mapIdx_cons]
      | cons slot slots =>
          simp [segments, ih, List.mapIdx_cons]

/- The segment with some number comes from that token. -/
theorem getElem?_segments
    (part : Part)
    (slots : List Json)
    (tokens : List Token)
    (i : Nat) :
    (part.segments slots tokens)[i]? =
      tokens[i]?.map
        (segmentOfToken part
          (slots[i]?.bind slotCategory)) := by
  rw [segments_eq_mapIdx, List.getElem?_mapIdx]

/- A segment of a part is made of one of its tokens. -/
theorem exists_token_of_mem_segments
    {part : Part}
    {slots : List Json}
    {tokens : List Token}
    {s : Segment}
    (hs : s ∈ part.segments slots tokens) :
    ∃ category, ∃ t ∈ tokens,
      s = segmentOfToken part category t := by
  rw [segments_eq_mapIdx, List.mem_mapIdx] at hs
  rcases hs with ⟨i, hi, rfl⟩
  exact ⟨_, tokens[i], List.getElem_mem hi, rfl⟩

/- The tokens of the segments of a part. -/
theorem segments_map_token
    (part : Part)
    (slots : List Json)
    (tokens : List Token) :
    (part.segments slots tokens).map Segment.token = tokens := by
  induction tokens generalizing slots with
  | nil => cases slots <;> rfl
  | cons t tokens ih =>
      cases slots <;>
        simp [segments, ih, segmentOfToken_token]

/- The codes of the segments of a part. -/
theorem segments_map_code
    (part : Part)
    (slots : List Json)
    (tokens : List Token) :
    (part.segments slots tokens).map Segment.code =
      tokens.map fun t => String.ofList t.code := by
  induction tokens generalizing slots with
  | nil => cases slots <;> rfl
  | cons t tokens ih =>
      cases slots <;> simp [segments, ih, segmentOfToken]

end Part

/- A slot that is a category is that category. -/
theorem eq_of_slotCategory_eq_some
    {slot category : Json}
    (h : slotCategory slot = some category) :
    slot = category := by
  unfold slotCategory at h
  split at h
  · cases h
  · exact Option.some.inj h

/- The categories of the segments of a part are among its slots. -/
theorem Part.categories_sublist
    (part : Part)
    (slots : List Json)
    (tokens : List Token) :
    ((part.segments slots tokens).filterMap
      Segment.category).Sublist slots := by
  induction tokens generalizing slots with
  | nil => cases slots <;> exact List.nil_sublist _
  | cons t tokens ih =>
      cases slots with
      | nil => exact ih []
      | cons slot slots =>
          rw [segments, List.filterMap_cons]
          cases hSlot : slotCategory slot with
          | none => exact (ih slots).cons slot
          | some category =>
              rw [eq_of_slotCategory_eq_some hSlot]
              exact (ih slots).cons_cons category

------------------------------------------------------------
-- Splits
------------------------------------------------------------

namespace Split

/- The segments of one part. -/
def ofPart
    (split : Split)
    (part : Part) : List Segment :=
  split.segments.filter (·.part = part)

/- The codes of one part. -/
def codes
    (split : Split)
    (part : Part) : List String :=
  (split.ofPart part).map Segment.code

/- A split has the segments of the model part first. -/
theorem ofNormal_segments
    (g : Grammar)
    (s : List Char) :
    (ofNormal g s).segments =
      Part.model.segments g.modelPart (Part.model.tokens s)
        ++ Part.feature.segments g.featurePart
          (Part.feature.tokens s) := by
  unfold ofNormal Part.tokens
  cases hFeature : Text.featurePart? s with
  | none =>
      simp [Part.text, hFeature, Token.scan, Token.scanFrom,
        Token.Scan.finished, Part.offset, Part.segments]
  | some feature =>
      simp [Part.text, hFeature, Part.offset]

/- The notice about a second colon in a text, if any. -/
def laterColons (s : List Char) : List Notice :=
  laterColon (Part.feature.offset s) (Part.feature.text s)

/- The categories of a split are among those of the grammar. -/
theorem ofNormal_categories_sublist
    (g : Grammar)
    (s : List Char) :
    ((ofNormal g s).segments.filterMap
      Segment.category).Sublist g.categories := by
  rw [ofNormal_segments, List.filterMap_append]
  exact
    (Part.model.categories_sublist _ _).append
      (Part.feature.categories_sublist _ _)

/- The category of a segment is one of the grammar. -/
theorem mem_categories_of_mem_segments
    {g : Grammar}
    {s : List Char}
    {seg : Segment}
    (hSeg : seg ∈ (ofNormal g s).segments)
    {category : Json}
    (hCategory : seg.category = some category) :
    category ∈ g.categories := by
  refine (ofNormal_categories_sublist g s).subset ?_
  exact List.mem_filterMap.mpr ⟨seg, hSeg, hCategory⟩

/- A split has the notices in the order of the text. -/
theorem ofNormal_notices
    (g : Grammar)
    (s : List Char) :
    (ofNormal g s).notices =
      Part.model.surplus g.modelPart (Part.model.tokens s)
        ++ laterColons s
        ++ Part.feature.surplus g.featurePart
          (Part.feature.tokens s) := by
  unfold ofNormal Part.tokens laterColons
  cases hFeature : Text.featurePart? s with
  | none =>
      simp [Part.text, hFeature, Token.scan, Token.scanFrom,
        Token.Scan.finished, Part.offset, Part.surplus,
        laterColon]
  | some feature =>
      simp [Part.text, hFeature, Part.offset]

@[simp]
theorem ofNormal_normalized
    (g : Grammar)
    (s : List Char) :
    (ofNormal g s).normalized = String.ofList s := by
  unfold ofNormal
  cases Text.featurePart? s <;> rfl

/- The segments of one part are those of its tokens. -/
theorem ofPart_ofNormal
    (g : Grammar)
    (s : List Char)
    (part : Part) :
    (ofNormal g s).ofPart part =
      part.segments (g.slots part) (part.tokens s) := by
  have hSame :
      ∀ {p : Part} {slots : List Json} {tokens : List Token},
        ∀ seg ∈ p.segments slots tokens, seg.part = p := by
    intro p slots tokens seg hSeg
    rcases Part.exists_token_of_mem_segments hSeg with
      ⟨_, _, _, rfl⟩
    rfl
  rw [ofPart, ofNormal_segments, List.filter_append]
  cases part with
  | model =>
      rw [List.filter_eq_self.mpr, List.filter_eq_nil_iff.mpr,
        List.append_nil]
      · rfl
      · intro seg hSeg
        rw [hSame seg hSeg]
        decide
      · intro seg hSeg
        rw [hSame seg hSeg]
        decide
  | feature =>
      rw [List.filter_eq_nil_iff.mpr, List.filter_eq_self.mpr,
        List.nil_append]
      · rfl
      · intro seg hSeg
        rw [hSame seg hSeg]
        decide
      · intro seg hSeg
        rw [hSame seg hSeg]
        decide

/- The codes of one part are the trimmed chunks of its text. -/
theorem codes_ofNormal
    (g : Grammar)
    (s : List Char)
    (part : Part) :
    (ofNormal g s).codes part =
      (Token.codes part.isSeparator (part.text s)).map
        String.ofList := by
  rw [codes, ofPart_ofNormal, Part.segments_map_code,
    ← Part.tokens_map_code, List.map_map]
  rfl

/- A split is that of the normal form of its text. -/
theorem ofText_eq_ok
    {options : Options}
    {dashes : List Char}
    (hDashes : options.dashes = .ok dashes)
    (g : Grammar)
    (text : String) :
    ofText options g text =
      .ok (ofNormal g
        (Text.normal dashes options.uppercase text.toList)) := by
  rw [ofText, Options.normalize_eq_ok hDashes]
  change
    Except.ok (ofNormal g (String.ofList _).toList) = _
  rw [String.toList_ofList]

/- A split of a text needs single dashes. -/
theorem exists_of_ofText_eq_ok
    {options : Options}
    {g : Grammar}
    {text : String}
    {split : Split}
    (hSplit : ofText options g text = .ok split) :
    ∃ dashes,
      options.dashes = .ok dashes ∧
        split = ofNormal g
          (Text.normal dashes options.uppercase
            text.toList) := by
  cases hDashes : options.dashes with
  | error d =>
      rw [ofText, Options.normalize, hDashes] at hSplit
      cases hSplit
  | ok dashes =>
      rw [ofText_eq_ok hDashes] at hSplit
      cases hSplit
      exact ⟨dashes, rfl, rfl⟩

end Split

------------------------------------------------------------
-- The second colon
------------------------------------------------------------

namespace Text

/- The second colon of a text stands at some place. -/
def SecondColon
    (s : List Char)
    (place : Nat) : Prop :=
  ∃ first second rest,
    s = first ++ ':' :: (second ++ ':' :: rest) ∧
      ':' ∉ first ∧ ':' ∉ second ∧
      place = first.length + 1 + second.length

/- There is a colon where the second colon stands. -/
theorem SecondColon.getElem?_eq
    {s : List Char}
    {place : Nat}
    (h : SecondColon s place) :
    s[place]? = some ':' := by
  rcases h with ⟨first, second, rest, rfl, _, _, rfl⟩
  have hShift :
      first.length + 1 + second.length - first.length =
        second.length + 1 := by
    omega
  rw [List.getElem?_append_right (by omega), hShift,
    List.getElem?_cons_succ,
    List.getElem?_append_right (Nat.le_refl _), Nat.sub_self]
  rfl

end Text

namespace Split

/- A colon is not found where there is none. -/
theorem findIdx?_colon_eq_none
    {s : List Char}
    (hs : ':' ∉ s) :
    s.findIdx? (· == ':') = none := by
  rw [List.findIdx?_eq_none_iff]
  intro c hc
  rw [beq_eq_false_iff_ne]
  rintro rfl
  exact hs hc

/- Without a colon there is nothing to notice. -/
theorem laterColon_of_no_colon
    {s : List Char}
    (hs : ':' ∉ s)
    (offset : Nat) :
    laterColon offset s = [] := by
  rw [laterColon, findIdx?_colon_eq_none hs]

/- The first colon is noticed at its place. -/
theorem laterColon_of_colon
    {s : List Char}
    (hs : ':' ∉ s)
    (t : List Char)
    (offset : Nat) :
    laterColon offset (s ++ ':' :: t) =
      [.malformedSeparator (offset + s.length)] := by
  have hSome :
      (s ++ ':' :: t).findIdx? (· == ':') = some s.length := by
    rw [List.findIdx?_append, findIdx?_colon_eq_none hs]
    simp [List.findIdx?_cons]
  rw [laterColon, hSome]

/- The second colon is noticed, and no other one. -/
theorem laterColons_cases (s : List Char) :
    (laterColons s = [] ∧ s.count ':' ≤ 1) ∨
      ∃ place,
        laterColons s = [.malformedSeparator place] ∧
          Text.SecondColon s place := by
  unfold laterColons
  rcases Text.eq_modelPart_or_append s with
    ⟨hColon, _, hNone⟩ | ⟨feature, hSplit, hSome⟩
  · left
    rw [List.count_eq_zero.mpr hColon]
    simp [Part.text, hNone, laterColon]
  · have hModel := Text.colon_not_mem_modelPart s
    have hText : Part.feature.text s = feature := by
      rw [Part.text, hSome]
      rfl
    rw [hText]
    rcases Text.eq_modelPart_or_append feature with
      ⟨hColon, _, _⟩ | ⟨rest, hFeature, _⟩
    · left
      refine ⟨laterColon_of_no_colon hColon _, ?_⟩
      rw [hSplit, List.count_append, List.count_cons_self,
        List.count_eq_zero.mpr hModel,
        List.count_eq_zero.mpr hColon]
    · right
      have hSecond := Text.colon_not_mem_modelPart feature
      refine ⟨_, ?_, Text.modelPart s, Text.modelPart feature,
        rest, ?_, hModel, hSecond, rfl⟩
      · conv_lhs => rw [hFeature]
        exact laterColon_of_colon hSecond rest _
      · rw [← hFeature]
        exact hSplit

/- With one colon at most there is nothing to notice. -/
theorem laterColons_eq_nil
    {s : List Char}
    (hColon : s.count ':' ≤ 1) :
    laterColons s = [] := by
  rcases laterColons_cases s with ⟨hNil, _⟩ | ⟨place, _, hSecond⟩
  · exact hNil
  · rcases hSecond with ⟨first, second, rest, rfl, _, _, _⟩
    simp only [List.count_append, List.count_cons_self] at hColon
    omega

------------------------------------------------------------
-- What a split covers
------------------------------------------------------------

/-
  The segments of a split cover its normal form. They stand in
  it from left to right, each where it says, and outside of
  them there are only separators and blanks.
-/
structure CoversText (split : Split) : Prop where
  nonempty : ∀ s ∈ split.segments, s.start < s.stop
  inside :
    ∀ s ∈ split.segments, s.stop ≤ split.normalized.length
  ordered :
    split.segments.Pairwise fun s t => s.stop < t.start
  slice :
    ∀ s ∈ split.segments,
      Text.slice split.normalized.toList s.start s.stop =
        s.code.toList
  gaps :
    ∀ i c,
      split.normalized.toList[i]? = some c →
        (∀ s ∈ split.segments, ¬ s.Holds i) →
          c = '-' ∨ c = ':' ∨ Text.isBlank c = true
  uncut :
    ∀ i c,
      split.normalized.toList[i]? = some c →
        ∀ s ∈ split.segments, s.Holds i → c ≠ '-' ∧ c ≠ ':'

/- The segments of a split start at different places. -/
theorem CoversText.starts
    {split : Split}
    (hCovers : split.CoversText) :
    split.segments.Pairwise fun s t => s.start ≠ t.start := by
  refine List.Pairwise.imp_of_mem ?_ hCovers.ordered
  intro s t hs _ hOrder
  have hNonempty := hCovers.nonempty s hs
  omega

/- The segments of a split are the tokens of both parts. -/
theorem ofNormal_segments_map_token
    (g : Grammar)
    (s : List Char) :
    (ofNormal g s).segments.map Segment.token =
      Part.model.tokens s ++ Part.feature.tokens s := by
  rw [ofNormal_segments, List.map_append,
    Part.segments_map_token, Part.segments_map_token]

/- A segment of a split is a token, and stops where it does. -/
theorem token_of_mem_segments
    {g : Grammar}
    {s : List Char}
    {seg : Segment}
    (hSeg : seg ∈ (ofNormal g s).segments) :
    seg.token ∈ Part.model.tokens s ++ Part.feature.tokens s ∧
      seg.stop = seg.token.stop := by
  constructor
  · rw [← ofNormal_segments_map_token g]
    exact List.mem_map_of_mem hSeg
  · rw [ofNormal_segments, List.mem_append] at hSeg
    rcases hSeg with hSeg | hSeg <;>
      rcases Part.exists_token_of_mem_segments hSeg with
        ⟨category, t, _, rfl⟩ <;>
      exact segmentOfToken_stop _ category t

/- The segments of a split cover its normal form. -/
theorem coversText_ofNormal
    (g : Grammar)
    (s : List Char) :
    (ofNormal g s).CoversText := by
  have hCovers := Token.covers_parts s
  have hHolds :
      ∀ seg ∈ (ofNormal g s).segments, ∀ i,
        seg.Holds i ↔ seg.token.Holds i := by
    intro seg hSeg i
    rw [Segment.Holds, (token_of_mem_segments hSeg).2]
    rfl
  refine ⟨?_, ?_, ?_, ?_, ?_, ?_⟩
  · intro seg hSeg
    rcases token_of_mem_segments hSeg with ⟨hToken, hStop⟩
    rw [hStop]
    exact hCovers.start_lt_stop hToken
  · intro seg hSeg
    rcases token_of_mem_segments hSeg with ⟨hToken, hStop⟩
    have hBounds := (hCovers.bounds hToken).2
    rw [Nat.zero_add] at hBounds
    rwa [hStop, ofNormal_normalized, String.length_ofList]
  · have hOrdered := hCovers.ordered
    rw [← ofNormal_segments_map_token g,
      List.pairwise_map] at hOrdered
    refine List.Pairwise.imp_of_mem ?_ hOrdered
    intro a b ha _ hab
    rw [(token_of_mem_segments ha).2]
    exact hab
  · intro seg hSeg
    rcases token_of_mem_segments hSeg with ⟨hToken, hStop⟩
    rw [ofNormal_normalized, String.toList_ofList, hStop]
    exact hCovers.slice_eq hToken
  · intro i c hc hOutside
    rw [ofNormal_normalized, String.toList_ofList] at hc
    have hFree :
        ∀ t ∈ Part.model.tokens s ++ Part.feature.tokens s,
          ¬ t.Holds (0 + i) := by
      intro t ht hIn
      rw [← ofNormal_segments_map_token g] at ht
      rcases List.mem_map.mp ht with ⟨seg, hSeg, rfl⟩
      rw [Nat.zero_add] at hIn
      exact hOutside seg hSeg ((hHolds seg hSeg i).mpr hIn)
    rcases hCovers.gaps i c hc hFree with
      (hHyphen | hColon) | hBlank
    · exact Or.inl hHyphen
    · exact Or.inr (Or.inl hColon)
    · exact Or.inr (Or.inr hBlank)
  · intro i c hc seg hSeg hIn
    rw [ofNormal_normalized, String.toList_ofList] at hc
    rw [hHolds seg hSeg] at hIn
    have hUncut :=
      hCovers.not_isSeparator_of_holds
        (token_of_mem_segments hSeg).1 hc hIn
    rwa [Token.IsSeparator, not_or] at hUncut

/- A segment of a split ends inside of the normal form. -/
theorem stop_le_length
    {g : Grammar}
    {s : List Char}
    {seg : Segment}
    (hSeg : seg ∈ (ofNormal g s).segments) :
    seg.stop ≤ s.length := by
  have hInside := (coversText_ofNormal g s).inside seg hSeg
  rwa [ofNormal_normalized, String.length_ofList] at hInside

/- A segment of a split starts inside of the normal form. -/
theorem start_lt_length
    {g : Grammar}
    {s : List Char}
    {seg : Segment}
    (hSeg : seg ∈ (ofNormal g s).segments) :
    seg.start < s.length :=
  Nat.lt_of_lt_of_le
    ((coversText_ofNormal g s).nonempty seg hSeg)
    (stop_le_length hSeg)

/-
  A notice of a split is about a surplus token or a later
  colon, at a place in the normal form.
-/
theorem notice_cases
    {g : Grammar}
    {s : List Char}
    {n : Notice}
    (hn : n ∈ (ofNormal g s).notices) :
    (∃ part code start expected,
        n = .unrecognizedSegment part code start expected ∧
          start < s.length) ∨
      ∃ place, n = .malformedSeparator place ∧ place < s.length := by
  have hToken :
      ∀ t ∈ Part.model.tokens s ++ Part.feature.tokens s,
        t.start < s.length := by
    intro t ht
    rw [← ofNormal_segments_map_token g] at ht
    rcases List.mem_map.mp ht with ⟨seg, hSeg, rfl⟩
    exact start_lt_length hSeg
  rw [ofNormal_notices, List.mem_append, List.mem_append] at hn
  rcases hn with (hn | hn) | hn
  · rcases List.mem_map.mp hn with ⟨t, ht, rfl⟩
    have hStart :=
      hToken t (List.mem_append_left _ (List.mem_of_mem_drop ht))
    exact Or.inl ⟨_, _, _, _, rfl, hStart⟩
  · rcases laterColons_cases s with
      ⟨hNil, _⟩ | ⟨place, hOne, hSecond⟩
    · rw [hNil] at hn
      cases hn
    · rw [hOne, List.mem_singleton] at hn
      rcases List.getElem?_eq_some_iff.mp hSecond.getElem?_eq with
        ⟨hPlace, _⟩
      exact Or.inr ⟨place, hn, hPlace⟩
  · rcases List.mem_map.mp hn with ⟨t, ht, rfl⟩
    have hStart :=
      hToken t (List.mem_append_right _ (List.mem_of_mem_drop ht))
    exact Or.inl ⟨_, _, _, _, rfl, hStart⟩

end Split

end ModelNumber
