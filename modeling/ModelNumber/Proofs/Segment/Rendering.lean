import ModelNumber.Library.RN
import ModelNumber.Proofs.Segment.Split

/-
  Writing a model number and splitting it undo each other.
  Codes that are canonical are found again, part by part and
  in order, when they are joined and split. And whatever was
  typed, its codes are canonical, so that a number written
  from them is split in the same way.

  Main declarations:
    * `Text.rendered`
    * `Options.IsCanonical`
    * `Segment.entry` and `Split.ofNormal_entries`
    * `Split.codes_rendered`
    * `Split.isCanonical_of_mem_codes`
    * `Split.split_rendered_and_rendered_split`
-/

namespace ModelNumber

------------------------------------------------------------
-- Entries
------------------------------------------------------------

/- What a segment says, wherever it stands. -/
def Segment.entry (s : Segment) : String × Part × Json :=
  (s.code, s.part, Json.optional s.category)

namespace Part

/- What the codes of a part say, slot by slot. -/
def entries
    (part : Part)
    (slots : List Json)
    (codes : List String) : List (String × Part × Json) :=
  codes.mapIdx fun i code =>
    (code, part, Json.optional slots[i]?)

/- An absent category is the absent value. -/
theorem optional_bind_slotCategory (slot : Option Json) :
    Json.optional (slot.bind slotCategory) =
      Json.optional slot := by
  cases slot with
  | none => rfl
  | some v =>
      rw [Option.bind_some]
      unfold slotCategory
      split <;> rfl

/- The segments of a part say what its codes do. -/
theorem segments_map_entry
    (part : Part)
    (slots : List Json)
    (tokens : List Token) :
    (part.segments slots tokens).map Segment.entry =
      part.entries slots
        (tokens.map fun t => String.ofList t.code) := by
  apply List.ext_getElem?
  intro i
  rw [List.getElem?_map, getElem?_segments, entries,
    List.getElem?_mapIdx, List.getElem?_map]
  cases tokens[i]? with
  | none => rfl
  | some t =>
      simp [Segment.entry, segmentOfToken,
        optional_bind_slotCategory]

/- The notices about surplus codes. -/
theorem surplus_map
    (part : Part)
    (slots : List Json)
    (tokens : List Token) :
    (part.surplus slots tokens).map
        (fun n => (n.code, n.segment?)) =
      ((tokens.map fun t => String.ofList t.code).drop
        slots.length).map
        fun code => ("UNRECOGNIZED_SEGMENT", some code) := by
  rw [surplus, List.map_map, ← List.map_drop, List.map_map]
  rfl

end Part

namespace Split

/- The codes of a part are those of its tokens. -/
theorem codes_eq_map_tokens
    (g : Grammar)
    (s : List Char)
    (part : Part) :
    (ofNormal g s).codes part =
      (part.tokens s).map fun t => String.ofList t.code := by
  rw [codes, ofPart_ofNormal, Part.segments_map_code]

/- A split says what the codes of its parts do. -/
theorem ofNormal_entries
    (g : Grammar)
    (s : List Char) :
    (ofNormal g s).segments.map Segment.entry =
      Part.model.entries g.modelPart
          ((ofNormal g s).codes .model)
        ++ Part.feature.entries g.featurePart
          ((ofNormal g s).codes .feature) := by
  rw [codes_eq_map_tokens, codes_eq_map_tokens,
    ofNormal_segments, List.map_append,
    Part.segments_map_entry, Part.segments_map_entry]

/- With one colon at most, all notices are about surplus codes. -/
theorem ofNormal_notices_map
    (g : Grammar)
    {s : List Char}
    (hColon : s.count ':' ≤ 1) :
    (ofNormal g s).notices.map (fun n => (n.code, n.segment?)) =
      (((ofNormal g s).codes .model).drop g.modelPart.length
        ++ ((ofNormal g s).codes .feature).drop
          g.featurePart.length).map
        fun code => ("UNRECOGNIZED_SEGMENT", some code) := by
  rw [ofNormal_notices, laterColons_eq_nil hColon,
    List.append_nil, List.map_append, Part.surplus_map,
    Part.surplus_map, codes_eq_map_tokens, codes_eq_map_tokens,
    List.map_append]

end Split

------------------------------------------------------------
-- Writing numbers
------------------------------------------------------------

/- The number with the given codes in its two parts. -/
def Text.rendered (model feature : List String) : String :=
  "-".intercalate model
    ++ if feature.isEmpty then "" else
      ":" ++ "-".intercalate feature

namespace Text

/- Codes joined by hyphens. -/
def joined (codes : List String) : List Char :=
  ['-'].intercalate (codes.map String.toList)

/- A character of joined codes is a hyphen or in a code. -/
theorem mem_joined_cases
    {codes : List String}
    {c : Char}
    (hc : c ∈ joined codes) :
    c = '-' ∨ ∃ code ∈ codes, c ∈ code.toList := by
  induction codes with
  | nil => cases hc
  | cons code codes ih =>
      cases codes with
      | nil =>
          refine Or.inr ⟨code, List.mem_singleton_self _, ?_⟩
          simpa [joined] using hc
      | cons next codes =>
          simp only [joined, List.map_cons,
            List.intercalate_cons_cons, List.mem_append,
            List.mem_singleton] at hc
          rcases hc with (hc | hc) | hc
          · exact Or.inr ⟨code, List.mem_cons_self, hc⟩
          · exact Or.inl hc
          · rcases ih hc with hHyphen | ⟨other, hOther, hIn⟩
            · exact Or.inl hHyphen
            · exact Or.inr
                ⟨other, List.mem_cons_of_mem _ hOther, hIn⟩

/- Joined codes are spelled as the codes are. -/
theorem flatMap_joined
    {spell : Char → List Char}
    (hHyphen : spell '-' = ['-'])
    {codes : List String}
    (hCodes :
      ∀ code ∈ codes, code.toList.flatMap spell = code.toList) :
    (joined codes).flatMap spell = joined codes := by
  induction codes with
  | nil => rfl
  | cons code codes ih =>
      rw [List.forall_mem_cons] at hCodes
      cases codes with
      | nil => simpa [joined] using hCodes.1
      | cons next codes =>
          have hRest := ih hCodes.2
          simp only [joined, List.map_cons,
            List.intercalate_cons_cons, List.flatMap_append,
            List.flatMap_singleton] at hRest ⊢
          rw [hCodes.1, hHyphen, hRest]

/- The characters of a rendered number. -/
theorem toList_rendered (model feature : List String) :
    (rendered model feature).toList =
      joined model
        ++ if feature = [] then [] else ':' :: joined feature := by
  have hJoin :
      ∀ codes : List String,
        ("-".intercalate codes).toList = joined codes := by
    intro codes
    rw [String.toList_intercalate]
    rfl
  cases feature with
  | nil => simp [rendered, hJoin]
  | cons code feature => simp [rendered, hJoin]

section Parts

variable {model feature : List String}

/- The text of each part of a rendered number. -/
theorem text_rendered
    (feature : List String)
    (hModel : ∀ code ∈ model, ':' ∉ code.toList) :
    Part.model.text (rendered model feature).toList =
        joined model ∧
      Part.feature.text (rendered model feature).toList =
        joined feature := by
  have hColon : ':' ∉ joined model := by
    intro hMem
    rcases mem_joined_cases hMem with
      hHyphen | ⟨code, hCode, hIn⟩
    · cases hHyphen
    · exact hModel code hCode hIn
  rw [toList_rendered]
  split
  · rename_i hEmpty
    rcases parts_of_no_colon hColon with ⟨hFirst, hSecond⟩
    rw [List.append_nil, hEmpty]
    exact ⟨hFirst, by rw [Part.text, hSecond]; rfl⟩
  · rcases parts_of_colon hColon (joined feature) with
      ⟨hFirst, hSecond⟩
    exact ⟨hFirst, by rw [Part.text, hSecond]; rfl⟩

/- A rendered number has one colon at most. -/
theorem count_colon_rendered
    (hModel : ∀ code ∈ model, ':' ∉ code.toList)
    (hFeature : ∀ code ∈ feature, ':' ∉ code.toList) :
    (rendered model feature).toList.count ':' ≤ 1 := by
  have hNone :
      ∀ {codes : List String},
        (∀ code ∈ codes, ':' ∉ code.toList) →
          (joined codes).count ':' = 0 := by
    intro codes hCodes
    rw [List.count_eq_zero]
    intro hMem
    rcases mem_joined_cases hMem with
      hHyphen | ⟨code, hCode, hIn⟩
    · cases hHyphen
    · exact hCodes code hCode hIn
  rw [toList_rendered, List.count_append, hNone hModel]
  split
  · simp
  · rw [List.count_cons_self, hNone hFeature]

end Parts

end Text

------------------------------------------------------------
-- Canonical codes
------------------------------------------------------------

/-
  A code is canonical if it is not empty, holds no separator,
  and is its own normal form.
-/
structure Options.IsCanonical
    (options : Options)
    (code : String) : Prop where
  nonempty : code ≠ ""
  hyphen : '-' ∉ code.toList
  colon : ':' ∉ code.toList
  normal : options.normalize code = .ok code

namespace Options.IsCanonical

/- It can be tested whether a code is canonical. -/
instance
    (options : Options)
    (code : String) :
    Decidable (options.IsCanonical code) :=
  decidable_of_iff
    (code ≠ "" ∧ '-' ∉ code.toList ∧ ':' ∉ code.toList ∧
      (options.normalize code).toOption = some code)
    (by
      constructor
      · rintro ⟨hNonempty, hHyphen, hColon, hNormal⟩
        refine ⟨hNonempty, hHyphen, hColon, ?_⟩
        cases hResult : options.normalize code with
        | error d => rw [hResult] at hNormal; cases hNormal
        | ok s => rw [hResult] at hNormal; cases hNormal; rfl
      · intro hCode
        refine
          ⟨hCode.nonempty, hCode.hyphen, hCode.colon, ?_⟩
        rw [hCode.normal]
        rfl)

variable {options : Options} {dashes : List Char} {code : String}

/- The normal form of the characters of a canonical code. -/
theorem normal_toList
    (hCode : options.IsCanonical code)
    (hDashes : options.dashes = .ok dashes) :
    Text.normal dashes options.uppercase code.toList =
      code.toList := by
  have hNormal := hCode.normal
  rw [Options.normalize_eq_ok hDashes, Except.ok.injEq] at hNormal
  conv_rhs => rw [← hNormal]
  rw [String.toList_ofList]

/- A canonical code is spelled as it is. -/
theorem flatMap_respell
    (hCode : options.IsCanonical code)
    (hDashes : options.dashes = .ok dashes) :
    code.toList.flatMap
        (Text.respell dashes options.uppercase) =
      code.toList :=
  Text.flatMap_respell_of_normal_eq_self
    (hCode.normal_toList hDashes)

/- A canonical code is trimmed. -/
theorem isTrimmed
    (hCode : options.IsCanonical code)
    (hDashes : options.dashes = .ok dashes) :
    Text.IsTrimmed code.toList := by
  have hNormal := hCode.normal_toList hDashes
  rw [Text.normal_eq_trim] at hNormal
  rw [← hNormal]
  exact Text.isTrimmed_trim _

/- No separator of any part is in a canonical code. -/
theorem uncut
    (hCode : options.IsCanonical code)
    (part : Part) :
    ∀ c ∈ code.toList, part.isSeparator c = false := by
  intro c hc
  have hHyphen : c ≠ '-' := fun h => hCode.hyphen (h ▸ hc)
  have hColon : c ≠ ':' := fun h => hCode.colon (h ▸ hc)
  cases part <;> simp [Part.isSeparator, hHyphen, hColon]

end Options.IsCanonical

/- Joined canonical codes are found again. -/
theorem Token.codes_joined
    {options : Options}
    {dashes : List Char}
    (hDashes : options.dashes = .ok dashes)
    {codes : List String}
    (hCodes : ∀ code ∈ codes, options.IsCanonical code)
    (part : Part) :
    (Token.codes part.isSeparator (Text.joined codes)).map
        String.ofList =
      codes := by
  have hHyphen : part.isSeparator '-' = true := by
    cases part <;> rfl
  rw [Text.joined, Token.codes_intercalate hHyphen]
  · simp [Function.comp_def]
  · intro t ht
    rcases List.mem_map.mp ht with ⟨code, hMem, rfl⟩
    have hCode := hCodes code hMem
    refine ⟨?_, hCode.isTrimmed hDashes, hCode.uncut part⟩
    intro hEmpty
    exact hCode.nonempty (String.toList_eq_nil_iff.mp hEmpty)

namespace Split

section Rendered

variable {options : Options} {dashes : List Char}
variable {model feature : List String}

/- A rendered number is its own normal form but for blanks. -/
theorem normal_rendered
    (hDashes : options.dashes = .ok dashes)
    (hColon : ':' ∉ dashes)
    (hModel : ∀ code ∈ model, options.IsCanonical code)
    (hFeature : ∀ code ∈ feature, options.IsCanonical code) :
    Text.normal dashes options.uppercase
        (Text.rendered model feature).toList =
      Text.trim (Text.rendered model feature).toList := by
  have hSpell :
      ∀ {codes : List String},
        (∀ code ∈ codes, options.IsCanonical code) →
          (Text.joined codes).flatMap
              (Text.respell dashes options.uppercase) =
            Text.joined codes := by
    intro codes hCodes
    apply Text.flatMap_joined Text.respell_hyphen
    intro code hCode
    exact (hCodes code hCode).flatMap_respell hDashes
  rw [Text.normal_eq_trim, Text.toList_rendered,
    List.flatMap_append, hSpell hModel]
  split
  · rfl
  · rw [List.flatMap_cons, hSpell hFeature,
      Text.respell_of_mark (by decide) hColon]
    rfl

/- The codes of a rendered number are those it was made of. -/
theorem codes_rendered
    (hDashes : options.dashes = .ok dashes)
    (hModel : ∀ code ∈ model, options.IsCanonical code)
    (hFeature : ∀ code ∈ feature, options.IsCanonical code)
    (g : Grammar) :
    (ofNormal g (Text.trim
          (Text.rendered model feature).toList)).codes .model =
        model ∧
      (ofNormal g (Text.trim
          (Text.rendered model feature).toList)).codes .feature =
        feature := by
  have hColon : ∀ code ∈ model, ':' ∉ code.toList := by
    intro code hCode
    exact (hModel code hCode).colon
  rcases Text.text_rendered feature hColon with
    ⟨hFirst, hSecond⟩
  rw [codes_ofNormal, codes_ofNormal, Part.codes_text_trim,
    Part.codes_text_trim, hFirst, hSecond]
  exact
    ⟨Token.codes_joined hDashes hModel .model,
      Token.codes_joined hDashes hFeature .feature⟩

/- A rendered number is split into the codes it was made of. -/
theorem ofText_rendered
    (hDashes : options.dashes = .ok dashes)
    (hColon : ':' ∉ dashes)
    (hModel : ∀ code ∈ model, options.IsCanonical code)
    (hFeature : ∀ code ∈ feature, options.IsCanonical code)
    (g : Grammar) :
    ∃ split,
      ofText options g (Text.rendered model feature) =
          .ok split ∧
        split.segments.map Segment.entry =
          Part.model.entries g.modelPart model
            ++ Part.feature.entries g.featurePart feature ∧
        split.notices.map (fun n => (n.code, n.segment?)) =
          (model.drop g.modelPart.length
            ++ feature.drop g.featurePart.length).map
            fun code => ("UNRECOGNIZED_SEGMENT", some code) := by
  have hCodes := codes_rendered hDashes hModel hFeature g
  have hCount :
      (Text.trim (Text.rendered model feature).toList).count ':' ≤
        1 := by
    rcases Text.exists_eq_append_trim_append
        (Text.rendered model feature).toList with
      ⟨gap, _, hTrim⟩
    have hAll :=
      Text.count_colon_rendered
        (fun code hCode => (hModel code hCode).colon)
        (fun code hCode => (hFeature code hCode).colon)
    rw [hTrim, List.count_append, List.count_append] at hAll
    omega
  refine ⟨_, ofText_eq_ok hDashes g _, ?_, ?_⟩
  · rw [normal_rendered hDashes hColon hModel hFeature,
      ofNormal_entries, hCodes.1, hCodes.2]
  · rw [normal_rendered hDashes hColon hModel hFeature,
      ofNormal_notices_map g hCount, hCodes.1, hCodes.2]

end Rendered

/- The codes of a split are canonical if the dashes are settled. -/
theorem isCanonical_of_mem_codes
    {options : Options}
    {dashes : List Char}
    (hDashes : options.dashes = .ok dashes)
    (hSettled : Text.SettledDashes dashes options.uppercase)
    {g : Grammar}
    {text : List Char}
    {part : Part}
    {code : String}
    (hCode :
      code ∈ (ofNormal g
        (Text.normal dashes options.uppercase text)).codes
          part) :
    options.IsCanonical code := by
  rw [codes_eq_map_tokens] at hCode
  rcases List.mem_map.mp hCode with ⟨t, ht, rfl⟩
  have hCovers :=
    part.covers_tokens
      (Text.normal dashes options.uppercase text)
  have hUncut := hCovers.uncut t ht
  have hSpell :
      ∀ c ∈ t.code,
        Text.respell dashes options.uppercase c = [c] := by
    intro c hc
    rcases hCovers.found t ht with ⟨before, after, hText, _⟩
    have hIn :
        c ∈ part.text
          (Text.normal dashes options.uppercase text) := by
      rw [hText]
      simp [hc]
    rcases Text.exists_mem_respell_of_mem_normal
        (Part.mem_of_mem_text hIn) with
      ⟨d, _, hd⟩
    exact Text.respell_of_mem_respell hSettled hd
  refine ⟨?_, ?_, ?_, ?_⟩
  · intro hEmpty
    apply hCovers.nonempty t ht
    rw [← String.toList_ofList (l := t.code), hEmpty]
    rfl
  · rw [String.toList_ofList]
    exact fun hc => hUncut '-' hc (Or.inl rfl)
  · rw [String.toList_ofList]
    exact fun hc => hUncut ':' hc (Or.inr rfl)
  · rw [Options.normalize_eq_ok hDashes, String.toList_ofList,
      Text.normal_eq_trim, Text.flatMap_respell_eq_self hSpell,
      Text.trim_eq_self (hCovers.trimmed t ht)]

/-
  Whatever was typed, a number written from its codes is split
  into the same entries.
-/
theorem rendered_ofText
    {options : Options}
    (hUsual :
      options.dashCharacters = ({} : Options).dashCharacters)
    (g : Grammar)
    (text : String) :
    ∃ split again,
      ofText options g text = .ok split ∧
        ofText options g
            (Text.rendered (split.codes .model)
              (split.codes .feature)) =
          .ok again ∧
        again.segments.map Segment.entry =
          split.segments.map Segment.entry := by
  have hDashes := Options.dashes_eq_usualDashes hUsual
  have hCanonical :
      ∀ part : Part,
        ∀ code ∈ (ofNormal g
            (Text.normal Options.usualDashes options.uppercase
              text.toList)).codes part,
          options.IsCanonical code := by
    intro part code hCode
    exact isCanonical_of_mem_codes hDashes
      (Options.settledDashes_usualDashes _) hCode
  rcases ofText_rendered hDashes (by decide)
      (hCanonical .model) (hCanonical .feature) g with
    ⟨again, hAgain, hEntries, _⟩
  refine ⟨_, again, ofText_eq_ok hDashes g text, hAgain, ?_⟩
  rw [hEntries, ofNormal_entries]

/-
  Writing a number and splitting it undo each other, from the
  codes to the number and back, and from any text to its codes
  and back.
-/
theorem split_rendered_and_rendered_split (g : Grammar) :
    (∀ (options : Options) (dashes : List Char)
        (model feature : List String),
      options.dashes = .ok dashes →
        ':' ∉ dashes →
          (∀ code ∈ model, options.IsCanonical code) →
            (∀ code ∈ feature, options.IsCanonical code) →
              ∃ split,
                ofText options g
                    (Text.rendered model feature) =
                  .ok split ∧
                split.segments.map Segment.entry =
                  Part.model.entries g.modelPart model
                    ++ Part.feature.entries g.featurePart
                      feature ∧
                split.notices.map
                    (fun n => (n.code, n.segment?)) =
                  (model.drop g.modelPart.length
                    ++ feature.drop g.featurePart.length).map
                    fun code =>
                      ("UNRECOGNIZED_SEGMENT", some code)) ∧
      ∀ (options : Options) (text : String),
        options.dashCharacters = ({} : Options).dashCharacters →
          ∃ split again,
            ofText options g text = .ok split ∧
              ofText options g
                  (Text.rendered (split.codes .model)
                    (split.codes .feature)) =
                .ok again ∧
              again.segments.map Segment.entry =
                split.segments.map Segment.entry := by
  refine ⟨?_, ?_⟩
  · intro options dashes model feature hDashes hColon hModel
      hFeature
    exact ofText_rendered hDashes hColon hModel hFeature g
  · intro options text hUsual
    exact rendered_ofText hUsual g text

/- Two known codes and three features of a number. -/
theorem split_rendered_and_rendered_split_rn :
    (({} : Options).dashes = .ok Options.usualDashes ∧
        ':' ∉ Options.usualDashes ∧
        (∀ code ∈ ["RN", "025"],
          ({} : Options).IsCanonical code) ∧
        (∀ code ∈ ["A", "3", "Z Z"],
          ({} : Options).IsCanonical code) ∧
        ∃ split,
          ofText {} Library.rn.grammar "RN-025:A-3-Z Z" =
              .ok split ∧
            split.segments.map Segment.entry =
              Part.model.entries Library.rn.grammar.modelPart
                  ["RN", "025"]
                ++ Part.feature.entries
                  Library.rn.grammar.featurePart
                  ["A", "3", "Z Z"]) ∧
      ∃ split again,
        ofText {} Library.rn.grammar " rn\u2013-025 :a:3" =
            .ok split ∧
          ofText {} Library.rn.grammar
              (Text.rendered (split.codes .model)
                (split.codes .feature)) =
            .ok again ∧
          again.segments.map Segment.entry =
            split.segments.map Segment.entry := by
  have hBoth :=
    split_rendered_and_rendered_split Library.rn.grammar
  have hDashes : ({} : Options).dashes = .ok Options.usualDashes :=
    rfl
  have hColon : ':' ∉ Options.usualDashes := by
    decide
  have hModel :
      ∀ code ∈ ["RN", "025"],
        ({} : Options).IsCanonical code := by
    decide +kernel
  have hFeature :
      ∀ code ∈ ["A", "3", "Z Z"],
        ({} : Options).IsCanonical code := by
    decide +kernel
  rcases hBoth.1 {} _ _ _ hDashes hColon hModel hFeature with
    ⟨split, hSplit, hEntries, _⟩
  exact
    ⟨⟨hDashes, hColon, hModel, hFeature, split, hSplit,
      hEntries⟩, hBoth.2 {} _ rfl⟩

end Split

end ModelNumber
