import ModelNumber.Library.RN
import ModelNumber.Proofs.Outcome
import ModelNumber.Proofs.Segment.Split

/-
  A colon after the first one is a hyphen with a notice. Both
  separate the segments of the feature part, so that a text
  with hyphens for its later colons has the same segments at
  the same places. Its notices are the same too, but for the
  one about the second colon.

  Main declarations:
    * `Text.hyphened` and `Text.withOneColon`
    * `Text.normal_withOneColon`
    * `Token.scanFrom_map`
    * `Part.tokens_withOneColon`
    * `Split.AddsColonNotice`
    * `Split.exists_addsColonNotice`
-/

namespace ModelNumber

------------------------------------------------------------
-- Hyphens for colons
------------------------------------------------------------

namespace Text

/- A character, or a hyphen for a colon. -/
def hyphened (c : Char) : Char :=
  if c = ':' then '-' else c

/- The text with a hyphen for each colon but the first. -/
def withOneColon : List Char → List Char
| [] => []
| c :: s =>
    if c = ':' then
      c :: s.map hyphened
    else
      c :: withOneColon s

/- All behind the first colon is hyphened. -/
theorem withOneColon_append_cons
    {model : List Char}
    (hModel : ':' ∉ model)
    (feature : List Char) :
    withOneColon (model ++ ':' :: feature) =
      model ++ ':' :: feature.map hyphened := by
  induction model with
  | nil => rfl
  | cons c model ih =>
      rw [List.mem_cons, not_or] at hModel
      rw [List.cons_append, withOneColon,
        if_neg (Ne.symm hModel.1), ih hModel.2]
      rfl

/- A blank stays, and nothing becomes one. -/
theorem isBlank_hyphened (c : Char) :
    isBlank (hyphened c) = isBlank c := by
  unfold hyphened
  split
  · rename_i hc
    subst hc
    decide
  · rfl

/- No colon is left. -/
theorem colon_not_mem_map_hyphened (s : List Char) :
    ':' ∉ s.map hyphened := by
  intro hColon
  rcases List.mem_map.mp hColon with ⟨c, _, hc⟩
  unfold hyphened at hc
  split at hc
  · cases hc
  · rename_i hNot
    exact hNot hc

section Behind

variable {model feature : List Char} (hModel : ':' ∉ model)

include hModel

/- A text with one colon has one colon. -/
theorem count_withOneColon_le_one :
    (withOneColon (model ++ ':' :: feature)).count ':' ≤ 1 := by
  rw [withOneColon_append_cons hModel, List.count_append,
    List.count_cons_self, List.count_eq_zero.mpr hModel,
    List.count_eq_zero.mpr (colon_not_mem_map_hyphened feature)]

/- Hyphens for colons leave a text trimmed. -/
theorem isTrimmed_withOneColon
    (hTrimmed : IsTrimmed (model ++ ':' :: feature)) :
    IsTrimmed (withOneColon (model ++ ':' :: feature)) := by
  rw [withOneColon_append_cons hModel]
  constructor
  · intro c hc
    apply hTrimmed.1
    cases model <;> simpa using hc
  · intro c hc
    rcases List.eq_nil_or_concat' feature with
      rfl | ⟨rest, d, rfl⟩
    · apply hTrimmed.2
      simpa using hc
    · have hBlank : isBlank d = false := by
        apply hTrimmed.2
        rw [← List.cons_append, ← List.append_assoc,
          List.getLast?_concat]
        rfl
      rw [List.map_append, ← List.cons_append,
        ← List.append_assoc, List.map_singleton,
        List.getLast?_concat, Option.mem_some_iff] at hc
      rw [← hc, isBlank_hyphened, hBlank]

/- The normal form of a text with hyphens for later colons. -/
theorem normal_withOneColon
    {dashes : List Char}
    {uppercase : Bool}
    (hNormal :
      normal dashes uppercase (model ++ ':' :: feature) =
        model ++ ':' :: feature) :
    normal dashes uppercase
        (withOneColon (model ++ ':' :: feature)) =
      withOneColon (model ++ ':' :: feature) := by
  have hTrimmed : IsTrimmed (model ++ ':' :: feature) := by
    rw [← hNormal, normal_eq_trim]
    exact isTrimmed_trim _
  have hStay :=
    respell_of_flatMap_eq_self
      (flatMap_respell_of_normal_eq_self hNormal)
  have hHyphened :
      ∀ c ∈ withOneColon (model ++ ':' :: feature),
        respell dashes uppercase c = [c] := by
    rw [withOneColon_append_cons hModel]
    intro c hc
    rcases List.mem_append.mp hc with hc | hc
    · exact hStay c (List.mem_append_left _ hc)
    · rcases List.mem_cons.mp hc with rfl | hc
      · exact hStay ':' (by simp)
      · rcases List.mem_map.mp hc with ⟨d, hd, rfl⟩
        unfold hyphened
        split
        · exact respell_hyphen
        · exact hStay d (by simp [hd])
  rw [normal_eq_trim, flatMap_respell_eq_self hHyphened,
    trim_eq_self (isTrimmed_withOneColon hModel hTrimmed)]

end Behind

end Text

------------------------------------------------------------
-- Tokens
------------------------------------------------------------

/-
  Tokens do not depend on which separator stands where. The
  scanner keeps only characters that are none.
-/
theorem Token.scanFrom_map
    {isSeparator : Char → Bool}
    {f : Char → Char}
    (hCut : ∀ c, isSeparator (f c) = isSeparator c)
    (hKeep : ∀ c, isSeparator c = false → f c = c) :
    ∀ (s : List Char) (state : Scan) (place : Nat),
      scanFrom isSeparator state place (s.map f) =
        scanFrom isSeparator state place s
| [], _, _ => rfl
| c :: s, state, place => by
    rw [List.map_cons, scanFrom, scanFrom, hCut c]
    cases hc : isSeparator c with
    | true =>
        rw [if_pos rfl, if_pos rfl, scanFrom_map hCut hKeep s]
    | false =>
        rw [if_neg Bool.false_ne_true, if_neg Bool.false_ne_true,
          hKeep c hc, scanFrom_map hCut hKeep s]

namespace Part

/- In the feature part colons and hyphens are the same. -/
theorem isSeparator_hyphened (c : Char) :
    Part.feature.isSeparator (Text.hyphened c) =
      Part.feature.isSeparator c := by
  unfold Text.hyphened
  split
  · rename_i hc
    rw [hc]
    rfl
  · rfl

/- What does not separate features stays. -/
theorem hyphened_of_not_isSeparator
    {c : Char}
    (hc : Part.feature.isSeparator c = false) :
    Text.hyphened c = c := by
  unfold Text.hyphened
  split
  · rename_i hColon
    rw [hColon] at hc
    cases hc
  · rfl

/- Each part has the same tokens with hyphens for later colons. -/
theorem tokens_withOneColon
    {model : List Char}
    (hModel : ':' ∉ model)
    (feature : List Char)
    (part : Part) :
    part.tokens (Text.withOneColon (model ++ ':' :: feature)) =
      part.tokens (model ++ ':' :: feature) := by
  rw [Text.withOneColon_append_cons hModel]
  rcases Text.parts_of_colon hModel feature with
    ⟨hFirst, hSecond⟩
  rcases Text.parts_of_colon hModel
      (feature.map Text.hyphened) with
    ⟨hFirst', hSecond'⟩
  cases part with
  | model => simp only [tokens, text, offset, hFirst, hFirst']
  | feature =>
      simp only [tokens, text, offset, hFirst, hFirst', hSecond,
        hSecond', Option.getD_some]
      exact
        Token.scanFrom_map isSeparator_hyphened
          (fun _ => hyphened_of_not_isSeparator) feature _ _

end Part

------------------------------------------------------------
-- Splits
------------------------------------------------------------

/- A notice is about a segment beyond the slots of a part. -/
def Notice.IsSurplusOf
    (n : Notice)
    (part : Part) : Prop :=
  ∃ code start expected,
    n = .unrecognizedSegment part code start expected

/- The notices about surplus tokens are of that kind. -/
theorem Part.isSurplusOf_of_mem_surplus
    {part : Part}
    {slots : List Json}
    {tokens : List Token}
    {n : Notice}
    (hn : n ∈ part.surplus slots tokens) :
    n.IsSurplusOf part := by
  rcases List.mem_map.mp hn with ⟨t, _, rfl⟩
  exact ⟨_, _, _, rfl⟩

namespace Split

/-
  A split has the segments of another one, and its notices
  with one more about the second colon, behind those about the
  model part and before those about the feature part.
-/
structure AddsColonNotice (split other : Split) : Prop where
  segments : split.segments = other.segments
  notices :
    ∃ model place feature,
      split.notices =
          model ++ .malformedSeparator place :: feature ∧
        other.notices = model ++ feature ∧
        (∀ n ∈ model, n.IsSurplusOf .model) ∧
        (∀ n ∈ feature, n.IsSurplusOf .feature) ∧
        Text.SecondColon split.normalized.toList place

/- A later colon is a hyphen with a notice. -/
theorem addsColonNotice_ofNormal
    (g : Grammar)
    {s : List Char}
    (hColons : 2 ≤ s.count ':') :
    (ofNormal g s).AddsColonNotice
      (ofNormal g (Text.withOneColon s)) := by
  rcases Text.eq_modelPart_or_append s with
    ⟨hNone, _, _⟩ | ⟨feature, hSplit, _⟩
  · rw [List.count_eq_zero.mpr hNone] at hColons
    omega
  have hModel := Text.colon_not_mem_modelPart s
  have hTokens :
      ∀ part : Part,
        part.tokens (Text.withOneColon s) = part.tokens s := by
    rw [hSplit]
    exact Part.tokens_withOneColon hModel feature
  have hOne : (Text.withOneColon s).count ':' ≤ 1 := by
    rw [hSplit]
    exact Text.count_withOneColon_le_one hModel
  rcases laterColons_cases s with
    ⟨_, hFew⟩ | ⟨place, hPlace, hSecond⟩
  · omega
  refine
    ⟨?_, Part.model.surplus g.modelPart (Part.model.tokens s),
      place,
      Part.feature.surplus g.featurePart (Part.feature.tokens s),
      ?_, ?_, ?_, ?_, ?_⟩
  · rw [ofNormal_segments, ofNormal_segments, hTokens, hTokens]
  · rw [ofNormal_notices, hPlace, List.append_assoc]
    rfl
  · rw [ofNormal_notices, hTokens, hTokens,
      laterColons_eq_nil hOne, List.append_nil]
  · intro n hn
    exact Part.isSurplusOf_of_mem_surplus hn
  · intro n hn
    exact Part.isSurplusOf_of_mem_surplus hn
  · rwa [ofNormal_normalized, String.toList_ofList]

/-
  A number in its normal form with hyphens for its later
  colons is in normal form too. It has the same segments, and
  all notices but the one about the second colon.
-/
theorem exists_addsColonNotice
    {options : Options}
    {text : String}
    (hNormal : options.normalize text = .ok text)
    (hColons : 2 ≤ text.toList.count ':')
    (g : Grammar) :
    options.normalize
          (String.ofList (Text.withOneColon text.toList)) =
        .ok (String.ofList (Text.withOneColon text.toList)) ∧
      ∃ split other,
        ofText options g text = .ok split ∧
          ofText options g
              (String.ofList (Text.withOneColon text.toList)) =
            .ok other ∧
          split.AddsColonNotice other := by
  rcases Outcome.bind_eq_ok_iff.mp hNormal with
    ⟨dashes, hDashes, _⟩
  rw [Options.normalize_eq_ok hDashes, Except.ok.injEq,
    ← String.toList_inj, String.toList_ofList] at hNormal
  have hOther :
      Text.normal dashes options.uppercase
          (Text.withOneColon text.toList) =
        Text.withOneColon text.toList := by
    rcases Text.eq_modelPart_or_append text.toList with
      ⟨hNone, _, _⟩ | ⟨feature, hSplit, _⟩
    · rw [List.count_eq_zero.mpr hNone] at hColons
      omega
    · rw [hSplit] at hNormal ⊢
      exact
        Text.normal_withOneColon
          (Text.colon_not_mem_modelPart text.toList) hNormal
  refine
    ⟨?_, _, _, ofText_eq_ok hDashes g text,
      ofText_eq_ok hDashes g _, ?_⟩
  · rw [Options.normalize_eq_ok hDashes, String.toList_ofList,
      hOther]
  · rw [hNormal, String.toList_ofList, hOther]
    exact addsColonNotice_ofNormal g hColons

/-
  A number with a surplus segment in each part, five colons
  and a blank chunk between two of them.
-/
theorem exists_addsColonNotice_rn :
    ({} : Options).normalize
          "RN-025-3-0-E-A-0-G-0-4-X:A:3- :-A:0-1:Z" =
        .ok "RN-025-3-0-E-A-0-G-0-4-X:A:3- :-A:0-1:Z" ∧
      ∃ split other,
        ofText {} Library.rn.grammar
              "RN-025-3-0-E-A-0-G-0-4-X:A:3- :-A:0-1:Z" =
            .ok split ∧
          ofText {} Library.rn.grammar
              "RN-025-3-0-E-A-0-G-0-4-X:A-3- --A-0-1-Z" =
            .ok other ∧
          split.notices.map Notice.code =
            ["UNRECOGNIZED_SEGMENT", "MALFORMED_SEPARATOR",
              "UNRECOGNIZED_SEGMENT"] ∧
          split.AddsColonNotice other := by
  have hNormal :
      (({} : Options).normalize
          "RN-025-3-0-E-A-0-G-0-4-X:A:3- :-A:0-1:Z").toOption =
        some "RN-025-3-0-E-A-0-G-0-4-X:A:3- :-A:0-1:Z" := by
    decide +kernel
  have hCodes :
      ((ofText {} Library.rn.grammar
          "RN-025-3-0-E-A-0-G-0-4-X:A:3- :-A:0-1:Z").toOption.map
        fun split => split.notices.map Notice.code) =
        some
          ["UNRECOGNIZED_SEGMENT", "MALFORMED_SEPARATOR",
            "UNRECOGNIZED_SEGMENT"] := by
    decide +kernel
  rw [Outcome.toOption_eq_some_iff] at hNormal
  rcases exists_addsColonNotice hNormal (by decide +kernel)
      Library.rn.grammar with
    ⟨_, split, other, hSplit, hOther, hAdds⟩
  rw [hSplit] at hCodes
  exact
    ⟨hNormal, split, other, hSplit, hOther,
      Option.some.inj hCodes, hAdds⟩

end Split

end ModelNumber
