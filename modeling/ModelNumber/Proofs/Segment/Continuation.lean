import ModelNumber.Proofs.Segment.Split

/-
  Typing on. When more is typed behind a text, its segments
  are found again as they were, but for the last one, which
  may have grown at its end. The scanner reads from left to
  right, so this holds of its tokens, and the normal form of a
  text is the start of the normal form of any longer one.

  Main declarations:
    * `Continues`
    * `Token.continues_scan`
    * `Text.exists_normal_append`
    * `Split.GoesOn`
    * `Split.exists_ofText_append`
-/

namespace ModelNumber

------------------------------------------------------------
-- Lists whose last element may grow
------------------------------------------------------------

/-
  The second list continues the first one: it starts with the
  same elements, but for the last element of the first list,
  which may have grown.
-/
inductive Continues
    {α : Type}
    (Grows : α → α → Prop) :
    List α → List α → Prop where
| nil (bs : List α) : Continues Grows [] bs
| last {a b : α} (hGrows : Grows a b) (bs : List α) :
    Continues Grows [a] (b :: bs)
| cons (a : α) {as bs : List α}
    (hRest : Continues Grows as bs) :
    Continues Grows (a :: as) (a :: bs)

namespace Continues

variable {α β : Type} {Grows : α → α → Prop} {as bs : List α}

/- The same elements may stand in front of both lists. -/
theorem append_left
    (h : Continues Grows as bs)
    (cs : List α) :
    Continues Grows (cs ++ as) (cs ++ bs) := by
  induction cs with
  | nil => exact h
  | cons c cs ih => exact .cons c ih

/- Any elements may stand behind the second list. -/
theorem append_right
    (h : Continues Grows as bs)
    (cs : List α) :
    Continues Grows as (bs ++ cs) := by
  induction h with
  | nil bs => exact .nil _
  | last hGrows bs => exact .last hGrows _
  | cons a _ ih => exact .cons a ih

/- A list that continues another one is not shorter. -/
theorem length_le
    (h : Continues Grows as bs) :
    as.length ≤ bs.length := by
  induction h with
  | nil bs => exact Nat.zero_le _
  | last hGrows bs => exact Nat.succ_le_succ (Nat.zero_le _)
  | cons a _ ih => exact Nat.succ_le_succ ih

/- All elements but the last one stay in their places. -/
theorem getElem?_eq
    (h : Continues Grows as bs)
    {i : Nat}
    (hi : i + 1 < as.length) :
    bs[i]? = as[i]? := by
  induction h generalizing i with
  | nil bs => simp at hi
  | last hGrows bs => simp at hi
  | cons a hRest ih =>
      cases i with
      | zero => rfl
      | succ i =>
          rw [List.getElem?_cons_succ, List.getElem?_cons_succ]
          exact ih (Nat.lt_of_succ_lt_succ hi)

/- The last element has grown in its place, if at all. -/
theorem exists_of_getLast?
    (hRefl : ∀ a, Grows a a)
    (h : Continues Grows as bs)
    {a : α}
    (ha : as.getLast? = some a) :
    ∃ b, bs[as.length - 1]? = some b ∧ Grows a b := by
  induction h with
  | nil bs => cases ha
  | @last c b hGrows bs =>
      have hSame : c = a := by simpa using ha
      subst hSame
      exact ⟨b, rfl, hGrows⟩
  | @cons c as bs hRest ih =>
      cases as with
      | nil =>
          have hSame : c = a := by simpa using ha
          subst hSame
          exact ⟨c, rfl, hRefl c⟩
      | cons d as =>
          rw [List.getLast?_cons_cons] at ha
          exact ih ha

/- An element of the first list has stayed, or is its last one. -/
theorem mem_or_getLast?_eq
    (h : Continues Grows as bs)
    {a : α}
    (ha : a ∈ as) :
    a ∈ bs ∨ as.getLast? = some a := by
  induction h with
  | nil bs => cases ha
  | last hGrows bs =>
      rw [List.mem_singleton.mp ha]
      exact Or.inr rfl
  | @cons c as bs hRest ih =>
      rcases List.mem_cons.mp ha with rfl | ha
      · exact Or.inl List.mem_cons_self
      · rcases ih ha with hStays | hLast
        · exact Or.inl (List.mem_cons_of_mem _ hStays)
        · cases as with
          | nil => cases ha
          | cons d as =>
              rw [List.getLast?_cons_cons]
              exact Or.inr hLast

/- Selected elements continue, if what grows stays selected. -/
theorem filterMap
    {f : α → Option β}
    {Grows' : β → β → Prop}
    (hf :
      ∀ a b, Grows a b →
        ∀ c, f a = some c → ∃ d, f b = some d ∧ Grows' c d)
    (h : Continues Grows as bs) :
    Continues Grows' (as.filterMap f) (bs.filterMap f) := by
  induction h with
  | nil bs => exact .nil _
  | @last a b hGrows bs =>
      cases hSelected : f a with
      | none =>
          rw [List.filterMap_cons_none hSelected]
          exact .nil _
      | some c =>
          rcases hf a b hGrows c hSelected with ⟨d, hd, hcd⟩
          rw [List.filterMap_cons_some hSelected,
            List.filterMap_cons_some hd]
          exact .last hcd _
  | @cons a as bs _ ih =>
      cases hSelected : f a with
      | none =>
          rw [List.filterMap_cons_none hSelected,
            List.filterMap_cons_none hSelected]
          exact ih
      | some c =>
          rw [List.filterMap_cons_some hSelected,
            List.filterMap_cons_some hSelected]
          exact .cons c ih

/- The images of elements continue, if those that grow do. -/
theorem map
    {f : α → β}
    {Grows' : β → β → Prop}
    (hf : ∀ a b, Grows a b → Grows' (f a) (f b))
    (h : Continues Grows as bs) :
    Continues Grows' (as.map f) (bs.map f) := by
  rw [← List.filterMap_eq_map]
  refine h.filterMap ?_
  intro a b hGrows c hc
  cases hc
  exact ⟨f b, rfl, hf a b hGrows⟩

end Continues

------------------------------------------------------------
-- Tokens
------------------------------------------------------------

namespace Token

variable {isSeparator : Char → Bool}

/- A token has grown at its end, if at all. -/
structure Grows (t u : Token) : Prop where
  start : u.start = t.start
  code : t.code <+: u.code

/- Inside a token, what has been read is the start of it. -/
theorem exists_scanFrom_inside
    (start : Nat)
    (read : List Char) :
    ∀ (s gap : List Char) (place : Nat),
      ∃ more others,
        scanFrom isSeparator (.inside start read gap) place s =
          ⟨start, read.reverse ++ more⟩ :: others
| [], gap, place => ⟨[], [], by simp [scanFrom, Scan.finished]⟩
| c :: s, gap, place => by
    rw [scanFrom]
    split
    · exact ⟨[], _, by rw [List.append_nil]; rfl⟩
    · rw [Scan.next]
      split
      · exact exists_scanFrom_inside start read s _ _
      · rcases exists_scanFrom_inside start (c :: gap ++ read) s
            [] (place + 1) with
          ⟨more, others, hScan⟩
        refine ⟨gap.reverse ++ c :: more, others, ?_⟩
        rw [hScan]
        simp

/- From any state, the tokens of a longer text continue those read. -/
theorem continues_scanFrom
    (t : List Char) :
    ∀ (s : List Char) (state : Scan) (place : Nat),
      Continues Grows
        (scanFrom isSeparator state place s)
        (scanFrom isSeparator state place (s ++ t))
| [], .between, place => .nil _
| [], .inside start read gap, place => by
    have hInside :=
      @exists_scanFrom_inside isSeparator start read t gap place
    rcases hInside with ⟨more, others, hScan⟩
    rw [List.nil_append, hScan]
    exact .last ⟨rfl, List.prefix_append _ _⟩ others
| c :: s, state, place => by
    rw [List.cons_append, scanFrom, scanFrom]
    split
    · exact (continues_scanFrom t s _ _).append_left _
    · exact continues_scanFrom t s _ _

/- The tokens of a longer text continue those of a text. -/
theorem continues_scan
    (place : Nat)
    (s t : List Char) :
    Continues Grows
      (scan isSeparator place s)
      (scan isSeparator place (s ++ t)) :=
  continues_scanFrom t s .between place

end Token

------------------------------------------------------------
-- Segments
------------------------------------------------------------

/- A segment has grown at its end, if at all. -/
structure Segment.Grows (s t : Segment) : Prop where
  part : t.part = s.part
  category : t.category = s.category
  start : t.start = s.start
  code : s.code.toList <+: t.code.toList

theorem Segment.Grows.refl (s : Segment) : s.Grows s :=
  ⟨rfl, rfl, rfl, List.prefix_refl _⟩

/- The segment of a token grows with the token. -/
theorem segmentOfToken_grows
    (part : Part)
    (category : Option Json)
    {t u : Token}
    (h : t.Grows u) :
    (segmentOfToken part category t).Grows
      (segmentOfToken part category u) where
  part := rfl
  category := rfl
  start := h.start
  code := by
    simp only [segmentOfToken, String.toList_ofList]
    exact h.code

/- Segments continue with their tokens. -/
theorem Part.continues_segments
    (part : Part)
    (slots : List Json)
    {tokens others : List Token}
    (h : Continues Token.Grows tokens others) :
    Continues Segment.Grows
      (part.segments slots tokens)
      (part.segments slots others) := by
  induction h generalizing slots with
  | nil others =>
      cases slots <;> exact .nil _
  | last hGrows others =>
      cases slots <;>
        exact .last (segmentOfToken_grows _ _ hGrows) _
  | cons t _ ih =>
      cases slots <;> exact .cons _ (ih _)

------------------------------------------------------------
-- Normal forms
------------------------------------------------------------

namespace Text

/- A text that starts and ends with no blank starts its longer form. -/
theorem trim_append_of_isTrimmed
    {s : List Char}
    (hTrimmed : IsTrimmed s)
    (hNonempty : s ≠ [])
    (t : List Char) :
    ∃ more, trim (s ++ t) = s ++ more := by
  rcases List.eq_nil_or_concat' s with rfl | ⟨r, d, rfl⟩
  · exact (hNonempty rfl).elim
  · have hLast : isBlank d = false := hTrimmed.2 d (by simp)
    refine ⟨trimEnd t, ?_⟩
    rw [List.append_assoc, List.append_assoc,
      List.singleton_append, List.singleton_append]
    cases r with
    | nil => exact trim_cons_of_not_blank hLast t
    | cons c r =>
        have hFirst : isBlank c = false := hTrimmed.1 c (by simp)
        rw [List.cons_append, trim_cons_of_not_blank hFirst,
          trimEnd_append_cons r t hLast]
        rfl

/- What trimming leaves of a text starts that of a longer one. -/
theorem exists_trim_append (s t : List Char) :
    ∃ more, trim (s ++ t) = trim s ++ more := by
  by_cases hEmpty : trim s = []
  · rw [hEmpty]
    exact ⟨_, rfl⟩
  · rcases exists_eq_append_trim_append s with ⟨gap, _, hs⟩
    have hLead :
        ∀ c ∈ s.takeWhile isBlank, isBlank c = true := by
      intro c hc
      exact List.mem_takeWhile_imp hc
    have hTrim :
        trim (s ++ t) = trim (trim s ++ (gap ++ t)) := by
      conv_lhs => rw [hs]
      rw [List.append_assoc, List.append_assoc,
        trim_blank_append hLead]
    rw [hTrim]
    exact trim_append_of_isTrimmed (isTrimmed_trim s) hEmpty _

/- The normal form of a text starts that of a longer one. -/
theorem exists_normal_append
    (dashes : List Char)
    (uppercase : Bool)
    (s t : List Char) :
    ∃ more,
      normal dashes uppercase (s ++ t) =
        normal dashes uppercase s ++ more := by
  simp only [normal_eq_trim, List.flatMap_append]
  exact exists_trim_append _ _

/- The model part of a text that has no colon goes on behind it. -/
theorem modelPart_append
    {s : List Char}
    (hColon : ':' ∉ s)
    (t : List Char) :
    modelPart (s ++ t) = s ++ modelPart t := by
  refine List.takeWhile_append_of_pos ?_
  intro c hc
  rw [bne_iff_ne]
  rintro rfl
  exact hColon hc

end Text

------------------------------------------------------------
-- Splits
------------------------------------------------------------

/-
  The tokens of a longer text continue those of a text, model
  part first. A part that is behind the first colon only grows
  once there is one.
-/
theorem Part.continues_tokens_append
    (s t : List Char) :
    (Part.feature.tokens s = [] ∧
        Continues Token.Grows
          (Part.model.tokens s)
          (Part.model.tokens (s ++ t))) ∨
      Part.model.tokens (s ++ t) = Part.model.tokens s ∧
        Continues Token.Grows
          (Part.feature.tokens s)
          (Part.feature.tokens (s ++ t)) := by
  rcases Text.eq_modelPart_or_append s with
    ⟨hColon, hModel, hNone⟩ | ⟨feature, hSplit, hSome⟩
  · left
    constructor
    · simp [tokens, text, hNone, Token.scan, Token.scanFrom,
        Token.Scan.finished]
    · simp only [tokens, offset, text, hModel,
        Text.modelPart_append hColon]
      exact Token.continues_scan 0 s _
  · right
    have hColon := Text.colon_not_mem_modelPart s
    have hLonger :
        s ++ t = Text.modelPart s ++ ':' :: (feature ++ t) := by
      conv_lhs => rw [hSplit]
      simp
    rcases Text.parts_of_colon hColon (feature ++ t) with
      ⟨hModel', hFeature'⟩
    rw [← hLonger] at hModel' hFeature'
    constructor
    · simp only [tokens, offset, text, hModel']
    · simp only [tokens, offset, text, hModel', hFeature', hSome,
        Option.getD_some]
      exact Token.continues_scan _ feature t

namespace Split

/- The segments of a longer text continue those of a text. -/
theorem continues_segments_append
    (g : Grammar)
    (s t : List Char) :
    Continues Segment.Grows
      (ofNormal g s).segments
      (ofNormal g (s ++ t)).segments := by
  rw [ofNormal_segments, ofNormal_segments]
  rcases Part.continues_tokens_append s t with
    ⟨hEmpty, hModel⟩ | ⟨hSame, hFeature⟩
  · have hNone :
        Part.feature.segments g.featurePart [] = [] := by
      cases g.featurePart <;> rfl
    rw [hEmpty, hNone, List.append_nil]
    exact (Part.model.continues_segments _ hModel).append_right _
  · rw [hSame]
    exact (Part.feature.continues_segments _ hFeature).append_left _

/- The mapped segments continue with the segments. -/
theorem continues_mapped
    {split longer : Split}
    (h : Continues Segment.Grows split.segments longer.segments) :
    Continues (fun m n => n.1 = m.1 ∧ m.2.Grows n.2)
      split.mapped longer.mapped := by
  refine h.filterMap ?_
  intro s t hGrows m hm
  rcases Option.map_eq_some_iff.mp hm with
    ⟨category, hCategory, rfl⟩
  refine ⟨(category, t), ?_, rfl, hGrows⟩
  rw [hGrows.category, hCategory]
  rfl

/- A code has grown at its end, if at all, in its category. -/
structure PairGrows (p q : Json × String) : Prop where
  category : q.1 = p.1
  code : p.2.toList <+: q.2.toList

/-
  A split goes on as another one. Its segments but for the
  last one are found there with the same numbers and are the
  same, the last one may have grown at its end, and the pairs
  of categories and codes go on with the segments.
-/
structure GoesOn (split longer : Split) : Prop where
  length : split.segments.length ≤ longer.segments.length
  kept :
    ∀ i, i + 1 < split.segments.length →
      longer.segments[i]? = split.segments[i]?
  last :
    ∀ s, split.segments.getLast? = some s →
      ∃ t,
        longer.segments[split.segments.length - 1]? = some t ∧
          s.Grows t
  pairs : Continues PairGrows split.pairs longer.pairs

/- A split goes on when more is typed. -/
theorem goesOn_ofNormal_append
    (g : Grammar)
    (s t : List Char) :
    (ofNormal g s).GoesOn (ofNormal g (s ++ t)) := by
  have hSegments := continues_segments_append g s t
  refine ⟨hSegments.length_le, ?_, ?_, ?_⟩
  · intro i hi
    exact hSegments.getElem?_eq hi
  · intro seg hSeg
    exact hSegments.exists_of_getLast? Segment.Grows.refl hSeg
  · refine (continues_mapped hSegments).map ?_
    rintro m n ⟨hCategory, hGrows⟩
    exact ⟨hCategory, hGrows.code⟩

/- A longer text has the split that the shorter one goes on as. -/
theorem exists_ofText_append
    {options : Options}
    {g : Grammar}
    {text : String}
    {split : Split}
    (hSplit : ofText options g text = .ok split)
    (more : String) :
    ∃ longer,
      ofText options g (text ++ more) = .ok longer ∧
        split.GoesOn longer := by
  rcases exists_of_ofText_eq_ok hSplit with
    ⟨dashes, hDashes, rfl⟩
  rcases Text.exists_normal_append dashes options.uppercase
      text.toList more.toList with
    ⟨rest, hRest⟩
  refine ⟨_, ofText_eq_ok hDashes g _, ?_⟩
  rw [String.toList_append, hRest]
  exact goesOn_ofNormal_append g _ rest

end Split

end ModelNumber
