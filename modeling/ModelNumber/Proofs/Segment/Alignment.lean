import ModelNumber.Proofs.Segment.Split

/-
  When tokens that are known by their codes stand where the
  scanner puts its own. Both lists have the same codes, so
  each token is as long as its counterpart, and if all that
  one list holds the other one holds, too, no token can have
  moved.

  Main declarations:
    * `Token.eq_of_holds`
    * `Text.IsPlain` and `Text.IsPlain.exists_holds`
    * `Part.codes_tokens_of_isPlain`
-/

namespace ModelNumber

------------------------------------------------------------
-- Tokens in the same places
------------------------------------------------------------

namespace Token

/-
  Tokens with the codes of others stand where those stand, if
  the others hold all places that they hold. The first of them
  cannot stand before its counterpart, and so those behind it
  are held by the counterparts behind. They stand in their
  places by induction, which leaves no room for the first one
  behind its own.
-/
theorem eq_of_holds :
    ∀ {us ts : List Token},
      us.map Token.code = ts.map Token.code →
        (∀ t ∈ ts, t.code ≠ []) →
          (us.Pairwise fun u v => u.stop ≤ v.start) →
            (ts.Pairwise fun t v => t.stop < v.start) →
              (∀ u ∈ us, ∀ i, u.Holds i →
                ∃ t ∈ ts, t.Holds i) →
                us = ts
| [], ts, hCodes, _, _, _, _ => by
    exact (List.map_eq_nil_iff.mp hCodes.symm).symm
| u :: us, [], hCodes, _, _, _, _ => by cases hCodes
| u :: us, t :: ts, hCodes, hNonempty, hUs, hTs, hHolds => by
    rw [List.map_cons, List.map_cons, List.cons.injEq] at hCodes
    rw [List.forall_mem_cons] at hNonempty
    rw [List.pairwise_cons] at hUs hTs
    have hLength : 0 < t.code.length :=
      List.length_pos_iff.mpr hNonempty.1
    have hStop : u.stop = u.start + t.code.length := by
      rw [stop, hCodes.1]
    have hStopOther : t.stop = t.start + t.code.length := rfl
    have hNotBefore : t.start ≤ u.start := by
      have hFirst : u.Holds u.start := ⟨Nat.le_refl _, by omega⟩
      rcases hHolds u List.mem_cons_self _ hFirst with
        ⟨v, hv, hLow, _⟩
      rcases List.mem_cons.mp hv with rfl | hv
      · exact hLow
      · have hBehind := hTs.1 v hv
        omega
    have hRest : us = ts := by
      refine eq_of_holds hCodes.2 hNonempty.2 hUs.2 hTs.2 ?_
      intro v hv i hi
      have hBehind := hUs.1 v hv
      rcases hHolds v (List.mem_cons_of_mem u hv) i hi with
        ⟨w, hw, hIn⟩
      rcases List.mem_cons.mp hw with rfl | hw
      · have hLow := hi.1
        have hHigh := hIn.2
        omega
      · exact ⟨w, hw, hIn⟩
    have hNotBehind : u.start ≤ t.start := by
      have hLast : u.Holds (u.stop - 1) := ⟨by omega, by omega⟩
      rcases hHolds u List.mem_cons_self _ hLast with
        ⟨v, hv, hLow, hHigh⟩
      rcases List.mem_cons.mp hv with rfl | hv
      · omega
      · have hBehind := hUs.1 v (hRest ▸ hv)
        omega
    have hSame : u = t := by
      cases u
      cases t
      simp only at hNotBefore hNotBehind hCodes
      rw [Nat.le_antisymm hNotBehind hNotBefore, hCodes.1]
    rw [hSame, hRest]

end Token

------------------------------------------------------------
-- Plain texts
------------------------------------------------------------

namespace Text

/- A text has no blanks and at most one colon. -/
structure IsPlain (s : List Char) : Prop where
  unblanked : ∀ c ∈ s, isBlank c = false
  colons : s.count ':' ≤ 1

instance (s : List Char) : Decidable (IsPlain s) :=
  decidable_of_iff
    -- The bounded quantifier itself is tested on all characters.
    (s.any isBlank = false ∧ s.count ':' ≤ 1)
    ⟨fun h => ⟨by simpa using h.1, h.2⟩,
      fun h => ⟨by simpa using h.unblanked, h.colons⟩⟩

namespace IsPlain

variable {s : List Char}

/- In a plain text each place is a separator or in a token. -/
theorem exists_holds
    (hPlain : IsPlain s)
    {i : Nat}
    {c : Char}
    (hc : s[i]? = some c)
    (hUncut : ¬ Token.IsSeparator c) :
    ∃ t ∈ Part.model.tokens s ++ Part.feature.tokens s,
      t.Holds i := by
  by_contra hNone
  have hOutside :
      ∀ t ∈ Part.model.tokens s ++ Part.feature.tokens s,
        ¬ t.Holds (0 + i) := by
    intro t ht hIn
    rw [Nat.zero_add] at hIn
    exact hNone ⟨t, ht, hIn⟩
  rcases (Token.covers_parts s).gaps i c hc hOutside with
    hCut | hBlank
  · exact hUncut hCut
  · rw [hPlain.unblanked c (List.mem_of_getElem? hc)] at hBlank
    cases hBlank

/- No colon of a plain text is inside one of its parts. -/
theorem colon_not_mem_text
    (hPlain : IsPlain s)
    (part : Part) :
    ':' ∉ part.text s := by
  cases part with
  | model => exact colon_not_mem_modelPart s
  | feature =>
      rcases eq_modelPart_or_append s with
        ⟨_, _, hFeature⟩ | ⟨feature, hSplit, hFeature⟩
      · simp [Part.text, hFeature]
      · have hCount := hPlain.colons
        rw [hSplit, List.count_append, List.count_cons_self,
          List.count_eq_zero.mpr (colon_not_mem_modelPart s)]
          at hCount
        rw [Part.text, hFeature]
        exact List.count_eq_zero.mp (by
          rw [Option.getD_some]
          omega)

end IsPlain

end Text

------------------------------------------------------------
-- Chunks of plain texts
------------------------------------------------------------

namespace Text

/- Chunks depend on what separates characters of the text. -/
theorem chunks_congr
    {p q : Char → Bool}
    {s : List Char}
    (h : ∀ c ∈ s, p c = q c) :
    chunks p s = chunks q s := by
  induction s with
  | nil => rfl
  | cons c s ih =>
      rw [List.forall_mem_cons] at h
      rw [chunks, chunks, h.1, ih h.2]

/- What is in a chunk is in the text and separates nothing. -/
theorem mem_of_mem_chunks
    {p : Char → Bool}
    {s chunk : List Char}
    (hChunk : chunk ∈ chunks p s)
    {c : Char}
    (hc : c ∈ chunk) :
    c ∈ s ∧ p c = false := by
  induction s using cut_induction p with
  | hWhole s hs =>
      rw [chunks_of_uncut hs, List.mem_singleton] at hChunk
      subst hChunk
      exact ⟨hc, hs c hc⟩
  | hCut s d t hs hd ih =>
      rw [chunks_append_cons s t hd, chunks_of_uncut hs,
        List.mem_append, List.mem_singleton] at hChunk
      rcases hChunk with rfl | hChunk
      · exact ⟨List.mem_append_left _ hc, hs c hc⟩
      · rcases ih hChunk with ⟨hIn, hUncut⟩
        exact
          ⟨List.mem_append_right _ (List.mem_cons_of_mem _ hIn),
            hUncut⟩

/- A text without blanks is trimmed. -/
theorem isTrimmed_of_unblanked
    {s : List Char}
    (h : ∀ c ∈ s, isBlank c = false) :
    IsTrimmed s :=
  ⟨fun c hc => h c (List.mem_of_mem_head? hc),
    fun c hc => h c (List.mem_of_mem_getLast? hc)⟩

end Text

/-
  The tokens of a part of a plain text are its chunks between
  hyphens, without empty ones.
-/
theorem Part.codes_tokens_of_isPlain
    {s : List Char}
    (hPlain : Text.IsPlain s)
    (part : Part) :
    (part.tokens s).map Token.code =
      (Text.chunks (· == '-') (part.text s)).filter
        (!·.isEmpty) := by
  have hHyphens :
      Text.chunks part.isSeparator (part.text s) =
        Text.chunks (· == '-') (part.text s) := by
    apply Text.chunks_congr
    intro c hc
    cases part with
    | model => rfl
    | feature =>
        have hColon : (c == ':') = false := by
          rw [beq_eq_false_iff_ne]
          rintro rfl
          exact hPlain.colon_not_mem_text .feature hc
        rw [isSeparator, hColon, Bool.or_false]
  have hTrim :
      ∀ chunk ∈ Text.chunks (· == '-') (part.text s),
        Text.trim chunk = chunk := by
    intro chunk hChunk
    apply Text.trim_eq_self
    apply Text.isTrimmed_of_unblanked
    intro c hc
    exact
      hPlain.unblanked c
        (mem_of_mem_text (Text.mem_of_mem_chunks hChunk hc).1)
  rw [tokens_map_code, Token.codes, hHyphens,
    List.map_congr_left hTrim, List.map_id']

end ModelNumber
