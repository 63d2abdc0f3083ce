import ModelNumber.Proofs.Text.Trim
import ModelNumber.Segment.Token

/-
  The tokens of a text, chunk by chunk. The scanner starts
  afresh at every separator, and makes one token of a chunk
  unless the chunk is blank. So its tokens are the trimmed
  chunks, and they cover all of the text but separators and
  blanks.

  Main declarations:
    * `Text.cut_induction`
    * `Token.scan_append_cons` and `Token.scan_of_uncut`
    * `Token.scan_map_code`
    * `Token.Covers` and `Token.covers_scan`
    * `Token.codes_intercalate`
-/

namespace ModelNumber

variable {isSeparator : Char → Bool}

------------------------------------------------------------
-- Chunks
------------------------------------------------------------

namespace Text

/-
  To prove something of every text, prove it of a text without
  separators, and of a text after its first separator.
-/
theorem cut_induction
    (isSeparator : Char → Bool)
    {motive : List Char → Prop}
    (hWhole :
      ∀ s, (∀ c ∈ s, isSeparator c = false) → motive s)
    (hCut :
      ∀ s c t,
        (∀ d ∈ s, isSeparator d = false) →
          isSeparator c = true →
            motive t → motive (s ++ c :: t))
    (s : List Char) :
    motive s := by
  suffices
      hPrefix :
        ∀ s p : List Char,
          (∀ c ∈ p, isSeparator c = false) →
            motive (p ++ s) from hPrefix s [] (by simp)
  intro s
  induction s with
  | nil =>
      intro p hp
      rw [List.append_nil]
      exact hWhole p hp
  | cons c s ih =>
      intro p hp
      cases hc : isSeparator c with
      | true => exact hCut p c s hp hc (ih [] (by simp))
      | false =>
          have hLonger :
              ∀ d ∈ p ++ [c], isSeparator d = false := by
            intro d hd
            rcases List.mem_append.mp hd with hd | hd
            · exact hp d hd
            · rw [List.mem_singleton.mp hd]
              exact hc
          have hMotive := ih (p ++ [c]) hLonger
          rwa [List.append_assoc] at hMotive

/- There is always a chunk. -/
theorem chunks_ne_nil (s : List Char) :
    chunks isSeparator s ≠ [] := by
  cases s with
  | nil => simp [chunks]
  | cons c s =>
      unfold chunks
      split
      · simp
      · split <;> simp

/- The chunks on both sides of a separator. -/
theorem chunks_append_cons
    (s t : List Char)
    {c : Char}
    (hc : isSeparator c = true) :
    chunks isSeparator (s ++ c :: t) =
      chunks isSeparator s ++ chunks isSeparator t := by
  induction s with
  | nil => simp [chunks, hc]
  | cons d s ih =>
      cases hd : isSeparator d with
      | true => simp [chunks, hd, ih]
      | false =>
          cases hChunks : chunks isSeparator s with
          | nil => exact (chunks_ne_nil s hChunks).elim
          | cons chunk others =>
              simp [chunks, hd, ih, hChunks]

/- A text without separators is its own chunk. -/
theorem chunks_of_uncut
    {s : List Char}
    (hs : ∀ c ∈ s, isSeparator c = false) :
    chunks isSeparator s = [s] := by
  induction s with
  | nil => rfl
  | cons c s ih =>
      rw [List.forall_mem_cons] at hs
      simp [chunks, hs.1, ih hs.2]

/- A character that does not separate is in one of the chunks. -/
theorem exists_mem_chunks
    {s : List Char}
    {c : Char}
    (hc : c ∈ s)
    (hUncut : isSeparator c = false) :
    ∃ chunk ∈ chunks isSeparator s, c ∈ chunk := by
  induction s using cut_induction isSeparator with
  | hWhole s hs =>
      rw [chunks_of_uncut hs]
      exact ⟨s, List.mem_singleton_self s, hc⟩
  | hCut s d t hs hd ih =>
      rw [chunks_append_cons s t hd, chunks_of_uncut hs]
      rcases List.mem_append.mp hc with hc | hc
      · exact ⟨s, by simp, hc⟩
      · rcases List.mem_cons.mp hc with rfl | hc
        · rw [hUncut] at hd
          cases hd
        · rcases ih hc with ⟨chunk, hChunk, hIn⟩
          exact ⟨chunk, List.mem_append_right _ hChunk, hIn⟩

------------------------------------------------------------
-- Slices
------------------------------------------------------------

/- A bound inside a text is its own place. -/
theorem place_natCast
    {length n : Nat}
    (hn : n ≤ length) :
    place length n = n := by
  unfold place
  rw [if_neg (by omega), Int.toNat_natCast]
  exact Nat.min_eq_left hn

/- A slice from where a piece starts to where it stops. -/
theorem slice_append
    (before piece after : List Char) :
    slice (before ++ piece ++ after) before.length
        (before.length + piece.length : Nat) =
      piece := by
  simp only [slice]
  rw [place_natCast (by simp), place_natCast (by simp),
    ← List.length_append, List.take_left, List.drop_left]

end Text

namespace Token

------------------------------------------------------------
-- Codes chunk by chunk
------------------------------------------------------------

/- The codes on both sides of a separator. -/
theorem codes_append_cons
    (s t : List Char)
    {c : Char}
    (hc : isSeparator c = true) :
    codes isSeparator (s ++ c :: t) =
      codes isSeparator s ++ codes isSeparator t := by
  simp [codes, Text.chunks_append_cons s t hc]

/- A text without separators has one code or none. -/
theorem codes_of_uncut
    {s : List Char}
    (hs : ∀ c ∈ s, isSeparator c = false) :
    codes isSeparator s =
      if Text.trim s = [] then [] else [Text.trim s] := by
  rw [codes, Text.chunks_of_uncut hs]
  by_cases hTrim : Text.trim s = []
  · simp [hTrim]
  · simp [hTrim]

/- Blanks in front of a text do not matter to its codes. -/
theorem codes_blank_append
    {gap : List Char}
    (hGap : ∀ c ∈ gap, Text.isBlank c = true)
    (hUncut : ∀ c ∈ gap, isSeparator c = false)
    (s : List Char) :
    codes isSeparator (gap ++ s) = codes isSeparator s := by
  have hChunk :
      ∀ t : List Char,
        (∀ c ∈ t, isSeparator c = false) →
          codes isSeparator (gap ++ t) =
            codes isSeparator t := by
    intro t ht
    rw [codes_of_uncut ht,
      codes_of_uncut (List.forall_mem_append.mpr ⟨hUncut, ht⟩),
      Text.trim_blank_append hGap]
  induction s using Text.cut_induction isSeparator with
  | hWhole s hs => exact hChunk s hs
  | hCut s c t hs hc _ =>
      rw [← List.append_assoc, codes_append_cons _ t hc,
        codes_append_cons s t hc, hChunk s hs]

/- Blanks behind a text do not matter to its codes. -/
theorem codes_append_blank
    {gap : List Char}
    (hGap : ∀ c ∈ gap, Text.isBlank c = true)
    (hUncut : ∀ c ∈ gap, isSeparator c = false)
    (s : List Char) :
    codes isSeparator (s ++ gap) = codes isSeparator s := by
  induction s using Text.cut_induction isSeparator with
  | hWhole s hs =>
      rw [codes_of_uncut hs,
        codes_of_uncut (List.forall_mem_append.mpr ⟨hs, hUncut⟩),
        Text.trim_append_blank s hGap]
  | hCut s c t _ hc ih =>
      rw [List.append_assoc, List.cons_append,
        codes_append_cons s _ hc, codes_append_cons s t hc, ih]

/- Trimming a text does not change its codes. -/
theorem codes_trim
    (hBlank :
      ∀ c, Text.isBlank c = true → isSeparator c = false)
    (s : List Char) :
    codes isSeparator (Text.trim s) = codes isSeparator s := by
  rcases Text.exists_eq_append_trim_append s with
    ⟨gap, hGap, hs⟩
  have hLead :
      ∀ c ∈ s.takeWhile Text.isBlank,
        Text.isBlank c = true := by
    intro c hc
    exact List.mem_takeWhile_imp hc
  conv_rhs => rw [hs]
  rw [codes_append_blank hGap fun c hc => hBlank c (hGap c hc),
    codes_blank_append hLead fun c hc => hBlank c (hLead c hc)]

------------------------------------------------------------
-- Scanning chunk by chunk
------------------------------------------------------------

/- The scanner starts afresh behind a separator. -/
theorem scanFrom_append_cons
    {c : Char}
    (hc : isSeparator c = true)
    (t : List Char) :
    ∀ (s : List Char) (state : Scan) (place : Nat),
      scanFrom isSeparator state place (s ++ c :: t) =
        scanFrom isSeparator state place s
          ++ scan isSeparator (place + s.length + 1) t
| [], state, place => by
    simp [scanFrom, scan, hc]
| d :: s, state, place => by
    have hPlace :
        place + 1 + s.length + 1 =
          place + (d :: s).length + 1 := by
      simp only [List.length_cons]
      omega
    rw [List.cons_append, scanFrom, scanFrom]
    split
    · rw [scanFrom_append_cons hc t s, hPlace,
        List.append_assoc]
    · rw [scanFrom_append_cons hc t s, hPlace]

/- The tokens on both sides of a separator. -/
theorem scan_append_cons
    (place : Nat)
    (s t : List Char)
    {c : Char}
    (hc : isSeparator c = true) :
    scan isSeparator place (s ++ c :: t) =
      scan isSeparator place s
        ++ scan isSeparator (place + s.length + 1) t :=
  scanFrom_append_cons hc t s .between place

/- Inside a token the scanner reads up to the last blanks. -/
theorem scanFrom_inside :
    ∀ {s : List Char} (start place : Nat)
      (read gap : List Char),
      (∀ c ∈ s, isSeparator c = false) →
        (∀ c ∈ gap, Text.isBlank c = true) →
          scanFrom isSeparator (.inside start read gap) place s =
            [⟨start,
              read.reverse
                ++ Text.trimEnd (gap.reverse ++ s)⟩]
| [], start, place, read, gap, _, hGap => by
    have hReverse :
        ∀ c ∈ gap.reverse, Text.isBlank c = true := by
      intro c hc
      exact hGap c (List.mem_reverse.mp hc)
    have hEmpty : Text.trimEnd gap.reverse = [] :=
      Text.trimEnd_append_blank [] hReverse
    simp [scanFrom, Scan.finished, hEmpty]
| c :: s, start, place, read, gap, hs, hGap => by
    rw [List.forall_mem_cons] at hs
    rw [scanFrom, if_neg (by simp [hs.1]), Scan.next]
    split
    · rename_i hc
      rw [scanFrom_inside start (place + 1) read (c :: gap) hs.2
        (List.forall_mem_cons.mpr ⟨hc, hGap⟩)]
      simp
    · rename_i hc
      rw [scanFrom_inside start (place + 1)
        (c :: gap ++ read) [] hs.2 (by simp)]
      rw [Text.trimEnd_append_cons _ _ (by simpa using hc)]
      simp

/- A text without separators is one token or none. -/
theorem scan_of_uncut
    {s : List Char}
    (hs : ∀ c ∈ s, isSeparator c = false)
    (place : Nat) :
    scan isSeparator place s =
      if Text.trim s = [] then
        []
      else
        [⟨place + (s.takeWhile Text.isBlank).length,
          Text.trim s⟩] := by
  induction s generalizing place with
  | nil => rfl
  | cons c s ih =>
      rw [List.forall_mem_cons] at hs
      rw [scan, scanFrom, if_neg (by simp [hs.1]), Scan.next]
      cases hc : Text.isBlank c with
      | true =>
          have hBlank : ∀ d ∈ [c], Text.isBlank d = true := by
            simpa using hc
          have hTrim : Text.trim (c :: s) = Text.trim s :=
            Text.trim_blank_append hBlank s
          have hPlace :
              place + 1 + (s.takeWhile Text.isBlank).length =
                place
                  + ((c :: s).takeWhile Text.isBlank).length := by
            rw [List.takeWhile_cons_of_pos hc, List.length_cons]
            omega
          rw [if_pos rfl, ← scan, ih hs.2 (place + 1), hTrim,
            hPlace]
      | false =>
          have hTrim := Text.trim_cons_of_not_blank hc s
          rw [if_neg (by simp), scanFrom_inside place (place + 1)
            [c] [] hs.2 (by simp), hTrim]
          simp [hc]

/- The scanner finds the trimmed chunks that are not blank. -/
theorem scan_map_code
    (place : Nat)
    (s : List Char) :
    (scan isSeparator place s).map Token.code =
      codes isSeparator s := by
  induction s using Text.cut_induction isSeparator
    generalizing place with
  | hWhole s hs =>
      rw [scan_of_uncut hs, codes_of_uncut hs]
      split <;> rfl
  | hCut s c t hs hc ih =>
      rw [scan_append_cons place s t hc,
        codes_append_cons s t hc, List.map_append, ih,
        scan_of_uncut hs, codes_of_uncut hs]
      split <;> rfl

------------------------------------------------------------
-- What tokens cover
------------------------------------------------------------

/- A character that separates the segments of some part. -/
def IsSeparator (c : Char) : Prop :=
  c = '-' ∨ c = ':'

instance (c : Char) : Decidable (IsSeparator c) := by
  unfold IsSeparator
  infer_instance

/- A place lies inside a token. -/
def Holds
    (t : Token)
    (i : Nat) : Prop :=
  t.start ≤ i ∧ i < t.stop

/-
  Tokens cover a text that starts at some place. Each of them
  stands in the text where it says and is a trimmed, non-empty
  code without separators, they follow each other with a gap
  in between, and outside of them there are only separators
  and blanks.
-/
structure Covers
    (place : Nat)
    (s : List Char)
    (tokens : List Token) : Prop where
  found :
    ∀ t ∈ tokens,
      ∃ before after,
        s = before ++ t.code ++ after ∧
          t.start = place + before.length
  nonempty : ∀ t ∈ tokens, t.code ≠ []
  trimmed : ∀ t ∈ tokens, Text.IsTrimmed t.code
  uncut : ∀ t ∈ tokens, ∀ c ∈ t.code, ¬ IsSeparator c
  ordered : tokens.Pairwise fun t u => t.stop < u.start
  gaps :
    ∀ i c,
      s[i]? = some c →
        (∀ t ∈ tokens, ¬ t.Holds (place + i)) →
          IsSeparator c ∨ Text.isBlank c = true

namespace Covers

variable {place : Nat} {s t : List Char}
variable {tokens others : List Token}

/- A token that covers a text starts and stops in it. -/
theorem bounds
    (hCovers : Covers place s tokens)
    {token : Token}
    (hToken : token ∈ tokens) :
    place ≤ token.start ∧ token.stop ≤ place + s.length := by
  rcases hCovers.found token hToken with
    ⟨before, after, rfl, hStart⟩
  simp only [stop, List.length_append]
  omega

/- A token that covers a text starts before it stops. -/
theorem start_lt_stop
    (hCovers : Covers place s tokens)
    {token : Token}
    (hToken : token ∈ tokens) :
    token.start < token.stop := by
  have hNe := hCovers.nonempty token hToken
  have hLength := List.length_pos_iff.mpr hNe
  rw [stop]
  omega

/- A token is what stands in the text from start to stop. -/
theorem slice_eq
    (hCovers : Covers 0 s tokens)
    {token : Token}
    (hToken : token ∈ tokens) :
    Text.slice s token.start token.stop = token.code := by
  rcases hCovers.found token hToken with
    ⟨before, after, hText, hStart⟩
  rw [Nat.zero_add] at hStart
  rw [stop, hStart]
  conv_lhs => rw [hText]
  exact Text.slice_append before token.code after

/- There is no separator at a place inside a token. -/
theorem not_isSeparator_of_holds
    (hCovers : Covers 0 s tokens)
    {token : Token}
    (hToken : token ∈ tokens)
    {i : Nat}
    {c : Char}
    (hc : s[i]? = some c)
    (hHolds : token.Holds i) :
    ¬ IsSeparator c := by
  rcases hCovers.found token hToken with
    ⟨before, after, hText, hStart⟩
  rcases hHolds with ⟨hLow, hHigh⟩
  rw [stop] at hHigh
  have hCode : c ∈ token.code := by
    rw [hText, List.append_assoc,
      List.getElem?_append_right (by omega),
      List.getElem?_append_left (by omega)] at hc
    exact List.mem_of_getElem? hc
  exact hCovers.uncut token hToken c hCode

/- Tokens cover both sides of a separator. -/
theorem append_cons
    (hFirst : Covers place s tokens)
    {c : Char}
    (hc : IsSeparator c)
    (hSecond : Covers (place + s.length + 1) t others) :
    Covers place (s ++ c :: t) (tokens ++ others) where
  found := by
    intro token hToken
    rcases List.mem_append.mp hToken with hToken | hToken
    · rcases hFirst.found token hToken with
        ⟨before, after, rfl, hStart⟩
      exact ⟨before, after ++ c :: t, by simp, hStart⟩
    · rcases hSecond.found token hToken with
        ⟨before, after, rfl, hStart⟩
      refine ⟨s ++ c :: before, after, by simp, ?_⟩
      simp only [List.length_append, List.length_cons]
      omega
  nonempty := by
    intro token hToken
    rcases List.mem_append.mp hToken with hToken | hToken
    · exact hFirst.nonempty token hToken
    · exact hSecond.nonempty token hToken
  trimmed := by
    intro token hToken
    rcases List.mem_append.mp hToken with hToken | hToken
    · exact hFirst.trimmed token hToken
    · exact hSecond.trimmed token hToken
  uncut := by
    intro token hToken
    rcases List.mem_append.mp hToken with hToken | hToken
    · exact hFirst.uncut token hToken
    · exact hSecond.uncut token hToken
  ordered := by
    refine List.pairwise_append.mpr
      ⟨hFirst.ordered, hSecond.ordered, ?_⟩
    intro token hToken other hOther
    have hStop := (hFirst.bounds hToken).2
    have hStart := (hSecond.bounds hOther).1
    omega
  gaps := by
    intro i d hd hOutside
    rcases Nat.lt_trichotomy i s.length with hi | hi | hi
    · apply hFirst.gaps i d
      · rwa [List.getElem?_append_left hi] at hd
      · intro token hToken
        exact hOutside token
          (List.mem_append_left _ hToken)
    · subst hi
      have hSame : c = d := by simpa using hd
      exact Or.inl (hSame ▸ hc)
    · have hShift : i - s.length = i - s.length - 1 + 1 := by
        omega
      apply hSecond.gaps (i - s.length - 1) d
      · rw [List.getElem?_append_right (by omega), hShift,
          List.getElem?_cons_succ] at hd
        exact hd
      · intro token hToken hHolds
        refine hOutside token
          (List.mem_append_right _ hToken) ?_
        have hPlace :
            place + s.length + 1 + (i - s.length - 1) =
              place + i := by
          omega
        rwa [hPlace] at hHolds

end Covers

/- The scanner covers a chunk. -/
theorem covers_scan_of_uncut
    (hs : ∀ c ∈ s, isSeparator c = false)
    (hClean : ∀ c ∈ s, ¬ IsSeparator c)
    (place : Nat) :
    Covers place s (scan isSeparator place s) := by
  rw [scan_of_uncut hs]
  rcases Text.exists_eq_append_trim_append s with
    ⟨gap, hGap, hSplit⟩
  have hLead :
      ∀ c ∈ s.takeWhile Text.isBlank,
        Text.isBlank c = true := by
    intro c hc
    exact List.mem_takeWhile_imp hc
  split
  · rename_i hTrim
    refine ⟨by simp, by simp, by simp, by simp, .nil, ?_⟩
    intro i c hc _
    exact Or.inr
      (Text.trim_eq_nil_iff.mp hTrim c
        (List.mem_of_getElem? hc))
  · rename_i hTrim
    refine ⟨?_, ?_, ?_, ?_, List.pairwise_singleton _ _, ?_⟩
    · intro t ht
      rw [List.mem_singleton.mp ht]
      exact ⟨_, gap, hSplit, rfl⟩
    · intro t ht
      rw [List.mem_singleton.mp ht]
      exact hTrim
    · intro t ht
      rw [List.mem_singleton.mp ht]
      exact Text.isTrimmed_trim s
    · intro t ht c hc
      rw [List.mem_singleton.mp ht] at hc
      exact hClean c (Text.mem_of_mem_trim hc)
    · intro i c hc hOutside
      have hOut := hOutside _ (List.mem_singleton.mpr rfl)
      simp only [Holds, stop] at hOut
      right
      rw [hSplit, List.append_assoc] at hc
      rcases Nat.lt_or_ge i (s.takeWhile Text.isBlank).length
        with hi | hi
      · rw [List.getElem?_append_left hi] at hc
        exact hLead c (List.mem_of_getElem? hc)
      · rw [List.getElem?_append_right hi,
          List.getElem?_append_right (by omega)] at hc
        exact hGap c (List.mem_of_getElem? hc)

/-
  The scanner covers a text, if it cuts at separators only and
  at all of those that the text has.
-/
theorem covers_scan
    (hSeparators : ∀ c, isSeparator c = true → IsSeparator c)
    (hAll : ∀ c ∈ s, IsSeparator c → isSeparator c = true)
    (place : Nat) :
    Covers place s (scan isSeparator place s) := by
  induction s using Text.cut_induction isSeparator
    generalizing place with
  | hWhole s hs =>
      refine covers_scan_of_uncut hs ?_ place
      intro c hc hCut
      have hTrue := hAll c hc hCut
      rw [hs c hc] at hTrue
      cases hTrue
  | hCut s c t hs hc ih =>
      rw [scan_append_cons place s t hc]
      refine Covers.append_cons ?_ (hSeparators c hc) ?_
      · refine covers_scan_of_uncut hs ?_ place
        intro d hd hCut
        have hTrue := hAll d (by simp [hd]) hCut
        rw [hs d hd] at hTrue
        cases hTrue
      · refine ih ?_ _
        intro d hd
        exact hAll d (by simp [hd])

------------------------------------------------------------
-- Codes between separators
------------------------------------------------------------

/-
  Codes that are trimmed, not empty and without separators are
  found again when they are joined by a separator.
-/
theorem codes_intercalate
    {separator : Char}
    (hSeparator : isSeparator separator = true)
    {tokens : List (List Char)}
    (hTokens :
      ∀ t ∈ tokens,
        t ≠ [] ∧ Text.IsTrimmed t ∧
          ∀ c ∈ t, isSeparator c = false) :
    codes isSeparator ([separator].intercalate tokens) =
      tokens := by
  have hSingle :
      ∀ t ∈ tokens, codes isSeparator t = [t] := by
    intro t ht
    rcases hTokens t ht with ⟨hNe, hTrimmed, hUncut⟩
    rw [codes_of_uncut hUncut, Text.trim_eq_self hTrimmed,
      if_neg hNe]
  clear hTokens
  induction tokens with
  | nil => rfl
  | cons t tokens ih =>
      rw [List.forall_mem_cons] at hSingle
      cases tokens with
      | nil => simpa [List.intercalate] using hSingle.1
      | cons u tokens =>
          have hJoin :
              [separator].intercalate (t :: u :: tokens) =
                t ++ separator ::
                  [separator].intercalate (u :: tokens) := by
            simp [List.intercalate]
          rw [hJoin, codes_append_cons _ _ hSeparator,
            hSingle.1, ih hSingle.2]
          rfl

end Token

end ModelNumber
