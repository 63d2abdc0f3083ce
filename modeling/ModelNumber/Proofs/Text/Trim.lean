import Mathlib.Data.List.DropRight
import ModelNumber.Text.Blank

/-
  Trimming takes the blanks at both ends away and nothing
  else, and leaves a text without such blanks as it is.

  Main declarations:
    * `Text.IsTrimmed`
    * `Text.trim_blank_append` and `Text.trim_append_blank`
    * `Text.isTrimmed_trim` and `Text.trim_eq_self`
    * `Text.exists_eq_append_trim_append`
    * `Text.trim_isInfix_trim`
-/

namespace ModelNumber

namespace Text

------------------------------------------------------------
-- Trimming the end
------------------------------------------------------------

/- Blanks at the end are dropped. -/
theorem trimEnd_append_blank
    (s : List Char)
    {gap : List Char}
    (hGap : ∀ c ∈ gap, isBlank c = true) :
    trimEnd (s ++ gap) = trimEnd s := by
  have hReverse : ∀ c ∈ gap.reverse, isBlank c = true := by
    intro c hc
    exact hGap c (List.mem_reverse.mp hc)
  simp [trimEnd, trimStart, List.dropWhile_append,
    List.dropWhile_eq_nil_iff.mpr hReverse]

/- Trimming the end keeps all up to a character that stays. -/
theorem trimEnd_append_cons
    (s t : List Char)
    {c : Char}
    (hc : isBlank c = false) :
    trimEnd (s ++ c :: t) = s ++ c :: trimEnd t := by
  have hDrop :
      (t.reverse ++ c :: s.reverse).dropWhile isBlank =
        t.reverse.dropWhile isBlank ++ c :: s.reverse := by
    rw [List.dropWhile_append]
    split
    · rename_i hEmpty
      rw [List.isEmpty_iff.mp hEmpty]
      simp [hc]
    · rfl
  simp [trimEnd, trimStart, hDrop]

/- A text whose last character is no blank ends there. -/
theorem trimEnd_concat
    (s : List Char)
    {c : Char}
    (hc : isBlank c = false) :
    trimEnd (s ++ [c]) = s ++ [c] := by
  rw [trimEnd_append_cons s [] hc]
  rfl

------------------------------------------------------------
-- Trimming both ends
------------------------------------------------------------

/- Blanks at the start do not matter. -/
theorem trim_blank_append
    {gap : List Char}
    (hGap : ∀ c ∈ gap, isBlank c = true)
    (s : List Char) :
    trim (gap ++ s) = trim s := by
  unfold trim trimStart
  rw [List.dropWhile_append_of_pos hGap]

/- Blanks at the end do not matter. -/
theorem trim_append_blank
    (s : List Char)
    {gap : List Char}
    (hGap : ∀ c ∈ gap, isBlank c = true) :
    trim (s ++ gap) = trim s := by
  unfold trim trimStart
  rw [List.dropWhile_append]
  split
  · rename_i hEmpty
    rw [List.isEmpty_iff.mp hEmpty,
      List.dropWhile_eq_nil_iff.mpr hGap]
  · exact trimEnd_append_blank _ hGap

/- A text is all blank, or blanks and then a character. -/
theorem blank_or_eq_append_cons (s : List Char) :
    (∀ c ∈ s, isBlank c = true) ∨
      ∃ gap c t,
        s = gap ++ c :: t ∧
          (∀ d ∈ gap, isBlank d = true) ∧
          isBlank c = false := by
  induction s with
  | nil => exact Or.inl (by simp)
  | cons d s ih =>
      cases hd : isBlank d with
      | false => exact Or.inr ⟨[], d, s, rfl, by simp, hd⟩
      | true =>
          rcases ih with hAll | ⟨gap, c, t, rfl, hGap, hc⟩
          · exact Or.inl (List.forall_mem_cons.mpr ⟨hd, hAll⟩)
          · exact Or.inr
              ⟨d :: gap, c, t, rfl,
                List.forall_mem_cons.mpr ⟨hd, hGap⟩, hc⟩

/- The first character that stays is where a text starts. -/
theorem trim_cons_of_not_blank
    {c : Char}
    (hc : isBlank c = false)
    (s : List Char) :
    trim (c :: s) = c :: trimEnd s := by
  have hStart : trimStart (c :: s) = c :: s := by
    simp [trimStart, hc]
  rw [trim, hStart]
  exact trimEnd_append_cons [] s hc

/- Only a text of blanks is trimmed to nothing. -/
theorem trim_eq_nil_iff {s : List Char} :
    trim s = [] ↔ ∀ c ∈ s, isBlank c = true := by
  constructor
  · intro h
    rcases blank_or_eq_append_cons s with
      hAll | ⟨gap, c, t, rfl, hGap, hc⟩
    · exact hAll
    · rw [trim_blank_append hGap, trim_cons_of_not_blank hc]
        at h
      cases h
  · intro h
    have hTrim := trim_blank_append h []
    rw [List.append_nil] at hTrim
    exact hTrim

------------------------------------------------------------
-- Trimmed texts
------------------------------------------------------------

/- A text that neither starts nor ends with a blank. -/
def IsTrimmed (s : List Char) : Prop :=
  (∀ c ∈ s.head?, isBlank c = false) ∧
    ∀ c ∈ s.getLast?, isBlank c = false

/- There is nothing to trim at a trimmed text. -/
theorem trim_eq_self
    {s : List Char}
    (h : IsTrimmed s) :
    trim s = s := by
  rcases List.eq_nil_or_concat' s with rfl | ⟨t, c, rfl⟩
  · rfl
  · have hLast : isBlank c = false := h.2 c (by simp)
    have hStart : trimStart (t ++ [c]) = t ++ [c] := by
      cases t with
      | nil => simp [trimStart, hLast]
      | cons d t =>
          have hHead : isBlank d = false := h.1 d (by simp)
          simp [trimStart, hHead]
    rw [trim, hStart]
    exact trimEnd_concat t hLast

/-
  A text is its leading blanks, what trimming leaves of it,
  and further blanks.
-/
theorem exists_eq_append_trim_append (s : List Char) :
    ∃ gap : List Char,
      (∀ c ∈ gap, isBlank c = true) ∧
        s = s.takeWhile isBlank ++ trim s ++ gap := by
  refine ⟨(trimStart s).rtakeWhile isBlank, ?_, ?_⟩
  · intro c hc
    exact List.mem_rtakeWhile_imp hc
  · have hEnd :
        trim s ++ (trimStart s).rtakeWhile isBlank =
          trimStart s :=
      List.rdropWhile_append_rtakeWhile
    rw [List.append_assoc, hEnd]
    exact List.takeWhile_append_dropWhile.symm

/- Trimming leaves a trimmed text. -/
theorem isTrimmed_trim (s : List Char) :
    IsTrimmed (trim s) := by
  rcases blank_or_eq_append_cons s with
    hAll | ⟨gap, c, t, rfl, hGap, hc⟩
  · rw [trim_eq_nil_iff.mpr hAll]
    simp [IsTrimmed]
  · rw [trim_blank_append hGap, trim_cons_of_not_blank hc]
    refine ⟨by simpa using hc, ?_⟩
    intro d hd
    have hEnd : (c :: t).rdropWhile isBlank = c :: trimEnd t :=
      trimEnd_append_cons [] t hc
    have hNe : (c :: t).rdropWhile isBlank ≠ [] := by
      simp [hEnd]
    have hLast := List.rdropWhile_last_not isBlank _ hNe
    rw [← hEnd, List.getLast?_eq_some_getLast hNe] at hd
    cases hd
    simpa using hLast

/- What trimming leaves was there before. -/
theorem mem_of_mem_trim
    {s : List Char}
    {c : Char}
    (hc : c ∈ trim s) :
    c ∈ s := by
  rcases exists_eq_append_trim_append s with ⟨gap, _, hs⟩
  rw [hs]
  simp [hc]

------------------------------------------------------------
-- Fragments
------------------------------------------------------------

/- Trimming leaves a fragment of a text. -/
theorem trim_isInfix (s : List Char) : trim s <:+: s := by
  rcases exists_eq_append_trim_append s with ⟨gap, _, hs⟩
  exact ⟨_, gap, hs.symm⟩

/-
  A fragment that does not start with a blank is still there
  without the blanks at the start.
-/
theorem isInfix_trimStart
    {s t : List Char}
    (hHead : ∀ c ∈ s.head?, isBlank c = false)
    (hInfix : s <:+: t) :
    s <:+: trimStart t := by
  rcases hInfix with ⟨before, after, rfl⟩
  cases s with
  | nil => exact List.nil_infix
  | cons c s =>
      have hKept : trimStart (c :: s ++ after) = c :: s ++ after := by
        simp [trimStart, hHead c rfl]
      rw [trimStart, List.append_assoc, List.dropWhile_append]
      split
      · rw [← trimStart, hKept]
        exact (List.prefix_append _ _).isInfix
      · exact ⟨_, after, List.append_assoc _ _ _⟩

/-
  A fragment that does not end with a blank is still there
  without the blanks at the end.
-/
theorem isInfix_trimEnd
    {s t : List Char}
    (hLast : ∀ c ∈ s.getLast?, isBlank c = false)
    (hInfix : s <:+: t) :
    s <:+: trimEnd t := by
  have hHead : ∀ c ∈ s.reverse.head?, isBlank c = false := by
    rwa [List.head?_reverse]
  have hReverse := isInfix_trimStart hHead hInfix.reverse
  rw [trimEnd]
  simpa using hReverse.reverse

/- What trimming leaves of a fragment is left of the text too. -/
theorem trim_isInfix_trim
    {s t : List Char}
    (hInfix : s <:+: t) :
    trim s <:+: trim t := by
  have hTrimmed := isTrimmed_trim s
  have hWithin : trim s <:+: t := (trim_isInfix s).trans hInfix
  exact isInfix_trimEnd hTrimmed.2
    (isInfix_trimStart hTrimmed.1 hWithin)

end Text

end ModelNumber
