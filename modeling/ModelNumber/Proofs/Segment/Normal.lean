import ModelNumber.Proofs.Text.Trim
import ModelNumber.Proofs.Text.UpperCase
import ModelNumber.Segment.Normal

/-
  The normal form of a text is made character by character
  and then trimmed. Making it neither adds nor hides a blank
  or a colon, and with settled dashes a character that it has
  made stays as it is.

  Main declarations:
    * `Text.respell` and `Text.normal_eq_trim`
    * `Text.SettledDashes` and `Text.respell_of_mem_respell`
    * `Text.flatMap_respell_of_normal_eq_self`
    * `Text.normal_normal` and
      `Text.settledDashes_of_normal_normal`
    * `Options.normalize_eq_ok`
-/

namespace ModelNumber

namespace Text

variable {dashes : List Char} {uppercase : Bool}

------------------------------------------------------------
-- Single characters
------------------------------------------------------------

/- What a character becomes, before the text is trimmed. -/
def respell
    (dashes : List Char)
    (uppercase : Bool)
    (c : Char) : List Char :=
  let hyphened := if dashes.contains c then '-' else c
  if uppercase then
    CaseMap.upperCase.image hyphened
  else
    [hyphened]

/- A normal form is made character by character. -/
theorem normal_eq_trim
    (dashes : List Char)
    (uppercase : Bool)
    (s : List Char) :
    normal dashes uppercase s =
      trim (s.flatMap (respell dashes uppercase)) := by
  unfold normal
  cases uppercase with
  | true =>
      have hMap :
          s.flatMap (respell dashes true) =
            CaseMap.upperCase.apply (s.map fun c =>
              if dashes.contains c then '-' else c) := by
        rw [CaseMap.apply, List.flatMap_map]
        rfl
      rw [hMap]
      rfl
  | false =>
      have hMap :
          s.flatMap (respell dashes false) =
            s.map fun c =>
              if dashes.contains c then '-' else c := by
        induction s with
        | nil => rfl
        | cons c s ih => simp [respell, ih]
      rw [hMap]
      rfl

/- No character is lost. -/
theorem respell_ne_nil (c : Char) :
    respell dashes uppercase c ≠ [] := by
  cases uppercase with
  | true => exact CaseMap.upperCase_image_ne_nil _
  | false => simp [respell]

/- A mark that is no hyphen comes from that mark alone. -/
theorem eq_of_mark_mem_respell
    {c d : Char}
    (hd : d ∈ respell dashes uppercase c)
    (hMark : d.toNat ∈ CaseMap.marks)
    (hHyphen : d ≠ '-') :
    d = c := by
  have hSame :
      d = if dashes.contains c then '-' else c := by
    cases uppercase with
    | true => exact CaseMap.eq_of_mark_mem_upperCase_image hd hMark
    | false => simpa [respell] using hd
  split at hSame
  · exact (hHyphen hSame).elim
  · exact hSame

/- A blank comes from that blank alone. -/
theorem eq_of_blank_mem_respell
    {c d : Char}
    (hd : d ∈ respell dashes uppercase c)
    (hBlank : isBlank d = true) :
    d = c := by
  refine eq_of_mark_mem_respell hd
    (CaseMap.mem_marks_of_isBlank hBlank) ?_
  rintro rfl
  revert hBlank
  decide

/- A colon comes from a colon alone. -/
theorem eq_of_colon_mem_respell
    {c : Char}
    (hc : ':' ∈ respell dashes uppercase c) :
    c = ':' :=
  (eq_of_mark_mem_respell hc (by decide) (by decide)).symm

/- A mark that is no dash stays. -/
theorem respell_of_mark
    {c : Char}
    (hMark : c.toNat ∈ CaseMap.marks)
    (hDash : c ∉ dashes) :
    respell dashes uppercase c = [c] := by
  have hContains : dashes.contains c = false := by
    simpa using hDash
  cases uppercase with
  | true =>
      simp only [respell, hContains, if_true]
      exact CaseMap.upperCase_image_of_mark hMark
  | false => simp [respell, hDash]

/- A hyphen stays, and so does not depend on the dashes. -/
@[simp]
theorem respell_hyphen :
    respell dashes uppercase '-' = ['-'] := by
  have hHyphen :
      (if dashes.contains '-' then '-' else '-') = '-' :=
    ite_self _
  cases uppercase with
  | true =>
      simp only [respell, hHyphen, if_true]
      exact CaseMap.upperCase_image_of_mark (by decide)
  | false => simp [respell]

------------------------------------------------------------
-- Settled dashes
------------------------------------------------------------

/-
  Upper-casing does not turn a character that is no dash into
  one that is.
-/
def SettledDashes
    (dashes : List Char)
    (uppercase : Bool) : Prop :=
  uppercase = true →
    ∀ c, c ∉ dashes →
      ∀ d ∈ CaseMap.upperCase.image c, d ∉ dashes

/- With settled dashes, respelled characters stay. -/
theorem respell_of_mem_respell
    (hSettled : SettledDashes dashes uppercase)
    {c d : Char}
    (hd : d ∈ respell dashes uppercase c) :
    respell dashes uppercase d = [d] := by
  by_cases hc : c ∈ dashes
  · have hHyphen :
        respell dashes uppercase c =
          respell dashes uppercase '-' := by
      simp [respell, hc]
    rw [hHyphen, respell_hyphen, List.mem_singleton] at hd
    rw [hd, respell_hyphen]
  · cases uppercase with
    | false =>
        have hSame : d = c := by simpa [respell, hc] using hd
        rw [hSame]
        simp [respell, hc]
    | true =>
        have hImage : d ∈ CaseMap.upperCase.image c := by
          simpa [respell, hc] using hd
        have hDash : d ∉ dashes := hSettled rfl c hc d hImage
        have hContains : dashes.contains d = false := by
          simpa using hDash
        simp only [respell, hContains, if_true]
        exact CaseMap.upperCase_image_of_mem_image hImage

/- A text of characters that stay stays. -/
theorem flatMap_respell_eq_self
    {s : List Char}
    (hs : ∀ c ∈ s, respell dashes uppercase c = [c]) :
    s.flatMap (respell dashes uppercase) = s := by
  induction s with
  | nil => rfl
  | cons c s ih =>
      rw [List.forall_mem_cons] at hs
      rw [List.flatMap_cons, hs.1, ih hs.2]
      rfl

/- Dashes that are marks are settled. -/
theorem settledDashes_of_marks
    (hDashes : ∀ d ∈ dashes, d.toNat ∈ CaseMap.marks) :
    SettledDashes dashes uppercase := by
  intro _ c hc d hd hDash
  have hSame : d = c :=
    CaseMap.eq_of_mark_mem_upperCase_image hd
      (hDashes d hDash)
  exact hc (hSame ▸ hDash)

------------------------------------------------------------
-- Trimmed texts
------------------------------------------------------------

/- Respelling a trimmed text leaves it trimmed. -/
theorem isTrimmed_flatMap_respell
    {s : List Char}
    (hs : IsTrimmed s) :
    IsTrimmed (s.flatMap (respell dashes uppercase)) := by
  have hKeep :
      ∀ {c d}, isBlank c = false →
        d ∈ respell dashes uppercase c → isBlank d = false := by
    intro c d hc hd
    cases hBlank : isBlank d with
    | false => rfl
    | true =>
        rw [eq_of_blank_mem_respell hd hBlank, hc] at hBlank
        cases hBlank
  constructor
  · intro d hd
    cases s with
    | nil => simp at hd
    | cons c s =>
        have hc : isBlank c = false := hs.1 c (by simp)
        rw [List.flatMap_cons,
          List.head?_append_of_ne_nil _ (respell_ne_nil c)]
          at hd
        exact hKeep hc (List.mem_of_mem_head? hd)
  · intro d hd
    rcases List.eq_nil_or_concat' s with rfl | ⟨t, c, rfl⟩
    · simp at hd
    · have hc : isBlank c = false := hs.2 c (by simp)
      rw [List.flatMap_append, List.flatMap_singleton,
        List.getLast?_append_of_ne_nil _ (respell_ne_nil c)]
        at hd
      exact hKeep hc (List.mem_of_mem_getLast? hd)

/- A text in normal form is spelled as its characters are. -/
theorem flatMap_respell_of_normal_eq_self
    {s : List Char}
    (hs : normal dashes uppercase s = s) :
    s.flatMap (respell dashes uppercase) = s := by
  rw [normal_eq_trim] at hs
  have hTrimmed : IsTrimmed s := by
    rw [← hs]
    exact isTrimmed_trim _
  have hSpelled :
      IsTrimmed (s.flatMap (respell dashes uppercase)) :=
    isTrimmed_flatMap_respell hTrimmed
  rw [← trim_eq_self hSpelled]
  exact hs

/- Respelling does not shorten a text. -/
theorem length_le_length_flatMap_respell
    (dashes : List Char)
    (uppercase : Bool)
    (s : List Char) :
    s.length ≤
      (s.flatMap (respell dashes uppercase)).length := by
  induction s with
  | nil => exact Nat.le_refl 0
  | cons c s ih =>
      have hc : 0 < (respell dashes uppercase c).length :=
        List.length_pos_of_ne_nil (respell_ne_nil c)
      rw [List.flatMap_cons, List.length_append,
        List.length_cons]
      omega

/- A text that stays is made of characters that stay. -/
theorem respell_of_flatMap_eq_self
    {s : List Char}
    (hs : s.flatMap (respell dashes uppercase) = s) :
    ∀ c ∈ s, respell dashes uppercase c = [c] := by
  induction s with
  | nil => simp
  | cons c s ih =>
      cases hc : respell dashes uppercase c with
      | nil => exact (respell_ne_nil c hc).elim
      | cons d rest =>
          rw [List.flatMap_cons, hc, List.cons_append,
            List.cons.injEq] at hs
          rcases hs with ⟨rfl, hs⟩
          have hLength := congrArg List.length hs
          have hLonger :=
            length_le_length_flatMap_respell dashes uppercase s
          rw [List.length_append] at hLength
          have hRest : rest = [] :=
            List.eq_nil_of_length_eq_zero (by omega)
          rw [hRest, List.nil_append] at hs
          rw [hRest] at hc
          exact List.forall_mem_cons.mpr ⟨hc, ih hs⟩

/- The characters of a normal form have been respelled. -/
theorem exists_mem_respell_of_mem_normal
    {s : List Char}
    {d : Char}
    (hd : d ∈ normal dashes uppercase s) :
    ∃ c ∈ s, d ∈ respell dashes uppercase c := by
  rw [normal_eq_trim] at hd
  exact List.mem_flatMap.mp (mem_of_mem_trim hd)

/- With settled dashes a normal form is its own normal form. -/
theorem normal_normal
    (hSettled : SettledDashes dashes uppercase)
    (s : List Char) :
    normal dashes uppercase (normal dashes uppercase s) =
      normal dashes uppercase s := by
  have hStay :
      ∀ d ∈ normal dashes uppercase s,
        respell dashes uppercase d = [d] := by
    intro d hd
    rcases exists_mem_respell_of_mem_normal hd with ⟨c, _, hc⟩
    exact respell_of_mem_respell hSettled hc
  have hTrimmed : IsTrimmed (normal dashes uppercase s) := by
    rw [normal_eq_trim]
    exact isTrimmed_trim _
  rw [normal_eq_trim dashes uppercase (normal _ _ s),
    flatMap_respell_eq_self hStay, trim_eq_self hTrimmed]

/- Dashes are settled if normal forms are their own normal forms. -/
theorem settledDashes_of_normal_normal
    (hNormal :
      ∀ s,
        normal dashes uppercase (normal dashes uppercase s) =
          normal dashes uppercase s) :
    SettledDashes dashes uppercase := by
  rintro rfl c hc d hd hDash
  have hMoved : d.toNat ∉ CaseMap.marks := by
    intro hMark
    have hSame : d = c :=
      CaseMap.eq_of_mark_mem_upperCase_image hd hMark
    exact hc (hSame ▸ hDash)
  have hImage :
      [c].flatMap (respell dashes true) =
        CaseMap.upperCase.image c := by
    simp [respell, hc]
  have hTrimmed : IsTrimmed (CaseMap.upperCase.image c) := by
    have hBlank : isBlank c = false := by
      cases hCase : isBlank c with
      | false => rfl
      | true =>
          have hMark := CaseMap.mem_marks_of_isBlank hCase
          rw [CaseMap.upperCase_image_of_mark hMark,
            List.mem_singleton] at hd
          exact (hMoved (hd ▸ hMark)).elim
    rw [← hImage]
    exact isTrimmed_flatMap_respell (by simp [IsTrimmed, hBlank])
  have hStay := hNormal [c]
  rw [normal_eq_trim dashes true [c], hImage,
    trim_eq_self hTrimmed] at hStay
  have hSpelled :=
    respell_of_flatMap_eq_self
      (flatMap_respell_of_normal_eq_self hStay) d hd
  have hHyphen :
      respell dashes true d = respell dashes true '-' := by
    simp [respell, hDash]
  rw [hHyphen, respell_hyphen, List.cons.injEq] at hSpelled
  exact hMoved (hSpelled.1 ▸ by decide)

end Text

------------------------------------------------------------
-- Options
------------------------------------------------------------

/- With single dashes every text has a normal form. -/
theorem Options.normalize_eq_ok
    {options : Options}
    {dashes : List Char}
    (hDashes : options.dashes = .ok dashes)
    (text : String) :
    options.normalize text =
      .ok (String.ofList
        (Text.normal dashes options.uppercase text.toList)) := by
  rw [Options.normalize, hDashes]
  rfl

/- The dashes of a number that is typed as usual. -/
def Options.usualDashes : List Char :=
  ['\u2010', '\u2011', '\u2013', '\u2014', '\u2212']

/- The dash characters of the standard options are single. -/
theorem Options.dashes_eq_usualDashes
    {options : Options}
    (hUsual :
      options.dashCharacters = ({} : Options).dashCharacters) :
    options.dashes = .ok Options.usualDashes := by
  rw [Options.dashes, hUsual]
  rfl

/- The usual dashes are settled. -/
theorem Options.settledDashes_usualDashes
    (uppercase : Bool) :
    Text.SettledDashes Options.usualDashes uppercase := by
  -- As a test of the list, not of all characters there are.
  have hMarks :
      Options.usualDashes.all
        (fun d => CaseMap.marks.contains d.toNat) = true := by
    decide
  apply Text.settledDashes_of_marks
  intro d hd
  rw [List.all_eq_true] at hMarks
  exact List.contains_iff_mem.mp (hMarks d hd)

end ModelNumber
