import Mathlib.Data.List.Chain
import Mathlib.Data.List.Induction
import ModelNumber.Enhancement.Basic

/-
  Suffixes behind a description. A suffix is set off by a
  space, and is left out if the text ends with it already. Of
  a row of suffixes those that are put in are a part, in the
  same order, and none is put in twice in a row. The row can
  be put behind its own result without a change exactly when
  any two of the suffixes are nested: one ends with the other.

  Main declarations:
    * `Description.EndsWith`
    * `Description.add`, `Description.addAll` and
      `Attribute.append_eq`
    * `Description.added` and `Description.addAll_eq_append`
    * `Description.isChain_added`
    * `Description.AreNested` and
      `Description.addAll_addAll_eq_iff`
-/

namespace ModelNumber

namespace Description

------------------------------------------------------------
-- One suffix
------------------------------------------------------------

/- A text ends with a suffix that a space sets off. -/
def EndsWith (text suffix : String) : Prop :=
  (" " ++ suffix).toList <:+ text.toList

instance (text suffix : String) :
    Decidable (EndsWith text suffix) :=
  inferInstanceAs
    (Decidable ((" " ++ suffix).toList <:+ text.toList))

/- Put a suffix behind a text that does not end with it. -/
def add (text suffix : String) : String :=
  if EndsWith text suffix then
    text
  else
    text ++ (" " ++ suffix)

/- What a suffix has been put behind ends with it. -/
theorem endsWith_add (text suffix : String) :
    EndsWith (add text suffix) suffix := by
  unfold add
  split
  · assumption
  · rw [EndsWith, String.toList_append (s := text)]
    exact List.suffix_append _ _

end Description

/- A suffix is appended to a description that is a text. -/
theorem Attribute.append_eq
    {a : Attribute}
    {text : String}
    (hText : a.description = .str text)
    (suffix : String) :
    a.append suffix =
      .ok { a with
        description := .str (Description.add text suffix) } := by
  unfold append
  rw [hText]
  by_cases hEnds : Description.EndsWith text suffix
  · have hTest :
        (" " ++ suffix).toList.isSuffixOf text.toList = true :=
      List.isSuffixOf_iff_suffix.mpr hEnds
    rw [Description.add, if_pos hEnds]
    refine (if_pos hTest).trans ?_
    rw [← hText]
  · have hTest :
        ¬(" " ++ suffix).toList.isSuffixOf text.toList = true :=
      fun h => hEnds (List.isSuffixOf_iff_suffix.mp h)
    rw [Description.add, if_neg hEnds]
    exact if_neg hTest

namespace Description

------------------------------------------------------------
-- A row of suffixes
------------------------------------------------------------

/- Put suffixes behind a text, one after the other. -/
def addAll (text : String) (suffixes : List String) : String :=
  suffixes.foldl add text

/- The suffixes of a row that are put behind a text. -/
def added (text : String) : List String → List String
| [] => []
| s :: ss =>
    if EndsWith text s then
      added text ss
    else
      s :: added (add text s) ss

/- Suffixes in a row, each set off by a space. -/
def joined (suffixes : List String) : String :=
  String.join (suffixes.map (" " ++ ·))

/- Nothing stands in front of the suffixes but the text. -/
theorem addAll_eq_append (text : String) (ss : List String) :
    addAll text ss = text ++ joined (added text ss) := by
  induction ss generalizing text with
  | nil => exact String.append_empty.symm
  | cons s ss ih =>
      have hRest :
          addAll text (s :: ss) = addAll (add text s) ss := rfl
      rw [hRest, ih, added]
      split
      · rename_i hEnds
        rw [add, if_pos hEnds]
      · rename_i hEnds
        have hJoined :
            joined (s :: added (add text s) ss) =
              (" " ++ s) ++ joined (added (add text s) ss) :=
          String.join_cons
        rw [hJoined, ← String.append_assoc, add, if_neg hEnds]

/- Suffixes are left out, never reordered. -/
theorem added_sublist (text : String) (ss : List String) :
    (added text ss).Sublist ss := by
  induction ss generalizing text with
  | nil => exact .slnil
  | cons s ss ih =>
      rw [added]
      split
      · exact (ih text).cons s
      · exact (ih _).cons_cons s

/- The first suffix that is put in is new to the text. -/
theorem not_endsWith_of_head?_added
    {text s : String}
    {ss : List String}
    (h : (added text ss).head? = some s) :
    ¬EndsWith text s := by
  induction ss with
  | nil => cases h
  | cons t ss ih =>
      rw [added] at h
      split at h
      · exact ih h
      · rename_i hEnds
        cases h
        exact hEnds

/- No suffix is put in twice in a row. -/
theorem isChain_added (text : String) (ss : List String) :
    (added text ss).IsChain (· ≠ ·) := by
  induction ss generalizing text with
  | nil => exact .nil
  | cons s ss ih =>
      rw [added]
      split
      · exact ih text
      · refine List.isChain_cons.mpr ⟨?_, ih _⟩
        rintro t hHead rfl
        exact
          not_endsWith_of_head?_added hHead
            (endsWith_add text s)

------------------------------------------------------------
-- The same row again
------------------------------------------------------------

/- Nothing is put in where the text ends with each suffix. -/
theorem added_eq_nil_iff {text : String} {ss : List String} :
    added text ss = [] ↔ ∀ s ∈ ss, EndsWith text s := by
  induction ss with
  | nil => simp [added]
  | cons s ss ih =>
      rw [added, List.forall_mem_cons, ← ih]
      split
      · rename_i hEnds
        simp [hEnds]
      · rename_i hEnds
        simp [hEnds]

/- A text stays as it is where it ends with each suffix. -/
theorem addAll_eq_self_iff {text : String} {ss : List String} :
    addAll text ss = text ↔ ∀ s ∈ ss, EndsWith text s := by
  rw [addAll_eq_append, ← added_eq_nil_iff]
  constructor
  · intro hSame
    have hNone : joined (added text ss) = "" :=
      String.append_right_inj text |>.mp
        (hSame.trans String.append_empty.symm)
    cases hAdded : added text ss with
    | nil => rfl
    | cons s ts =>
        rw [hAdded, joined, List.map_cons, String.join_cons]
          at hNone
        simp at hNone
  · intro hNone
    rw [hNone]
    exact String.append_empty

/- Copies of one suffix do what it does alone. -/
theorem addAll_eq_add
    {text s : String}
    {ss : List String}
    (hSame : ∀ t ∈ ss, t = s)
    (hSome : s ∈ ss) :
    addAll text ss = add text s := by
  cases ss with
  | nil => cases hSome
  | cons t ss =>
      rw [List.forall_mem_cons] at hSame
      rcases hSame with ⟨rfl, hRest⟩
      have hNothing :
          addAll (add text t) ss = add text t := by
        rw [addAll_eq_self_iff]
        intro u hu
        rw [hRest u hu]
        exact endsWith_add text t
      exact hNothing

/- One of two suffixes ends with the other one. -/
def AreNested (s t : String) : Prop :=
  (" " ++ s).toList <:+ (" " ++ t).toList ∨
    (" " ++ t).toList <:+ (" " ++ s).toList

instance (s t : String) : Decidable (AreNested s t) :=
  inferInstanceAs
    (Decidable
      ((" " ++ s).toList <:+ (" " ++ t).toList ∨
        (" " ++ t).toList <:+ (" " ++ s).toList))

/- Two suffixes of the same text are nested. -/
theorem areNested_of_endsWith
    {text s t : String}
    (hs : EndsWith text s)
    (ht : EndsWith text t) :
    AreNested s t :=
  List.suffix_or_suffix_of_suffix hs ht

/- What nested suffixes are put behind ends with each of them. -/
theorem endsWith_addAll
    {text : String}
    {ss : List String}
    (hNested : ∀ s ∈ ss, ∀ t ∈ ss, AreNested s t) :
    ∀ s ∈ ss, EndsWith (addAll text ss) s := by
  induction ss using List.reverseRecOn with
  | nil => simp
  | append_singleton ss t ih =>
      have hLast : t ∈ ss ++ [t] := by simp
      have hBefore : ∀ s ∈ ss, EndsWith (addAll text ss) s := by
        refine ih ?_
        intro s hs u hu
        exact
          hNested s (List.mem_append_left _ hs) u
            (List.mem_append_left _ hu)
      have hStep :
          addAll text (ss ++ [t]) = add (addAll text ss) t := by
        rw [addAll, List.foldl_append]
        rfl
      have hEnds := endsWith_add (addAll text ss) t
      rw [hStep]
      intro s hs
      rcases List.mem_append.mp hs with hs | hs
      · rcases hNested s (List.mem_append_left _ hs) t hLast with
          hInner | hOuter
        · exact hInner.trans hEnds
        · -- The longer one is there, so the shorter one is left out.
          have hThere : EndsWith (addAll text ss) t :=
            hOuter.trans (hBefore s hs)
          rw [add, if_pos hThere]
          exact hBefore s hs
      · rw [List.mem_singleton.mp hs]
        exact hEnds

/-
  A row of suffixes changes nothing when it is put in again
  exactly if any two of them are nested.
-/
theorem addAll_addAll_eq_iff {text : String} {ss : List String} :
    addAll (addAll text ss) ss = addAll text ss ↔
      ∀ s ∈ ss, ∀ t ∈ ss, AreNested s t := by
  rw [addAll_eq_self_iff]
  constructor
  · intro hEnds s hs t ht
    exact areNested_of_endsWith (hEnds s hs) (hEnds t ht)
  · exact endsWith_addAll

end Description

end ModelNumber
