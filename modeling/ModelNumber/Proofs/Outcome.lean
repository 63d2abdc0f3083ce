import Mathlib.Data.List.Forall2
import ModelNumber.Json.Convert

/-
  Computations that end with a result or with a defect: when
  a sequence of them has a result, where it fails, and what is
  kept along the steps of a loop.

  Main declarations:
    * `Outcome.bind_eq_ok_iff` and `Outcome.bind_eq_error_iff`
    * `Outcome.mapM_eq_ok_iff` and `Outcome.mapM_eq_ok_map`
    * `Outcome.mapM_eq_error_iff`
    * `Outcome.foldlM_invariant` and `Outcome.foldlM_eq_self`
    * `Outcome.exists_foldlM_eq_ok`
    * `Json.IsObject` and `Json.items`
    * `Json.key_eq_ok_iff`, `Json.required_eq_ok_iff` and
      `Json.optionalField_eq_ok_iff`
-/

namespace ModelNumber

namespace Outcome

variable {ε α β : Type}

------------------------------------------------------------
-- Single steps
------------------------------------------------------------

/- A sequence of two steps has a result when both have. -/
theorem bind_eq_ok_iff
    {x : Except ε α}
    {f : α → Except ε β}
    {b : β} :
    (x >>= f) = .ok b ↔ ∃ a, x = .ok a ∧ f a = .ok b := by
  cases x with
  | error e => simp [Bind.bind, Except.bind]
  | ok a => simp [Bind.bind, Except.bind]

/- A sequence of two steps fails where one of them does. -/
theorem bind_eq_error_iff
    {x : Except ε α}
    {f : α → Except ε β}
    {e : ε} :
    (x >>= f) = .error e ↔
      x = .error e ∨ ∃ a, x = .ok a ∧ f a = .error e := by
  cases x with
  | error d => simp [Bind.bind, Except.bind]
  | ok a => simp [Bind.bind, Except.bind]

/- To change the result of two steps is to change the second. -/
theorem map_bind
    {γ : Type}
    (x : Except ε α)
    (f : α → Except ε β)
    (g : β → γ) :
    (x >>= f).map g = x >>= fun a => (f a).map g := by
  cases x <;> rfl

/- A result that is returned is the result. -/
theorem pure_eq_ok_iff
    {a b : α} :
    (pure a : Except ε α) = .ok b ↔ a = b := by
  simp [pure, Except.pure]

/- A result that is returned is no error. -/
theorem pure_ne_error
    {a : α}
    {e : ε} :
    (pure a : Except ε α) ≠ .error e :=
  nofun

/- What ends well has a result. -/
theorem exists_eq_ok_of_isOk
    {x : Except ε α}
    (h : x.isOk = true) :
    ∃ a, x = .ok a := by
  cases x with
  | error e => cases h
  | ok a => exact ⟨a, rfl⟩

/- What has a value as an option has it as a result. -/
theorem toOption_eq_some_iff
    {x : Except ε α}
    {a : α} :
    x.toOption = some a ↔ x = .ok a := by
  cases x <;> simp [Except.toOption]

/- A changed error is still an error. -/
theorem mapError_eq_ok_iff
    {δ : Type}
    {f : ε → δ}
    {x : Except ε α}
    {a : α} :
    Except.mapError f x = .ok a ↔ x = .ok a := by
  cases x <;> simp [Except.mapError]

/- A changed error stems from an error. -/
theorem mapError_eq_error_iff
    {δ : Type}
    {f : ε → δ}
    {x : Except ε α}
    {d : δ} :
    Except.mapError f x = .error d ↔
      ∃ e, x = .error e ∧ f e = d := by
  cases x <;> simp [Except.mapError]

------------------------------------------------------------
-- Lists
------------------------------------------------------------

/- All elements of a list have the results of another list. -/
theorem mapM_eq_ok_iff
    {f : α → Except ε β}
    {as : List α}
    {bs : List β} :
    as.mapM f = .ok bs ↔
      List.Forall₂ (fun a b => f a = .ok b) as bs := by
  induction as generalizing bs with
  | nil =>
      rw [List.mapM_nil, pure_eq_ok_iff,
        List.forall₂_nil_left_iff]
      exact eq_comm
  | cons a as ih =>
      rw [List.mapM_cons, bind_eq_ok_iff,
        List.forall₂_cons_left_iff]
      constructor
      · rintro ⟨b, hb, hRest⟩
        rcases bind_eq_ok_iff.mp hRest with ⟨cs, hcs, hAll⟩
        exact
          ⟨b, cs, hb, ih.mp hcs,
            (pure_eq_ok_iff.mp hAll).symm⟩
      · rintro ⟨b, cs, hb, hcs, rfl⟩
        exact
          ⟨b, hb, bind_eq_ok_iff.mpr
            ⟨cs, ih.mpr hcs, pure_eq_ok_iff.mpr rfl⟩⟩

/- If each element has a result, so has the list. -/
theorem exists_mapM_eq_ok
    {f : α → Except ε β}
    {as : List α}
    (h : ∀ a ∈ as, ∃ b, f a = .ok b) :
    ∃ bs, as.mapM f = .ok bs := by
  induction as with
  | nil => exact ⟨[], rfl⟩
  | cons a as ih =>
      rw [List.forall_mem_cons] at h
      rcases h.1 with ⟨b, hb⟩
      rcases ih h.2 with ⟨bs, hbs⟩
      refine ⟨b :: bs, ?_⟩
      rw [mapM_eq_ok_iff] at hbs ⊢
      exact .cons hb hbs

/- An element of a list with results has a result. -/
theorem exists_of_mem_of_mapM_eq_ok
    {f : α → Except ε β}
    {as : List α}
    {bs : List β}
    (h : as.mapM f = .ok bs)
    {a : α}
    (ha : a ∈ as) :
    ∃ b ∈ bs, f a = .ok b := by
  rw [mapM_eq_ok_iff] at h
  induction h with
  | nil => cases ha
  | cons hab _ ih =>
      rcases List.mem_cons.mp ha with rfl | ha
      · exact ⟨_, List.mem_cons_self, hab⟩
      · rcases ih ha with ⟨b, hb, hfb⟩
        exact ⟨b, List.mem_cons_of_mem _ hb, hfb⟩

/- A list fails with its first element that has no result. -/
theorem mapM_eq_error_iff
    {f : α → Except ε β}
    {as : List α}
    {e : ε} :
    as.mapM f = .error e ↔
      ∃ before a after,
        as = before ++ a :: after ∧
          (∀ x ∈ before, ∃ b, f x = .ok b) ∧ f a = .error e := by
  induction as with
  | nil => simp [pure, Except.pure]
  | cons first as ih =>
      rw [List.mapM_cons, bind_eq_error_iff]
      constructor
      · rintro (hFirst | ⟨b, hb, hRest⟩)
        · exact ⟨[], first, as, rfl, by simp, hFirst⟩
        · rcases bind_eq_error_iff.mp hRest with
            hLater | ⟨_, _, hPure⟩
          · rcases ih.mp hLater with
              ⟨before, a, after, rfl, hBefore, ha⟩
            exact
              ⟨first :: before, a, after, rfl,
                List.forall_mem_cons.mpr ⟨⟨b, hb⟩, hBefore⟩, ha⟩
          · cases hPure
      · rintro ⟨before, a, after, hSplit, hBefore, ha⟩
        cases before with
        | nil =>
            cases hSplit
            exact .inl ha
        | cons _ before =>
            cases hSplit
            rw [List.forall_mem_cons] at hBefore
            rcases hBefore.1 with ⟨b, hb⟩
            refine .inr ⟨b, hb, bind_eq_error_iff.mpr (.inl ?_)⟩
            exact ih.mpr ⟨before, a, after, rfl, hBefore.2, ha⟩

/- Where each element has a known result, so has the list. -/
theorem mapM_eq_ok_map
    {f : α → Except ε β}
    {g : α → β}
    {as : List α}
    (h : ∀ a ∈ as, f a = .ok (g a)) :
    as.mapM f = .ok (as.map g) := by
  rw [mapM_eq_ok_iff, List.forall₂_map_right_iff,
    List.forall₂_same]
  exact h

/- Where each result is known, so is the list of them. -/
theorem eq_map_of_mapM_eq_ok
    {f : α → Except ε β}
    {g : α → β}
    {as : List α}
    {bs : List β}
    (h : as.mapM f = .ok bs)
    (hKnown : ∀ a b, f a = .ok b → b = g a) :
    bs = as.map g := by
  rw [mapM_eq_ok_iff] at h
  induction h with
  | nil => rfl
  | cons hab _ ih => rw [List.map_cons, hKnown _ _ hab, ih]

/- What is written of each element is read back. -/
theorem mapM_map_eq_ok
    {write : α → β}
    {read : β → Except ε α}
    {as : List α}
    (h : ∀ a ∈ as, read (write a) = .ok a) :
    (as.map write).mapM read = .ok as := by
  rw [mapM_eq_ok_iff, List.forall₂_map_left_iff,
    List.forall₂_same]
  exact h

/- What can be written element by element is read back. -/
theorem exists_mapM_mapM_eq_ok
    {write : α → Except ε β}
    {read : β → Except ε α}
    {as : List α}
    (h : ∀ a ∈ as, ∃ b, write a = .ok b ∧ read b = .ok a) :
    ∃ bs, as.mapM write = .ok bs ∧ bs.mapM read = .ok as := by
  simp only [mapM_eq_ok_iff]
  induction as with
  | nil => exact ⟨[], .nil, .nil⟩
  | cons a as ih =>
      rw [List.forall_mem_cons] at h
      rcases h.1 with ⟨b, hWrite, hRead⟩
      rcases ih h.2 with ⟨bs, hWrites, hReads⟩
      exact ⟨b :: bs, .cons hWrite hWrites, .cons hRead hReads⟩

/- A result in a list is that of an element of a list. -/
theorem exists_of_mem_result
    {f : α → Except ε β}
    {as : List α}
    {bs : List β}
    (h : as.mapM f = .ok bs)
    {b : β}
    (hb : b ∈ bs) :
    ∃ a ∈ as, f a = .ok b := by
  rw [mapM_eq_ok_iff] at h
  induction h with
  | nil => cases hb
  | cons hab _ ih =>
      rcases List.mem_cons.mp hb with rfl | hb
      · exact ⟨_, List.mem_cons_self, hab⟩
      · rcases ih hb with ⟨a, ha, hfa⟩
        exact ⟨a, List.mem_cons_of_mem _ ha, hfa⟩

/- Where all results together are empty, each of them is. -/
theorem eq_ok_nil_of_mapM_flatten
    {f : α → Except ε (List β)}
    {as : List α}
    {bs : List (List β)}
    (h : as.mapM f = .ok bs)
    (hEmpty : bs.flatten = []) :
    ∀ a ∈ as, f a = .ok [] := by
  intro a ha
  rcases exists_of_mem_of_mapM_eq_ok h ha with ⟨b, hb, hfb⟩
  rw [List.flatten_eq_nil_iff.mp hEmpty b hb] at hfb
  exact hfb

------------------------------------------------------------
-- Loops
------------------------------------------------------------

/- What every step of a loop keeps, the loop keeps. -/
theorem foldlM_invariant
    {step : β → α → Except ε β}
    {P : β → Prop}
    (hStep :
      ∀ b a c, P b → step b a = .ok c → P c) :
    ∀ (as : List α) {b c : β},
      P b → as.foldlM step b = .ok c → P c
| [], b, c, hb, h => by
    rw [List.foldlM_nil, pure_eq_ok_iff] at h
    exact h ▸ hb
| a :: as, b, c, hb, h => by
    rw [List.foldlM_cons, bind_eq_ok_iff] at h
    rcases h with ⟨d, hd, hRest⟩
    exact foldlM_invariant hStep as (hStep b a d hb hd) hRest

/- A loop fails in one of its steps. -/
theorem exists_of_foldlM_eq_error
    {step : β → α → Except ε β}
    {e : ε} :
    ∀ {as : List α} {b : β},
      as.foldlM step b = .error e →
        ∃ c, ∃ a ∈ as, step c a = .error e
| [], _, h => by cases h
| a :: as, b, h => by
    rw [List.foldlM_cons, bind_eq_error_iff] at h
    rcases h with hFirst | ⟨c, _, hRest⟩
    · exact ⟨b, a, List.mem_cons_self, hFirst⟩
    · rcases exists_of_foldlM_eq_error hRest with ⟨d, x, hx, hd⟩
      exact ⟨d, x, List.mem_cons_of_mem a hx, hd⟩

/- A loop stays where each of its steps does. -/
theorem foldlM_eq_self
    {step : β → α → Except ε β}
    {b : β} :
    ∀ {as : List α},
      (∀ a ∈ as, step b a = .ok b) → as.foldlM step b = .ok b
| [], _ => rfl
| a :: as, hStep => by
    rw [List.forall_mem_cons] at hStep
    rw [List.foldlM_cons]
    exact
      bind_eq_ok_iff.mpr ⟨b, hStep.1, foldlM_eq_self hStep.2⟩

/- A loop has a result when each of its steps has one. -/
theorem exists_foldlM_eq_ok
    {step : β → α → Except ε β}
    {P : β → Prop} :
    ∀ {as : List α},
      (∀ b, ∀ a ∈ as, P b → ∃ c, step b a = .ok c ∧ P c) →
        ∀ {b : β}, P b → ∃ c, as.foldlM step b = .ok c ∧ P c
| [], _, b, hb => ⟨b, rfl, hb⟩
| a :: as, hStep, b, hb => by
    rcases hStep b a List.mem_cons_self hb with ⟨d, hd, hPd⟩
    have hRest :
        ∀ b, ∀ a ∈ as, P b → ∃ c, step b a = .ok c ∧ P c := by
      intro e x hx
      exact hStep e x (List.mem_cons_of_mem a hx)
    rcases exists_foldlM_eq_ok hRest hPd with ⟨c, hc, hPc⟩
    refine ⟨c, ?_, hPc⟩
    rw [List.foldlM_cons]
    exact bind_eq_ok_iff.mpr ⟨d, hd, hc⟩

end Outcome

------------------------------------------------------------
-- Reading values
------------------------------------------------------------

/- A value is an object. -/
def Json.IsObject (v : Json) : Prop :=
  ∃ fields, v = .obj fields

/- Fields make an object. -/
theorem Json.isObject_obj (fields : List (String × Json)) :
    (Json.obj fields).IsObject :=
  ⟨fields, rfl⟩

instance (v : Json) : Decidable v.IsObject :=
  match v with
  | .obj fields => .isTrue (Json.isObject_obj fields)
  | .scalar _ => .isFalse (by simp [Json.IsObject])
  | .arr _ => .isFalse (by simp [Json.IsObject])

/- A value is a key when it is that scalar. -/
theorem Json.key_eq_ok_iff
    {v : Json}
    {k : Scalar} :
    v.key = .ok k ↔ v = .scalar k := by
  cases v <;> simp [Json.key]

/- The elements of a value, none if it is no sequence. -/
def Json.items (v : Json) : List Json :=
  match v.elements with
  | .ok items => items
  | .error _ => []

theorem Json.items_eq
    {v : Json}
    {items : List Json}
    (h : v.elements = .ok items) :
    v.items = items := by
  rw [Json.items, h]

/- A field is required for its value. -/
theorem Json.required_eq_ok_iff
    {v value : Json}
    {name : String} :
    v.required name = .ok value ↔ v.field? name = some value := by
  cases v with
  | scalar k => simp [required, field?]
  | arr items => simp [required, field?]
  | obj fields =>
      simp only [required, field?]
      cases fields.lookup name <;> simp

/- An optional field is that of an object, or its default. -/
theorem Json.optionalField_eq_ok_iff
    {v default value : Json}
    {name : String} :
    v.optionalField name default = .ok value ↔
      (∃ fields, v = .obj fields) ∧
        (v.field? name).getD default = value := by
  cases v with
  | scalar k => simp [optionalField]
  | arr items => simp [optionalField]
  | obj fields => simp [optionalField, field?]

end ModelNumber
