import ModelNumber.Enhancement.Builtin
import ModelNumber.Proofs.Attribute
import ModelNumber.Proofs.Outcome

/-
  What enhancers do to attributes. They write nothing but
  descriptions, a description that is a text stays one, and
  what it says is only added to. So a run has a result as long
  as each enhancer derives one from attributes that are the
  given ones up to descriptions.

  Main declarations:
    * `Attribute.Redescribes` and `Attribute.Extends`
    * `Enhancer.eq_or_append_of_run`
    * `Enhancer.forall₂_of_run`
    * `Enhancer.redescribes_of_runAll`
    * `Enhancer.extends_of_runAll`
    * `Attribute.HasText` and `Enhancer.hasText_of_runAll`
    * `Enhancer.exists_runAll` and
      `Enhancer.exists_run_of_runAll`
    * `Attribute.exists_of_get?_byCategory`
-/

namespace ModelNumber

------------------------------------------------------------
-- Descriptions
------------------------------------------------------------

namespace Attribute

/- The second attribute is the first one but for its description. -/
def Redescribes (a b : Attribute) : Prop :=
  b = { a with description := b.description }

theorem Redescribes.refl (a : Attribute) : a.Redescribes a :=
  rfl

theorem Redescribes.symm
    {a b : Attribute}
    (hab : a.Redescribes b) :
    b.Redescribes a := by
  rw [Redescribes] at hab ⊢
  rw [hab]

theorem Redescribes.trans
    {a b c : Attribute}
    (hab : a.Redescribes b)
    (hbc : b.Redescribes c) :
    a.Redescribes c := by
  rw [Redescribes, hab] at hbc
  exact hbc

/-
  The second attribute is described like the first one, with
  or without more text behind it.
-/
def Extends (a b : Attribute) : Prop :=
  b.description = a.description ∨
    ∃ s t : String,
      a.description = .str s ∧ b.description = .str (s ++ t)

theorem Extends.refl (a : Attribute) : a.Extends a :=
  Or.inl rfl

theorem Extends.trans
    {a b c : Attribute}
    (hab : a.Extends b)
    (hbc : b.Extends c) :
    a.Extends c := by
  rcases hab with hab | ⟨s, t, ha, hb⟩
  · rw [Extends, hab] at hbc
    exact hbc
  · rcases hbc with hbc | ⟨u, v, hu, hc⟩
    · exact Or.inr ⟨s, t, ha, by rw [hbc, hb]⟩
    · rw [hb, Json.scalar.injEq, Scalar.str.injEq] at hu
      refine Or.inr ⟨s, t ++ v, ha, ?_⟩
      rw [hc, ← hu, String.append_assoc]

/- The description of an attribute is a text. -/
def HasText (a : Attribute) : Prop :=
  ∃ description, a.description = .str description

instance (a : Attribute) : Decidable a.HasText :=
  decidable_of_iff
    (a.description = .str a.description.shown)
    ⟨fun h => ⟨_, h⟩, by
      rintro ⟨description, h⟩
      rw [h]
      rfl⟩

/- Appending a suffix writes nothing but the description. -/
theorem redescribes_of_append
    {a b : Attribute}
    {suffix : String}
    (h : a.append suffix = .ok b) :
    a.Redescribes b := by
  unfold append at h
  split at h
  · simp only at h
    split at h <;> cases h <;> rfl
  · cases h

/- Appending a suffix only adds to the description. -/
theorem extends_of_append
    {a b : Attribute}
    {suffix : String}
    (h : a.append suffix = .ok b) :
    a.Extends b := by
  unfold append at h
  split at h
  · rename_i description hDescription
    simp only at h
    split at h
    · cases h
      exact .refl a
    · cases h
      exact Or.inr
        ⟨description, " " ++ suffix, hDescription, rfl⟩
  · cases h

/- A suffix can be appended to a text, which gives a text. -/
theorem exists_append
    {a : Attribute}
    (ha : a.HasText)
    (suffix : String) :
    ∃ b, a.append suffix = .ok b ∧ b.HasText := by
  rcases ha with ⟨description, hDescription⟩
  simp only [append, hDescription]
  split
  · exact ⟨a, rfl, description, hDescription⟩
  · exact ⟨_, rfl, _, rfl⟩

end Attribute

/- What a suffix has been appended to is a text. -/
theorem Attribute.hasText_of_append
    {a b : Attribute}
    {suffix : String}
    (h : a.append suffix = .ok b) :
    b.HasText := by
  unfold append at h
  split at h
  · rename_i description hDescription
    simp only at h
    split at h
    · cases h
      exact ⟨description, hDescription⟩
    · cases h
      exact ⟨_, rfl⟩
  · cases h

/- A list cannot be split where no element satisfies the test. -/
theorem splitLast?_eq_none_iff
    {α : Type}
    {p : α → Bool} :
    ∀ {as : List α},
      splitLast? p as = none ↔ ∀ a ∈ as, p a = false
| [] => by simp [splitLast?]
| a :: as => by
    rw [List.forall_mem_cons, ← splitLast?_eq_none_iff]
    cases hSplit : splitLast? p as with
    | some parts => simp [splitLast?, hSplit]
    | none => simp [splitLast?, hSplit]

/- Lists that are related one by one are related in a row. -/
theorem forall₂_trans
    {α : Type}
    {R : α → α → Prop}
    (hTrans : ∀ a b c, R a b → R b c → R a c) :
    ∀ {as bs cs : List α},
      List.Forall₂ R as bs →
        List.Forall₂ R bs cs → List.Forall₂ R as cs
| _, _, _, .nil, .nil => .nil
| _, _, _, .cons hab habs, .cons hbc hbcs =>
    .cons (hTrans _ _ _ hab hbc) (forall₂_trans hTrans habs hbcs)

/- Each attribute of a list is redescribed in another list. -/
abbrev Redescribed (as bs : List Attribute) : Prop :=
  List.Forall₂ Attribute.Redescribes as bs

theorem Redescribed.refl (as : List Attribute) :
    Redescribed as as :=
  List.forall₂_same.mpr fun a _ => Attribute.Redescribes.refl a

theorem Redescribed.trans
    {as bs cs : List Attribute}
    (hab : Redescribed as bs)
    (hbc : Redescribed bs cs) :
    Redescribed as cs := by
  refine forall₂_trans ?_ hab hbc
  intro a b c
  exact Attribute.Redescribes.trans

theorem Redescribed.symm
    {as bs : List Attribute}
    (h : Redescribed as bs) :
    Redescribed bs as :=
  List.Forall₂.flip (h.imp fun _ _ => Attribute.Redescribes.symm)

/- An attribute can be found again in its redescribed form. -/
theorem Redescribed.exists_of_mem
    {as bs : List Attribute}
    (h : Redescribed as bs)
    {a : Attribute}
    (ha : a ∈ as) :
    ∃ b ∈ bs, a.Redescribes b := by
  induction h with
  | nil => cases ha
  | cons hab _ ih =>
      rcases List.mem_cons.mp ha with rfl | ha
      · exact ⟨_, List.mem_cons_self, hab⟩
      · rcases ih ha with ⟨b, hb, hRest⟩
        exact ⟨b, List.mem_cons_of_mem _ hb, hRest⟩

/- A redescribed attribute comes from an attribute. -/
theorem Redescribed.exists_of_mem_right
    {as bs : List Attribute}
    (h : Redescribed as bs)
    {b : Attribute}
    (hb : b ∈ bs) :
    ∃ a ∈ as, a.Redescribes b := by
  rcases h.symm.exists_of_mem hb with ⟨a, ha, hba⟩
  exact ⟨a, ha, hba.symm⟩

/- What does not look at descriptions does not see them change. -/
theorem Redescribed.map_eq
    {β : Type}
    {f : Attribute → β}
    (hf : ∀ a b, a.Redescribes b → f b = f a)
    {as bs : List Attribute}
    (h : Redescribed as bs) :
    bs.map f = as.map f := by
  induction h with
  | nil => rfl
  | cons hab _ ih =>
      rw [List.map_cons, List.map_cons, hf _ _ hab, ih]

------------------------------------------------------------
-- What a run writes
------------------------------------------------------------

namespace Enhancer

/-
  A step of enhancement changes nothing, or it appends a suffix
  to the last attribute of the category that it writes.
-/
theorem eq_or_append_of_run
    {tables : Json}
    {as bs : List Attribute}
    {e : Enhancer}
    (h : e.run tables as = .ok bs) :
    bs = as ∨
      ∃ before target after suffix written,
        as = before ++ target :: after ∧
          (target.category == e.writes) = true ∧
          (∀ a ∈ after, (a.category == e.writes) = false) ∧
          target.append suffix = .ok written ∧
          bs = before ++ written :: after := by
  unfold run at h
  split at h
  · cases h
    exact Or.inl rfl
  · rename_i before target after hSplit
    rcases splitLast?_eq_some hSplit with
      ⟨hParts, hTarget, hAfter⟩
    rcases Outcome.bind_eq_ok_iff.mp h with ⟨suffix, _, hRest⟩
    cases suffix with
    | none =>
        cases hRest
        exact Or.inl rfl
    | some suffix =>
        rcases Outcome.bind_eq_ok_iff.mp hRest with
          ⟨written, hWritten, hAll⟩
        cases hAll
        exact Or.inr
          ⟨before, target, after, suffix, written, hParts,
            hTarget, hAfter, hWritten, rfl⟩

section Relation

variable {R : Attribute → Attribute → Prop}
variable {tables : Json} {as bs : List Attribute}

/-
  A step of enhancement relates each attribute to what becomes
  of it, as appending a suffix does.
-/
theorem forall₂_of_run
    (hRefl : ∀ a, R a a)
    (hAppend : ∀ a b suffix, a.append suffix = .ok b → R a b)
    {e : Enhancer}
    (h : e.run tables as = .ok bs) :
    List.Forall₂ R as bs := by
  have hSame : ∀ cs : List Attribute, List.Forall₂ R cs cs := by
    intro cs
    exact List.forall₂_same.mpr fun c _ => hRefl c
  rcases eq_or_append_of_run h with
    rfl | ⟨before, target, after, suffix, written, rfl, _, _,
      hWritten, rfl⟩
  · exact hSame bs
  · exact List.rel_append (hSame before)
      (.cons (hAppend _ _ _ hWritten) (hSame after))

/- So does a run of enhancers, if relations can be chained. -/
theorem forall₂_of_runAll
    (hRefl : ∀ a, R a a)
    (hTrans : ∀ a b c, R a b → R b c → R a c)
    (hAppend : ∀ a b suffix, a.append suffix = .ok b → R a b)
    {enhancers : List Enhancer}
    (h : runAll enhancers tables as = .ok bs) :
    List.Forall₂ R as bs := by
  refine Outcome.foldlM_invariant
    (P := List.Forall₂ R as) ?_ enhancers
    (List.forall₂_same.mpr fun a _ => hRefl a) h
  intro cs e ds hcs hStep
  exact forall₂_trans hTrans hcs
    (forall₂_of_run hRefl hAppend hStep)

/- A step of enhancement writes nothing but descriptions. -/
theorem redescribes_of_run
    {e : Enhancer}
    (h : e.run tables as = .ok bs) :
    Redescribed as bs :=
  forall₂_of_run Attribute.Redescribes.refl
    (fun _ _ _ => Attribute.redescribes_of_append) h

/- Enhancement writes nothing but descriptions. -/
theorem redescribes_of_runAll
    {enhancers : List Enhancer}
    (h : runAll enhancers tables as = .ok bs) :
    Redescribed as bs :=
  forall₂_of_runAll Attribute.Redescribes.refl
    (fun _ _ _ => Attribute.Redescribes.trans)
    (fun _ _ _ => Attribute.redescribes_of_append) h

/- Enhancement only adds to descriptions. -/
theorem extends_of_runAll
    {enhancers : List Enhancer}
    (h : runAll enhancers tables as = .ok bs) :
    List.Forall₂ Attribute.Extends as bs :=
  forall₂_of_runAll Attribute.Extends.refl
    (fun _ _ _ => Attribute.Extends.trans)
    (fun _ _ _ => Attribute.extends_of_append) h

end Relation

/- A step of enhancement leaves descriptions texts. -/
theorem hasText_of_run
    {tables : Json}
    {as bs : List Attribute}
    {e : Enhancer}
    (hText : ∀ a ∈ as, a.HasText)
    (h : e.run tables as = .ok bs) :
    ∀ b ∈ bs, b.HasText := by
  rcases eq_or_append_of_run h with
    rfl | ⟨before, target, after, suffix, written, rfl, _, _,
      hWritten, rfl⟩
  · exact hText
  · rw [List.forall_mem_append, List.forall_mem_cons] at hText
    rw [List.forall_mem_append, List.forall_mem_cons]
    exact
      ⟨hText.1, Attribute.hasText_of_append hWritten,
        hText.2.2⟩

/- Enhancement leaves descriptions texts. -/
theorem hasText_of_runAll
    {enhancers : List Enhancer}
    {tables : Json}
    {as bs : List Attribute}
    (hText : ∀ a ∈ as, a.HasText)
    (h : runAll enhancers tables as = .ok bs) :
    ∀ b ∈ bs, b.HasText := by
  refine Outcome.foldlM_invariant
    (P := fun cs => ∀ c ∈ cs, Attribute.HasText c) ?_ enhancers
    hText h
  intro cs e ds hcs hStep
  exact hasText_of_run hcs hStep

------------------------------------------------------------
-- When a run has a result
------------------------------------------------------------

/- A step has a result if its enhancer derives one. -/
theorem exists_run
    {tables : Json}
    {as : List Attribute}
    {e : Enhancer}
    {derived : Option String}
    (hDerive :
      e.derive (Attribute.byCategory as) tables = .ok derived)
    (hText : ∀ a ∈ as, a.HasText) :
    ∃ bs, e.run tables as = .ok bs ∧ ∀ b ∈ bs, b.HasText := by
  have hSuffix :
      e.suffix as tables =
        .ok (derived.filter (!·.isEmpty)) := by
    rw [suffix, hDerive]
    rfl
  unfold run
  split
  · exact ⟨as, rfl, hText⟩
  · rename_i before target after hSplit
    rw [hSuffix]
    cases derived.filter (!·.isEmpty) with
    | none => exact ⟨as, rfl, hText⟩
    | some suffix =>
        have hParts := (splitLast?_eq_some hSplit).1
        subst hParts
        rw [List.forall_mem_append, List.forall_mem_cons]
          at hText
        rcases Attribute.exists_append hText.2.1 suffix with
          ⟨written, hWritten, hWrittenText⟩
        refine ⟨before ++ written :: after, ?_, ?_⟩
        · exact Outcome.bind_eq_ok_iff.mpr
            ⟨_, rfl, Outcome.bind_eq_ok_iff.mpr
              ⟨written, hWritten, rfl⟩⟩
        · rw [List.forall_mem_append, List.forall_mem_cons]
          exact ⟨hText.1, hWrittenText, hText.2.2⟩

/-
  Enhancement has a result if each enhancer derives one from
  the attributes, however they are described.
-/
theorem exists_runAll
    {enhancers : List Enhancer}
    {tables : Json}
    {as : List Attribute}
    (hDerive :
      ∀ e ∈ enhancers, ∀ bs, Redescribed as bs →
        ∃ derived,
          e.derive (Attribute.byCategory bs) tables =
            .ok derived)
    (hText : ∀ a ∈ as, a.HasText) :
    ∃ bs, runAll enhancers tables as = .ok bs := by
  have hStep :
      ∀ bs, ∀ e ∈ enhancers,
        (Redescribed as bs ∧ ∀ b ∈ bs, b.HasText) →
          ∃ cs,
            run tables bs e = .ok cs ∧
              Redescribed as cs ∧ ∀ c ∈ cs, c.HasText := by
    intro bs e he hbs
    rcases hDerive e he bs hbs.1 with ⟨derived, hDerived⟩
    rcases exists_run hDerived hbs.2 with ⟨cs, hcs, hAll⟩
    exact
      ⟨cs, hcs, hbs.1.trans (redescribes_of_run hcs), hAll⟩
  rcases Outcome.exists_foldlM_eq_ok hStep
      ⟨.refl as, hText⟩ with
    ⟨bs, hbs, _⟩
  exact ⟨bs, hbs⟩

/- A step with a result has derived something for its target. -/
theorem exists_derive_of_run
    {tables : Json}
    {as bs : List Attribute}
    {e : Enhancer}
    (h : e.run tables as = .ok bs)
    {a : Attribute}
    (ha : a ∈ as)
    (hTarget : (a.category == e.writes) = true) :
    ∃ derived,
      e.derive (Attribute.byCategory as) tables =
        .ok derived := by
  unfold run at h
  split at h
  · rename_i hNone
    rw [splitLast?_eq_none_iff] at hNone
    rw [hNone a ha] at hTarget
    cases hTarget
  · rcases Outcome.bind_eq_ok_iff.mp h with ⟨suffix, hSuffix, _⟩
    rcases Outcome.bind_eq_ok_iff.mp hSuffix with
      ⟨derived, hDerived, _⟩
    exact ⟨derived, hDerived⟩

/- Every enhancer of a run that has a result has run. -/
theorem exists_run_of_runAll
    {tables : Json} :
    ∀ {enhancers : List Enhancer} {as bs : List Attribute},
      runAll enhancers tables as = .ok bs →
        ∀ e ∈ enhancers,
          ∃ cs ds, Redescribed as cs ∧ e.run tables cs = .ok ds
| [], _, _, _, _, he => by cases he
| d :: enhancers, as, bs, h, e, he => by
    rw [runAll, List.foldlM_cons, Outcome.bind_eq_ok_iff] at h
    rcases h with ⟨cs, hcs, hRest⟩
    rcases List.mem_cons.mp he with rfl | he
    · exact ⟨as, cs, .refl as, hcs⟩
    · rcases exists_run_of_runAll hRest e he with
        ⟨ds, es, hds, hes⟩
      exact ⟨ds, es, (redescribes_of_run hcs).trans hds, hes⟩

end Enhancer

------------------------------------------------------------
-- Attributes by category
------------------------------------------------------------

namespace Attribute

/- The map of attributes by category has those that speak. -/
theorem get?_byCategory
    (as : List Attribute)
    (category : Scalar) :
    (byCategory as).get? category = last? as category := by
  rw [byCategory, get?_ofList_map, Option.map_id']

/- An attribute that speaks for a category has that category. -/
theorem exists_of_get?_byCategory
    {as : List Attribute}
    {category : Scalar}
    {a : Attribute}
    (h : (byCategory as).get? category = some a) :
    a ∈ as ∧ (a.category == category) = true := by
  rw [get?_byCategory] at h
  rcases last?_eq_some_iff.mp h with
    ⟨before, after, rfl, hCategory, _⟩
  exact ⟨List.mem_append_cons_self, hCategory⟩

/- A category that an attribute has is spoken for. -/
theorem exists_get?_byCategory
    {as : List Attribute}
    {category : Scalar}
    {a : Attribute}
    (ha : a ∈ as)
    (hCategory : (a.category == category) = true) :
    ∃ b, (byCategory as).get? category = some b := by
  rw [get?_byCategory, ← Option.isSome_iff_exists, isSome_last?]
  exact List.any_eq_true.mpr ⟨a, ha, hCategory⟩

end Attribute

end ModelNumber
