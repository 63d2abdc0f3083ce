import ModelNumber.Attribute
import ModelNumber.Proofs.OrderedMap

/-
  Which attribute speaks for a category: the last one that has
  it, as is seen when attributes are added at the end.

  Main declarations:
    * `splitLast?_concat` and `splitLast?_append_cons`
    * `Attribute.last?_concat` and `Attribute.last?_cons`
    * `Attribute.last?_eq_some_iff`
    * `Attribute.get?_ofList_map`
    * `Attribute.IsLastAt` and `Attribute.IsLastAt.last?_eq`
    * `Attribute.lasts` and `Attribute.last?_lasts`
    * `Attribute.last?_eq_of_perm`
-/

namespace ModelNumber

/- An element at the end is the last one, or is passed over. -/
theorem splitLast?_concat
    {α : Type}
    (p : α → Bool)
    (as : List α)
    (a : α) :
    splitLast? p (as ++ [a]) =
      if p a then
        some (as, a, [])
      else
        (splitLast? p as).map fun parts =>
          (parts.1, parts.2.1, parts.2.2 ++ [a]) := by
  induction as with
  | nil =>
      rw [List.nil_append, splitLast?, splitLast?]
      rfl
  | cons b as ih =>
      rw [List.cons_append, splitLast?, ih]
      split
      · rename_i before found after hParts
        split at hParts
        · rename_i ha
          rw [if_pos ha]
          cases hParts
          rfl
        · rename_i ha
          rw [if_neg ha]
          rcases Option.map_eq_some_iff.mp hParts with
            ⟨parts, hRest, hSame⟩
          rw [splitLast?, hRest]
          cases hSame
          rfl
      · rename_i hNone
        split at hNone
        · cases hNone
        · rename_i ha
          rw [Option.map_eq_none_iff] at hNone
          rw [if_neg ha, splitLast?, hNone]
          cases hb : p b <;> simp

/- A list is split at an element if none behind it is like it. -/
theorem splitLast?_append_cons
    {α : Type}
    {p : α → Bool}
    {before after : List α}
    {a : α}
    (ha : p a = true)
    (hAfter : ∀ b ∈ after, p b = false) :
    splitLast? p (before ++ a :: after) =
      some (before, a, after) := by
  induction after using List.reverseRecOn with
  | nil => rw [splitLast?_concat, if_pos ha]
  | append_singleton after b ih =>
      rw [List.forall_mem_append, List.forall_mem_singleton]
        at hAfter
      rw [← List.cons_append, ← List.append_assoc,
        splitLast?_concat, hAfter.2, ih hAfter.1]
      rfl

namespace Attribute

------------------------------------------------------------
-- The last attribute of a category
------------------------------------------------------------

/- An attribute at the end speaks for its category. -/
theorem last?_concat
    (as : List Attribute)
    (a : Attribute)
    (category : Scalar) :
    last? (as ++ [a]) category =
      if a.category == category then
        some a
      else
        last? as category := by
  unfold last?
  rw [splitLast?_concat]
  split
  · rfl
  · rw [Option.map_map]
    rfl

/-
  An attribute speaks for a category if it has the category
  and no attribute behind it does.
-/
theorem last?_eq_some_iff
    {as : List Attribute}
    {category : Scalar}
    {a : Attribute} :
    last? as category = some a ↔
      ∃ before after,
        as = before ++ a :: after ∧
          (a.category == category) = true ∧
          ∀ b ∈ after, (b.category == category) = false := by
  constructor
  · intro h
    rcases Option.map_eq_some_iff.mp h with
      ⟨⟨before, found, after⟩, hSplit, rfl⟩
    exact ⟨before, after, splitLast?_eq_some hSplit⟩
  · rintro ⟨before, after, rfl, hCategory, hAfter⟩
    have hSplit :
        splitLast? (·.category == category)
            (before ++ a :: after) =
          some (before, a, after) :=
      splitLast?_append_cons hCategory hAfter
    rw [last?, hSplit]
    rfl

/- What speaks for a category is one of the attributes. -/
theorem mem_of_last?
    {as : List Attribute}
    {category : Scalar}
    {a : Attribute}
    (h : last? as category = some a) :
    a ∈ as := by
  rcases last?_eq_some_iff.mp h with ⟨before, after, rfl, _⟩
  exact List.mem_append_cons_self

/- What speaks for a category has it. -/
theorem category_of_last?
    {as : List Attribute}
    {category : Scalar}
    {a : Attribute}
    (h : last? as category = some a) :
    (a.category == category) = true := by
  rcases last?_eq_some_iff.mp h with ⟨_, _, _, hCategory, _⟩
  exact hCategory

/- An attribute in front only speaks if no other one does. -/
theorem last?_cons
    (a : Attribute)
    (as : List Attribute)
    (category : Scalar) :
    last? (a :: as) category =
      (last? as category).or
        (if a.category == category then some a else none) := by
  unfold last?
  rw [splitLast?]
  cases splitLast? (·.category == category) as with
  | some parts => rfl
  | none =>
      cases a.category == category <;> rfl

/- A category is spoken for if an attribute has it. -/
theorem isSome_last?
    (as : List Attribute)
    (category : Scalar) :
    (last? as category).isSome =
      as.any (·.category == category) := by
  induction as with
  | nil => rfl
  | cons a as ih =>
      rw [last?_cons, Option.isSome_or, ih, List.any_cons,
        Bool.or_comm]
      cases a.category == category <;> rfl

/-
  In a map that is made of attributes, a category has what the
  attribute that speaks for it has.
-/
theorem get?_ofList_map
    {α : Type}
    (f : Attribute → α)
    (as : List Attribute)
    (category : Scalar) :
    (OrderedMap.ofList
        (as.map fun a => (a.category, f a))).get? category =
      (last? as category).map f := by
  induction as using List.reverseRecOn with
  | nil => rfl
  | append_singleton as a ih =>
      rw [List.map_append, List.map_singleton,
        OrderedMap.get?_ofList_concat, last?_concat]
      split
      · rfl
      · exact ih

------------------------------------------------------------
-- The place of the last attribute
------------------------------------------------------------

/-
  An attribute stands in a place of a list and has a category,
  and no later one has.
-/
structure IsLastAt
    (as : List Attribute)
    (category : Scalar)
    (place : Nat)
    (a : Attribute) : Prop where
  here : as[place]? = some a
  has : (a.category == category) = true
  last :
    ∀ later b,
      place < later →
        as[later]? = some b → (b.category == category) = false

/- The element between two lists stands behind the first one. -/
theorem isLastAt_append_cons
    {before after : List Attribute}
    {category : Scalar}
    {a : Attribute}
    (hCategory : (a.category == category) = true)
    (hAfter : ∀ b ∈ after, (b.category == category) = false) :
    IsLastAt (before ++ a :: after) category before.length a where
  here := by simp
  has := hCategory
  last := by
    intro later b hLater hb
    rw [List.getElem?_append_right (Nat.le_of_lt hLater)] at hb
    cases hOffset : later - before.length with
    | zero => omega
    | succ offset =>
        rw [hOffset, List.getElem?_cons_succ] at hb
        exact hAfter b (List.mem_of_getElem? hb)

namespace IsLastAt

variable {as : List Attribute} {category other : Scalar}
variable {place : Nat} {a b : Attribute}

/- The place of the last attribute is one of the list. -/
theorem lt_length
    (hLast : IsLastAt as category place a) :
    place < as.length :=
  (List.getElem?_eq_some_iff.mp hLast.here).1

/- Equal categories have the same last attribute. -/
theorem congr
    (hLast : IsLastAt as category place a)
    (hSame : (category == other) = true) :
    IsLastAt as other place a where
  here := hLast.here
  has := BEq.trans hLast.has hSame
  last := by
    intro later b hLater hb
    rw [← Bool.not_eq_true]
    intro hOther
    have hNot := hLast.last later b hLater hb
    rw [BEq.trans hOther (BEq.symm hSame)] at hNot
    cases hNot

/- The attribute that speaks for a category has a place. -/
theorem exists_of_last?
    (h : last? as category = some a) :
    ∃ place, IsLastAt as category place a := by
  rcases last?_eq_some_iff.mp h with
    ⟨before, after, rfl, hCategory, hAfter⟩
  exact ⟨_, isLastAt_append_cons hCategory hAfter⟩

/- The last attribute of a category speaks for it. -/
theorem last?_eq
    (hLast : IsLastAt as category place a) :
    last? as category = some a := by
  rcases List.getElem?_eq_some_iff.mp hLast.here with
    ⟨hPlace, ha⟩
  refine last?_eq_some_iff.mpr
    ⟨as.take place, as.drop (place + 1), ?_, hLast.has, ?_⟩
  · rw [← ha, List.getElem_cons_drop, List.take_append_drop]
  · intro b hb
    rcases List.mem_drop_iff_getElem.mp hb with
      ⟨offset, hOffset, rfl⟩
    exact hLast.last (place + 1 + offset) _ (by omega)
      (List.getElem?_eq_getElem _)

/- A category has its last attribute in one place only. -/
theorem place_eq
    {placeToo : Nat}
    (hLast : IsLastAt as category place a)
    (hLastToo : IsLastAt as other placeToo b)
    (hSame : (category == other) = true) :
    place = placeToo := by
  rcases Nat.lt_trichotomy place placeToo with
    hLess | hEqual | hMore
  · have hNot := hLast.last placeToo b hLess hLastToo.here
    rw [BEq.trans hLastToo.has (BEq.symm hSame)] at hNot
    cases hNot
  · exact hEqual
  · have hNot := hLastToo.last place a hMore hLast.here
    rw [BEq.trans hLast.has hSame] at hNot
    cases hNot

end IsLastAt

------------------------------------------------------------
-- Attributes that speak
------------------------------------------------------------

/- The attributes that speak for their own category, in order. -/
def lasts : List Attribute → List Attribute
| [] => []
| a :: as =>
    if as.any (·.category == a.category) then
      lasts as
    else
      a :: lasts as

/- Attributes of different categories. -/
abbrev AreDistinct (as : List Attribute) : Prop :=
  as.Pairwise fun a b => (a.category == b.category) = false

/- Attributes that do not speak are left out. -/
theorem lasts_sublist : ∀ as : List Attribute, (lasts as).Sublist as
| [] => .slnil
| a :: as => by
    unfold lasts
    split
    · exact (lasts_sublist as).cons a
    · exact (lasts_sublist as).cons_cons a

/- Only one attribute speaks for each category. -/
theorem areDistinct_lasts :
    ∀ as : List Attribute, AreDistinct (lasts as)
| [] => .nil
| a :: as => by
    unfold lasts
    split
    · exact areDistinct_lasts as
    · rename_i hAny
      refine List.pairwise_cons.mpr ⟨?_, areDistinct_lasts as⟩
      intro b hb
      rw [Bool.not_eq_true, List.any_eq_false] at hAny
      have hOther := hAny b ((lasts_sublist as).subset hb)
      rwa [Bool.not_eq_true, BEq.comm] at hOther

/- Those that speak speak for all categories of the list. -/
theorem last?_lasts
    (as : List Attribute)
    (category : Scalar) :
    last? (lasts as) category = last? as category := by
  induction as with
  | nil => rfl
  | cons a as ih =>
      rw [last?_cons, lasts]
      split
      · rename_i hAny
        rw [ih]
        cases hLast : last? as category with
        | some b => rfl
        | none =>
            -- Whoever speaks for `a` would have its category.
            have hOther : (a.category == category) = false := by
              rw [← Bool.not_eq_true]
              intro hSame
              rcases List.any_eq_true.mp hAny with ⟨b, hb, hab⟩
              have hSpoken :
                  as.any (·.category == category) = true :=
                List.any_eq_true.mpr
                  ⟨b, hb, BEq.trans hab hSame⟩
              rw [← isSome_last?, hLast] at hSpoken
              cases hSpoken
            rw [hOther]
            rfl
      · rw [last?_cons, ih]

/- Among different categories each attribute speaks. -/
theorem last?_eq_some_iff_of_areDistinct
    {as : List Attribute}
    (hDistinct : AreDistinct as)
    {category : Scalar}
    {a : Attribute} :
    last? as category = some a ↔
      a ∈ as ∧ (a.category == category) = true := by
  rw [last?_eq_some_iff]
  constructor
  · rintro ⟨before, after, rfl, hCategory, _⟩
    exact ⟨List.mem_append_cons_self, hCategory⟩
  · rintro ⟨ha, hCategory⟩
    rcases List.append_of_mem ha with ⟨before, after, rfl⟩
    refine ⟨before, after, rfl, hCategory, ?_⟩
    intro b hb
    have hAfter :=
      (List.pairwise_cons.mp
        (List.pairwise_append.mp hDistinct).2.1).1
    rw [← Bool.not_eq_true]
    intro hSame
    have hBoth := BEq.trans hCategory (BEq.symm hSame)
    rw [hAfter b hb] at hBoth
    cases hBoth

/- The order of different categories makes no difference. -/
theorem last?_eq_of_perm
    {as bs : List Attribute}
    (hDistinct : AreDistinct as)
    (hPerm : bs.Perm as)
    (category : Scalar) :
    last? bs category = last? as category := by
  have hDistinctToo : AreDistinct bs := by
    refine hPerm.symm.pairwise hDistinct ?_
    intro a b hab
    rwa [BEq.comm]
  apply Option.ext
  intro a
  rw [last?_eq_some_iff_of_areDistinct hDistinct,
    last?_eq_some_iff_of_areDistinct hDistinctToo,
    hPerm.mem_iff]

end Attribute

end ModelNumber
