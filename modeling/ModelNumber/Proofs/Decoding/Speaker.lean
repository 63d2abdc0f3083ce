import ModelNumber.Library.RN
import ModelNumber.Proofs.Decoding.Steps
import ModelNumber.Proofs.Enhancement.Place
import ModelNumber.Proofs.Highlight
import ModelNumber.Proofs.Rule.Evaluation

/-
  All parts of a decode agree which attribute speaks for a
  category: the last one of the list. It is the attribute that
  is looked up, its code is the one that rules see, it stands
  in the map that enhancers read, its place is the one that is
  highlighted, and no other attribute of its category is ever
  written. So the rules say the same of a list, of those that
  speak in it, and of these in any other order.

  Main declarations:
    * `Attribute.Speaks` and `Attribute.IsUnspoken`
    * `Attribute.warnings_eq_of_perm_lasts`
    * `Attribute.speaks_and_warnings_eq`
-/

namespace ModelNumber

namespace Attribute

------------------------------------------------------------
-- Who speaks for a category
------------------------------------------------------------

/-
  An attribute speaks for a category, wherever the attributes
  are used. What enhancers are handed is the map of the list
  as the enhancers before them have left it.
-/
structure Speaks
    (as : List Attribute)
    (category : Scalar)
    (place : Nat)
    (a : Attribute) : Prop where
  last : IsLastAt as category place a
  found :
    ∀ d : Decoding,
      d.attributes = as → d.attribute? category = some a
  code :
    (Codes.ofAttributes as).get? category = some (.str a.code)
  handed :
    ∀ enhancers tables bs,
      Enhancer.runAll enhancers tables as = .ok bs →
        ∃ b,
          bs[place]? = some b ∧ a.Redescribes b ∧
            (byCategory bs).get? category = some b
  written :
    ∀ enhancers tables bs,
      Enhancer.runAll enhancers tables as = .ok bs →
        ∀ elsewhere x,
          elsewhere ≠ place →
            as[elsewhere]? = some x →
              (x.category == category) = true →
                bs[elsewhere]? = some x
  range :
    (PositionMap.ofAttributes as).get? category =
      some
        { category := a.category
          start := a.start
          stop := a.stop
          sharedWith := [] }

/- No attribute speaks for a category. -/
structure IsUnspoken
    (as : List Attribute)
    (category : Scalar) : Prop where
  absent : ∀ a ∈ as, (a.category == category) = false
  found :
    ∀ d : Decoding,
      d.attributes = as → d.attribute? category = none
  code : (Codes.ofAttributes as).get? category = none
  handed :
    ∀ enhancers tables bs,
      Enhancer.runAll enhancers tables as = .ok bs →
        (byCategory bs).get? category = none
  range : (PositionMap.ofAttributes as).get? category = none

/- Enhancement brings up no new category. -/
theorem last?_eq_none_of_redescribed
    {as bs : List Attribute}
    {category : Scalar}
    (hNone : last? as category = none)
    (hSame : Redescribed as bs) :
    last? bs category = none := by
  rw [← Option.not_isSome_iff_eq_none, isSome_last?,
    List.any_eq_true] at hNone ⊢
  rintro ⟨b, hb, hCategory⟩
  rcases hSame.exists_of_mem_right hb with ⟨a, ha, hab⟩
  rw [Redescribes] at hab
  rw [hab] at hCategory
  exact hNone ⟨a, ha, hCategory⟩

/- The last attribute of a category speaks for it everywhere. -/
theorem IsLastAt.speaks
    {as : List Attribute}
    {category : Scalar}
    {place : Nat}
    {a : Attribute}
    (hLast : IsLastAt as category place a) :
    Speaks as category place a where
  last := hLast
  found := by
    rintro d rfl
    exact hLast.last?_eq
  code := by
    rw [Codes.get?_ofAttributes, hLast.last?_eq]
    rfl
  handed := by
    intro enhancers tables bs h
    rcases hLast.exists_of_redescribed
        (Enhancer.redescribes_of_runAll h) with
      ⟨b, hb, hab⟩
    refine ⟨b, hb.here, hab, ?_⟩
    rw [get?_byCategory, hb.last?_eq]
  written := by
    intro enhancers tables bs h elsewhere x hElsewhere hx
      hCategory
    exact hLast.kept_of_runAll h hElsewhere hx hCategory
  range := by
    rw [PositionMap.get?_ofAttributes, hLast.last?_eq]
    rfl

/- Where no attribute has a category, nobody speaks for it. -/
theorem isUnspoken_of_last?
    {as : List Attribute}
    {category : Scalar}
    (hNone : last? as category = none) :
    IsUnspoken as category where
  absent := by
    have hAny : as.any (·.category == category) = false := by
      rw [← isSome_last?, hNone]
      rfl
    intro a ha
    rw [← Bool.not_eq_true]
    exact List.any_eq_false.mp hAny a ha
  found := by
    rintro d rfl
    exact hNone
  code := by
    rw [Codes.get?_ofAttributes, hNone]
    rfl
  handed := by
    intro enhancers tables bs h
    rw [get?_byCategory]
    exact last?_eq_none_of_redescribed hNone
      (Enhancer.redescribes_of_runAll h)
  range := by
    rw [PositionMap.get?_ofAttributes, hNone]
    rfl

------------------------------------------------------------
-- Rules
------------------------------------------------------------

/-
  Rules say the same of a list as of those who speak in it, in
  any order.
-/
theorem warnings_eq_of_perm_lasts
    {as bs : List Attribute}
    (hPerm : bs.Perm (lasts as))
    (rules : List Rule)
    (scope : Rule.Scope) :
    Rule.warnings rules scope (Codes.ofAttributes bs) =
      Rule.warnings rules scope (Codes.ofAttributes as) := by
  apply Rule.warnings_eq_of_codes
  intro key
  rw [Codes.get?_ofAttributes, Codes.get?_ofAttributes,
    last?_eq_of_perm (areDistinct_lasts as) hPerm, last?_lasts]

/-
  One attribute speaks for each category that a list has: it
  is looked up, gives the code, is handed to enhancers and
  alone written by them, and gives the range. The rules say
  the same of the list and of those who speak, in any order.
-/
theorem speaks_and_warnings_eq (as : List Attribute) :
    (∀ category,
      IsUnspoken as category ∨
        ∃ place a, Speaks as category place a) ∧
      (lasts as).Sublist as ∧
      (∀ place a,
        IsLastAt as a.category place a → a ∈ lasts as) ∧
      AreDistinct (lasts as) ∧
      ∀ bs,
        bs.Perm (lasts as) →
          ∀ rules scope,
            Rule.warnings rules scope (Codes.ofAttributes bs) =
              Rule.warnings rules scope
                (Codes.ofAttributes as) := by
  refine
    ⟨?_, lasts_sublist as, ?_, areDistinct_lasts as, ?_⟩
  · intro category
    cases hLast : last? as category with
    | none => exact Or.inl (isUnspoken_of_last? hLast)
    | some a =>
        rcases IsLastAt.exists_of_last? hLast with ⟨place, ha⟩
        exact Or.inr ⟨place, a, ha.speaks⟩
  · intro place a hLast
    have hSpeaks := hLast.last?_eq
    rw [← last?_lasts] at hSpeaks
    exact mem_of_last? hSpeaks
  · intro bs hPerm rules scope
    exact warnings_eq_of_perm_lasts hPerm rules scope

/- An electric heater on one phase, with two capacities. -/
def twoCapacities : List Attribute :=
  [("B3", "2"), ("B1", "E"), ("VOLTAGE", "1"), ("B3", "4")].mapIdx
    fun place (category, code) =>
      { category := .str category
        code := code
        name := .str category
        position := .str category
        description := .str code
        start := 2 * place
        stop := 2 * place + 1 }

/- The second capacity is derived from, and warned about. -/
theorem speaks_and_warnings_eq_twoCapacities :
    (∃ a,
        Speaks twoCapacities "B3" 3 a ∧
          a.description = .str "4") ∧
      IsUnspoken twoCapacities "SIZE" ∧
      ((Enhancer.runAll Enhancer.builtin Library.rn.tables
            twoCapacities).toOption.map
          (·.map Attribute.description)) =
        some [.str "2", .str "E", .str "1",
          .str "4 [36.0 kW @ 230V]"] ∧
      (lasts twoCapacities).length = 3 ∧
      ∃ w,
        w.message.shown =
            "Single phase power limits electric heat to 27 kW" ∧
          Rule.warnings Library.rn.rules .all
              (Codes.ofAttributes (lasts twoCapacities).reverse) =
            .ok [w] ∧
          Rule.warnings Library.rn.rules .all
              (Codes.ofAttributes twoCapacities) =
            .ok [w] := by
  rcases speaks_and_warnings_eq twoCapacities with
    ⟨hAll, _, _, _, hSame⟩
  refine ⟨?_, ?_, by decide +kernel, by decide +kernel, ?_⟩
  · rcases hAll "B3" with hUnspoken | ⟨place, a, hSpeaks⟩
    · exact absurd hUnspoken.absent (by decide)
    · have hFourth :
          IsLastAt (twoCapacities.take 3 ++ [twoCapacities[3]])
            "B3" 3 twoCapacities[3] :=
        isLastAt_append_cons (by decide) (by simp)
      have hPlace := hSpeaks.last.place_eq hFourth BEq.rfl
      subst hPlace
      have hHere := hSpeaks.last.here
      cases hHere
      exact ⟨_, hSpeaks, rfl⟩
  · rcases hAll "SIZE" with hUnspoken | ⟨place, a, hSpeaks⟩
    · exact hUnspoken
    · have hNone : last? twoCapacities "SIZE" = none := rfl
      rw [hSpeaks.last.last?_eq] at hNone
      cases hNone
  · have hReversed :=
      hSame _ (List.reverse_perm _) Library.rn.rules .all
    have hOne :
        ((Rule.warnings Library.rn.rules .all
            (Codes.ofAttributes twoCapacities)).toOption.map
          fun ws => ws.map fun w => w.message.shown) =
          some ["Single phase power limits electric heat to 27 kW"]
        := by
      decide +kernel
    rcases Option.map_eq_some_iff.mp hOne with
      ⟨ws, hSome, hMessages⟩
    rw [Outcome.toOption_eq_some_iff] at hSome
    rcases List.map_eq_singleton_iff.mp hMessages with
      ⟨w, rfl, hMessage⟩
    exact ⟨w, hMessage, hReversed.trans hSome, hSome⟩

end Attribute

end ModelNumber
