import ModelNumber.Proofs.Enhancement.Place

/-
  Enhancers that look at codes and tables only, run on what
  they have made themselves. They derive the same suffixes
  again, and all that keeps them from being appended again is
  that a description ends with them. Where two enhancers write
  the same attribute this fails, unless one of the suffixes
  ends with the other one.

  Main declarations:
    * `Enhancer.ReadsCodes`
    * `Enhancer.ReadsCodes.derive_eq`
    * `Enhancer.offersAll_eq_flatMap`
    * `Enhancer.DerivesNested`
    * `Enhancer.DerivesNested.runAll_eq_self`
    * `Enhancer.runAll_again_iff`
    * `Enhancer.runAll_again_ne_twoFans`
-/

namespace ModelNumber

------------------------------------------------------------
-- Enhancers that look at codes
------------------------------------------------------------

/- By category there are the same codes under any description. -/
theorem Redescribed.mapValues_code_byCategory
    {as bs : List Attribute}
    (h : Redescribed as bs) :
    (Attribute.byCategory bs).mapValues Attribute.code =
      (Attribute.byCategory as).mapValues Attribute.code := by
  rw [Attribute.byCategory, Attribute.byCategory,
    OrderedMap.mapValues_ofList, OrderedMap.mapValues_ofList,
    List.map_map, List.map_map]
  congr 1
  refine h.map_eq ?_
  intro a b hab
  rw [Attribute.Redescribes] at hab
  rw [hab]
  rfl

namespace Enhancer

/-
  What an enhancer derives depends on the tables and on the
  codes of the attributes by category, and on nothing else.
-/
def ReadsCodes (e : Enhancer) : Prop :=
  ∀ (m n : OrderedMap Scalar Attribute) (tables : Json),
    m.mapValues Attribute.code = n.mapValues Attribute.code →
      e.derive m tables = e.derive n tables

variable {tables : Json} {as bs : List Attribute}
variable {e : Enhancer} {es : List Enhancer}
variable {category : Scalar}

namespace ReadsCodes

/- Descriptions make no difference to what is derived. -/
theorem derive_eq
    (hReads : e.ReadsCodes)
    (hSame : Redescribed as bs)
    (tables : Json) :
    e.derive (Attribute.byCategory bs) tables =
      e.derive (Attribute.byCategory as) tables :=
  hReads _ _ tables hSame.mapValues_code_byCategory

/- Descriptions make no difference to the suffix. -/
theorem suffix_eq
    (hReads : e.ReadsCodes)
    (hSame : Redescribed as bs)
    (tables : Json) :
    e.suffix bs tables = e.suffix as tables := by
  rw [suffix, suffix, hReads.derive_eq hSame]

/- Descriptions make no difference to what is offered. -/
theorem offers_eq
    (hReads : e.ReadsCodes)
    (hSame : Redescribed as bs)
    (category : Scalar)
    (tables : Json) :
    e.offers category tables bs =
      e.offers category tables as := by
  rw [offers, offers, hReads.suffix_eq hSame]

end ReadsCodes

/- An enhancer offers the suffix that it derives, if it writes. -/
theorem mem_offers_iff {s : String} :
    s ∈ e.offers category tables as ↔
      (e.writes == category) = true ∧
        e.suffix as tables = .ok (some s) := by
  unfold offers
  split
  · rename_i hWrites
    split
    · rename_i t hSuffix
      simp [hWrites, hSuffix, eq_comm]
    · rename_i hSuffix
      simp only [List.not_mem_nil, false_iff]
      rintro ⟨_, hSome⟩
      exact hSuffix s hSome
  · rename_i hWrites
    simp [hWrites]

/-
  Enhancers that look at codes offer in a run what each of
  them derives from the list that the run starts from.
-/
theorem offersAll_eq_flatMap
    (hReads : ∀ e ∈ es, e.ReadsCodes)
    (h : runAll es tables as = .ok bs)
    (category : Scalar) :
    offersAll category tables es as =
      es.flatMap fun e => e.offers category tables as := by
  induction es generalizing as with
  | nil => rfl
  | cons e es ih =>
      rw [List.forall_mem_cons] at hReads
      rw [runAll, List.foldlM_cons, Outcome.bind_eq_ok_iff] at h
      rcases h with ⟨cs, hStep, hRest⟩
      rw [offersAll, hStep, List.flatMap_cons]
      simp only [ih hReads.2 hRest]
      congr 1
      refine List.flatMap_congr ?_
      intro d hd
      exact
        (hReads.2 d hd).offers_eq (redescribes_of_run hStep) _ _

/- What is offered in a run is derived by an enhancer of it. -/
theorem mem_offersAll_iff
    (hReads : ∀ e ∈ es, e.ReadsCodes)
    (h : runAll es tables as = .ok bs)
    {s : String} :
    s ∈ offersAll category tables es as ↔
      ∃ e ∈ es,
        (e.writes == category) = true ∧
          e.suffix as tables = .ok (some s) := by
  rw [offersAll_eq_flatMap hReads h, List.mem_flatMap]
  simp only [mem_offers_iff]

/-
  Each enhancer of a run that looks at codes has derived
  something for its target from the list of the start.
-/
theorem exists_derive_of_runAll
    (hReads : e.ReadsCodes)
    (h : runAll es tables as = .ok bs)
    (he : e ∈ es)
    {place : Nat}
    {a : Attribute}
    (hLast : Attribute.IsLastAt as e.writes place a) :
    ∃ derived,
      e.derive (Attribute.byCategory as) tables =
        .ok derived := by
  rcases exists_run_of_runAll h e he with ⟨cs, ds, hcs, hStep⟩
  rcases hLast.exists_of_redescribed hcs with ⟨c, hc, _⟩
  rcases exists_derive_of_run hStep
      (List.mem_of_getElem? hc.here) hc.has with
    ⟨derived, hDerived⟩
  exact ⟨derived, hReads.derive_eq hcs tables ▸ hDerived⟩

------------------------------------------------------------
-- The second run
------------------------------------------------------------

/-
  Any two suffixes that enhancers derive for the same attribute
  are nested. A category that no attribute has does not count.
-/
def DerivesNested
    (es : List Enhancer)
    (tables : Json)
    (as : List Attribute) : Prop :=
  ∀ d ∈ es, ∀ e ∈ es,
    (d.writes == e.writes) = true →
      (∃ a ∈ as, (a.category == d.writes) = true) →
        ∀ s t,
          d.suffix as tables = .ok (some s) →
            e.suffix as tables = .ok (some t) →
              Description.AreNested s t

/- The suffixes that a category is offered are nested. -/
theorem DerivesNested.areNested
    (hNested : DerivesNested es tables as)
    (hReads : ∀ e ∈ es, e.ReadsCodes)
    (h : runAll es tables as = .ok bs)
    {place : Nat}
    {a : Attribute}
    (hLast : Attribute.IsLastAt as category place a) :
    ∀ s ∈ offersAll category tables es as,
      ∀ t ∈ offersAll category tables es as,
        Description.AreNested s t := by
  intro s hs t ht
  rw [mem_offersAll_iff hReads h] at hs ht
  rcases hs with ⟨d, hd, hWrites, hSuffix⟩
  rcases ht with ⟨e, he, hWritesToo, hSuffixToo⟩
  have hTarget : ∃ a ∈ as, (a.category == d.writes) = true :=
    ⟨a, List.mem_of_getElem? hLast.here,
      BEq.trans hLast.has (BEq.symm hWrites)⟩
  exact
    hNested d hd e he
      (BEq.trans hWrites (BEq.symm hWritesToo)) hTarget s t
      hSuffix hSuffixToo

/- An enhancer changes nothing where its suffix ends the text. -/
theorem run_eq_self
    (hEnds :
      ∀ place a,
        Attribute.IsLastAt as e.writes place a →
          ∃ suffix,
            e.suffix as tables = .ok suffix ∧
              ∀ s ∈ suffix,
                ∃ text,
                  a.description = .str text ∧
                    Description.EndsWith text s) :
    e.run tables as = .ok as := by
  cases hLast : Attribute.last? as e.writes with
  | none =>
      have hSplit :
          splitLast? (·.category == e.writes) as = none :=
        Option.map_eq_none_iff.mp hLast
      rw [run, hSplit]
      rfl
  | some a =>
      rcases Attribute.IsLastAt.exists_of_last? hLast with
        ⟨place, ha⟩
      rcases hEnds place a ha with ⟨suffix, hSuffix, hText⟩
      rw [run_eq_set ha, hSuffix]
      cases suffix with
      | none => rfl
      | some s =>
          rcases hText s rfl with ⟨text, hDescription, hEnd⟩
          have hSame : as.set place a = as := by
            rcases List.getElem?_eq_some_iff.mp ha.here with
              ⟨hPlace, rfl⟩
            exact List.set_getElem_self hPlace
          have hAppend : a.append s = .ok a := by
            rw [Attribute.append_eq hDescription, Description.add,
              if_pos hEnd, ← hDescription]
          refine Outcome.bind_eq_ok_iff.mpr ⟨_, rfl, ?_⟩
          refine Outcome.bind_eq_ok_iff.mpr ⟨a, hAppend, ?_⟩
          rw [hSame]
          rfl

/- Nested suffixes are not appended a second time. -/
theorem DerivesNested.runAll_eq_self
    (hNested : DerivesNested es tables as)
    (hReads : ∀ e ∈ es, e.ReadsCodes)
    (hText : ∀ a ∈ as, a.HasText)
    (h : runAll es tables as = .ok bs) :
    runAll es tables bs = .ok bs := by
  have hSame := redescribes_of_runAll h
  refine Outcome.foldlM_eq_self ?_
  intro e he
  apply run_eq_self
  intro place b hb
  rcases hb.exists_of_redescribed hSame.symm with ⟨a, ha, _⟩
  rcases hText a (List.mem_of_getElem? ha.here) with
    ⟨text, hDescription⟩
  have hWritten := getElem?_runAll_of_last h ha hDescription
  rw [hb.here, Option.some.injEq] at hWritten
  subst hWritten
  rcases exists_derive_of_runAll (hReads e he) h he ha with
    ⟨derived, hDerived⟩
  have hSuffix :
      e.suffix as tables = .ok (derived.filter (!·.isEmpty)) := by
    rw [suffix, hDerived]
    rfl
  refine
    ⟨_, ((hReads e he).suffix_eq hSame tables).trans hSuffix, ?_⟩
  intro s hs
  refine ⟨_, rfl, ?_⟩
  refine
    Description.endsWith_addAll (hNested.areNested hReads h ha)
      s ?_
  rw [mem_offersAll_iff hReads h]
  exact ⟨e, he, BEq.rfl, hSuffix.trans (by rw [hs])⟩

/- What a second run leaves alone has nested suffixes. -/
theorem derivesNested_of_runAll_eq_self
    (hReads : ∀ e ∈ es, e.ReadsCodes)
    (hText : ∀ a ∈ as, a.HasText)
    (h : runAll es tables as = .ok bs)
    (hAgain : runAll es tables bs = .ok bs) :
    DerivesNested es tables as := by
  intro d hd e he hWrites hTarget s t hs ht
  have hSame := redescribes_of_runAll h
  rcases hTarget with ⟨x, hx, hCategory⟩
  have hSpoken :
      (Attribute.last? as d.writes).isSome = true := by
    rw [Attribute.isSome_last?]
    exact List.any_eq_true.mpr ⟨x, hx, hCategory⟩
  rcases Option.isSome_iff_exists.mp hSpoken with ⟨a, hLast⟩
  rcases Attribute.IsLastAt.exists_of_last? hLast with
    ⟨place, ha⟩
  rcases hText a (List.mem_of_getElem? ha.here) with
    ⟨text, hDescription⟩
  have hOnce := getElem?_runAll_of_last h ha hDescription
  rcases ha.exists_of_redescribed hSame with ⟨b, hb, _⟩
  rw [hb.here, Option.some.injEq] at hOnce
  subst hOnce
  -- The second run offers what the first one has offered.
  have hOffers :
      offersAll d.writes tables es bs =
        offersAll d.writes tables es as := by
    rw [offersAll_eq_flatMap hReads h,
      offersAll_eq_flatMap hReads hAgain]
    refine List.flatMap_congr ?_
    intro f hf
    exact (hReads f hf).offers_eq hSame _ _
  have hTwice := getElem?_runAll_of_last hAgain hb rfl
  rw [hb.here, hOffers, Option.some.injEq] at hTwice
  have hEqual :
      Description.addAll
          (Description.addAll text
            (offersAll d.writes tables es as))
          (offersAll d.writes tables es as) =
        Description.addAll text
          (offersAll d.writes tables es as) := by
    simpa using (congrArg Attribute.description hTwice).symm
  refine Description.addAll_addAll_eq_iff.mp hEqual s ?_ t ?_
  · exact (mem_offersAll_iff hReads h).mpr ⟨d, hd, BEq.rfl, hs⟩
  · exact
      (mem_offersAll_iff hReads h).mpr
        ⟨e, he, BEq.symm hWrites, ht⟩

/-
  A second run leaves the result of a run as it is exactly if
  any two suffixes for the same attribute are nested.
-/
theorem runAll_again_iff
    (hReads : ∀ e ∈ es, e.ReadsCodes)
    (hText : ∀ a ∈ as, a.HasText)
    (h : runAll es tables as = .ok bs) :
    runAll es tables bs = .ok bs ↔
      DerivesNested es tables as := by
  constructor
  · exact derivesNested_of_runAll_eq_self hReads hText h
  · intro hNested
    exact hNested.runAll_eq_self hReads hText h

/- An enhancer that derives one suffix looks at nothing. -/
theorem readsCodes_of_mem_map_constant
    {ss : List String}
    (he : e ∈ ss.map (constant category)) :
    e.ReadsCodes := by
  rcases List.mem_map.mp he with ⟨s, _, rfl⟩
  intro m n tables _
  rfl

/- Enhancers with one suffix each derive nested ones. -/
theorem derivesNested_map_constant
    {ss : List String}
    (hNested :
      ∀ s ∈ ss, ∀ t ∈ ss, Description.AreNested s t) :
    DerivesNested (ss.map (constant category)) tables as := by
  intro d hd e he _ _ s t hs ht
  rcases List.mem_map.mp hd with ⟨u, hu, rfl⟩
  rcases List.mem_map.mp he with ⟨v, hv, rfl⟩
  rw [suffix, constant, Outcome.bind_eq_ok_iff] at hs ht
  rcases hs with ⟨_, hDerived, hFilter⟩
  rcases ht with ⟨_, hDerivedToo, hFilterToo⟩
  cases hDerived
  cases hDerivedToo
  rw [Outcome.pure_eq_ok_iff, Option.filter_eq_some_iff,
    Option.some.injEq] at hFilter hFilterToo
  rw [← hFilter.1, ← hFilterToo.1]
  exact hNested u hu v hv

/- Enhancers that label a fan, with one suffix each. -/
def fanLabels (ss : List String) : List Enhancer :=
  ss.map (constant "FAN")

/- A suffix that ends with the one before it is appended once. -/
theorem runAll_again_twoFans :
    (∀ e ∈ fanLabels ["b", "a b", "b"], e.ReadsCodes) ∧
      (∀ a ∈ twoFans, a.HasText) ∧
      ∃ bs,
        runAll (fanLabels ["b", "a b", "b"]) (.obj []) twoFans =
          .ok bs ∧
        bs.map Attribute.description =
          [.str "A", .str "B b a b", .str "C"] ∧
        DerivesNested (fanLabels ["b", "a b", "b"]) (.obj [])
          twoFans ∧
        runAll (fanLabels ["b", "a b", "b"]) (.obj []) bs =
          .ok bs := by
  have hReads :
      ∀ e ∈ fanLabels ["b", "a b", "b"], e.ReadsCodes :=
    fun e he => readsCodes_of_mem_map_constant he
  have hText : ∀ a ∈ twoFans, a.HasText := by decide +kernel
  have hRun :
      ((runAll (fanLabels ["b", "a b", "b"]) (.obj [])
          twoFans).toOption.map (·.map Attribute.description)) =
        some [.str "A", .str "B b a b", .str "C"] := by
    decide +kernel
  rcases Option.map_eq_some_iff.mp hRun with
    ⟨bs, hSome, hDescriptions⟩
  have hbs := Outcome.toOption_eq_some_iff.mp hSome
  have hNested :
      DerivesNested (fanLabels ["b", "a b", "b"]) (.obj [])
        twoFans :=
    derivesNested_map_constant (by decide +kernel)
  exact
    ⟨hReads, hText, bs, hbs, hDescriptions, hNested,
      (runAll_again_iff hReads hText hbs).mpr hNested⟩

/- Two suffixes that are not nested are appended each time. -/
theorem runAll_again_ne_twoFans :
    (∀ e ∈ fanLabels ["[a]", "[b]"], e.ReadsCodes) ∧
      (∀ a ∈ twoFans, a.HasText) ∧
      ∃ bs cs,
        runAll (fanLabels ["[a]", "[b]"]) (.obj []) twoFans =
            .ok bs ∧
          runAll (fanLabels ["[a]", "[b]"]) (.obj []) bs =
            .ok cs ∧
          bs.map Attribute.description =
            [.str "A", .str "B [a] [b]", .str "C"] ∧
          cs.map Attribute.description =
            [.str "A", .str "B [a] [b] [a] [b]", .str "C"] ∧
          cs ≠ bs := by
  have hOnce :
      ((runAll (fanLabels ["[a]", "[b]"]) (.obj [])
          twoFans).toOption.map fun bs =>
        (bs.map Attribute.description,
          (runAll (fanLabels ["[a]", "[b]"]) (.obj [])
            bs).toOption.map (·.map Attribute.description))) =
        some
          ([.str "A", .str "B [a] [b]", .str "C"],
            some
              [.str "A", .str "B [a] [b] [a] [b]",
                .str "C"]) := by
    decide +kernel
  rcases Option.map_eq_some_iff.mp hOnce with ⟨bs, hbs, hBoth⟩
  rw [Prod.mk.injEq] at hBoth
  rcases hBoth with ⟨hFirst, hAgain⟩
  rcases Option.map_eq_some_iff.mp hAgain with
    ⟨cs, hcs, hSecond⟩
  rw [Outcome.toOption_eq_some_iff] at hbs hcs
  refine
    ⟨fun e he => readsCodes_of_mem_map_constant he,
      by decide +kernel, bs, cs, hbs, hcs, hFirst, hSecond, ?_⟩
  rintro rfl
  have hSame := hFirst.symm.trans hSecond
  revert hSame
  decide +kernel

end Enhancer

end ModelNumber
