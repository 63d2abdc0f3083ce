import ModelNumber.Proofs.Enhancement.Run
import ModelNumber.Proofs.Enhancement.Suffix

/-
  What enhancement makes of each place of a list. An enhancer
  writes one place, that of the last attribute of its
  category, and all others stay as they are. Over a run, the
  description in a place gets the suffixes that the enhancers
  of its category derive, each from the list as the enhancers
  before it have left it, but for those that the description
  ends with when their turn comes.

  Main declarations:
    * `Attribute.IsLastAt.exists_of_redescribed`
    * `Enhancer.getElem?_runAll_of_not_last` and
      `Attribute.IsLastAt.kept_of_runAll`
    * `Enhancer.run_eq_set`
    * `Enhancer.offersAll` and
      `Enhancer.getElem?_runAll_of_last`
    * `Enhancer.OnlyAppends`
    * `Enhancer.onlyAppends_of_runAll`
-/

namespace ModelNumber

------------------------------------------------------------
-- Places of redescribed attributes
------------------------------------------------------------

/- What is related to an element stands in the same place. -/
theorem exists_getElem?_of_forall₂
    {α β : Type}
    {R : α → β → Prop}
    {as : List α}
    {bs : List β}
    (h : List.Forall₂ R as bs)
    {place : Nat}
    {a : α}
    (ha : as[place]? = some a) :
    ∃ b, bs[place]? = some b ∧ R a b := by
  induction h generalizing place with
  | nil => cases ha
  | cons hab _ ih =>
      cases place with
      | zero =>
          cases ha
          exact ⟨_, rfl, hab⟩
      | succ place => exact ih ha

namespace Attribute

namespace IsLastAt

variable {as bs : List Attribute} {category : Scalar}
variable {place : Nat} {a : Attribute}

/- Descriptions do not decide which attribute is the last one. -/
theorem exists_of_redescribed
    (hLast : IsLastAt as category place a)
    (hSame : Redescribed as bs) :
    ∃ b, IsLastAt bs category place b ∧ a.Redescribes b := by
  rcases exists_getElem?_of_forall₂ hSame hLast.here with
    ⟨b, hb, hab⟩
  refine ⟨b, ⟨hb, ?_, ?_⟩, hab⟩
  · rw [Redescribes] at hab
    rw [hab]
    exact hLast.has
  · intro later d hLater hd
    rcases exists_getElem?_of_forall₂ hSame.symm hd with
      ⟨c, hc, hdc⟩
    have hSpelled := hdc.symm
    rw [Redescribes] at hSpelled
    rw [hSpelled]
    exact hLast.last later c hLater hc

end IsLastAt

end Attribute

------------------------------------------------------------
-- Places that are not written
------------------------------------------------------------

namespace Enhancer

variable {tables : Json} {as bs : List Attribute}
variable {e : Enhancer} {es : List Enhancer}
variable {place : Nat} {x : Attribute}

/-
  An attribute that is not the last one of the category that
  an enhancer writes stays as it is.
-/
theorem getElem?_run_of_not_last
    (h : e.run tables as = .ok bs)
    (hx : as[place]? = some x)
    (hNot : ¬Attribute.IsLastAt as e.writes place x) :
    bs[place]? = some x := by
  rcases eq_or_append_of_run h with
    rfl | ⟨before, target, after, _, written, rfl, hTarget,
      hAfter, _, rfl⟩
  · exact hx
  · have hSet :
        before ++ written :: after =
          (before ++ target :: after).set before.length
            written := by
      simp
    have hLast :
        Attribute.IsLastAt (before ++ target :: after) e.writes
          before.length target :=
      Attribute.isLastAt_append_cons hTarget hAfter
    have hPlace : before.length ≠ place := by
      rintro rfl
      rw [hLast.here, Option.some.injEq] at hx
      exact hNot (hx ▸ hLast)
    rw [hSet, List.getElem?_set_ne hPlace]
    exact hx

/-
  An attribute that is not the last one of any category that
  is written stays as it is.
-/
theorem getElem?_runAll_of_not_last
    (h : runAll es tables as = .ok bs)
    (hx : as[place]? = some x)
    (hNot : ∀ e ∈ es, ¬Attribute.IsLastAt as e.writes place x) :
    bs[place]? = some x := by
  induction es generalizing as with
  | nil =>
      cases h
      exact hx
  | cons e es ih =>
      rw [List.forall_mem_cons] at hNot
      rw [runAll, List.foldlM_cons, Outcome.bind_eq_ok_iff] at h
      rcases h with ⟨cs, hStep, hRest⟩
      refine
        ih hRest (getElem?_run_of_not_last hStep hx hNot.1) ?_
      intro d hd hLast
      rcases hLast.exists_of_redescribed
          (redescribes_of_run hStep).symm with
        ⟨y, hy, _⟩
      have hSame := hy.here
      rw [hx, Option.some.injEq] at hSame
      exact hNot.2 d hd (hSame ▸ hy)

end Enhancer

/- Enhancement writes the last attribute of a category only. -/
theorem Attribute.IsLastAt.kept_of_runAll
    {as bs : List Attribute}
    {category : Scalar}
    {place : Nat}
    {a : Attribute}
    (hLast : IsLastAt as category place a)
    {tables : Json}
    {enhancers : List Enhancer}
    (h : Enhancer.runAll enhancers tables as = .ok bs)
    {elsewhere : Nat}
    (hElsewhere : elsewhere ≠ place)
    {x : Attribute}
    (hx : as[elsewhere]? = some x)
    (hCategory : (x.category == category) = true) :
    bs[elsewhere]? = some x := by
  apply Enhancer.getElem?_runAll_of_not_last h hx
  intro e _ hThere
  have hSame : (e.writes == category) = true :=
    BEq.trans (BEq.symm hThere.has) hCategory
  exact hElsewhere (hThere.place_eq hLast hSame)

------------------------------------------------------------
-- The place that is written
------------------------------------------------------------

namespace Enhancer

variable {tables : Json} {as bs : List Attribute}
variable {e : Enhancer} {es : List Enhancer}
variable {category : Scalar} {place : Nat} {a : Attribute}
variable {text : String}

/-
  An enhancer appends the suffix that it derives, if there is
  one, in the place of the last attribute of its category.
-/
theorem run_eq_set
    (hLast : Attribute.IsLastAt as e.writes place a) :
    e.run tables as = (do
      match ← e.suffix as tables with
      | none => return as
      | some suffix => return as.set place (← a.append suffix)) := by
  unfold run
  split
  · rename_i hNone
    have hNot :=
      splitLast?_eq_none_iff.mp hNone a
        (List.mem_of_getElem? hLast.here)
    rw [hLast.has] at hNot
    cases hNot
  · rename_i before target after hSplit
    rcases splitLast?_eq_some hSplit with
      ⟨rfl, hTarget, hAfter⟩
    have hTargetLast :
        Attribute.IsLastAt (before ++ target :: after) e.writes
          before.length target :=
      Attribute.isLastAt_append_cons hTarget hAfter
    have hPlace := hLast.place_eq hTargetLast BEq.rfl
    subst hPlace
    have hSame := hLast.here
    rw [hTargetLast.here, Option.some.injEq] at hSame
    subst hSame
    refine bind_congr ?_
    intro suffix
    cases suffix with
    | none => rfl
    | some suffix =>
        refine bind_congr ?_
        intro written
        have hSet :
            (before ++ target :: after).set before.length
                written =
              before ++ written :: after := by
          simp
        exact congrArg pure hSet.symm

/- The suffix that an enhancer has for a category, if any. -/
def offers
    (e : Enhancer)
    (category : Scalar)
    (tables : Json)
    (as : List Attribute) : List String :=
  if e.writes == category then
    match e.suffix as tables with
    | .ok (some suffix) => [suffix]
    | _ => []
  else
    []

/-
  The suffixes that the enhancers of a run have for a category.
  Each one is derived from the list as the enhancers before
  have left it.
-/
def offersAll
    (category : Scalar)
    (tables : Json) :
    List Enhancer → List Attribute → List String
| [], _ => []
| e :: es, as =>
    match e.run tables as with
    | .ok bs =>
        e.offers category tables as
          ++ offersAll category tables es bs
    | .error _ => []

/- What a step of enhancement makes of a description. -/
theorem getElem?_run_of_last
    (h : e.run tables as = .ok bs)
    (hLast : Attribute.IsLastAt as category place a)
    (hText : a.description = .str text) :
    bs[place]? =
      some { a with
        description :=
          .str
            (Description.addAll text
              (e.offers category tables as)) } := by
  by_cases hWrites : (e.writes == category) = true
  · have hWritten : Attribute.IsLastAt as e.writes place a :=
      hLast.congr (BEq.symm hWrites)
    rw [run_eq_set hWritten, Outcome.bind_eq_ok_iff] at h
    rcases h with ⟨suffix, hSuffix, hRest⟩
    simp only [offers, if_pos hWrites, hSuffix]
    cases suffix with
    | none =>
        cases hRest
        rw [hLast.here, Description.addAll, List.foldl_nil,
          ← hText]
    | some suffix =>
        rcases Outcome.bind_eq_ok_iff.mp hRest with
          ⟨written, hAppend, hAll⟩
        rw [Attribute.append_eq hText] at hAppend
        cases hAppend
        cases hAll
        rw [List.getElem?_set_self hLast.lt_length]
        rfl
  · have hNot : ¬Attribute.IsLastAt as e.writes place a := by
      intro hThere
      exact hWrites (BEq.trans (BEq.symm hThere.has) hLast.has)
    rw [getElem?_run_of_not_last h hLast.here hNot, offers,
      if_neg hWrites, Description.addAll, List.foldl_nil, ← hText]

/- What a run of enhancers makes of a description. -/
theorem getElem?_runAll_of_last
    (h : runAll es tables as = .ok bs)
    (hLast : Attribute.IsLastAt as category place a)
    (hText : a.description = .str text) :
    bs[place]? =
      some { a with
        description :=
          .str
            (Description.addAll text
              (offersAll category tables es as)) } := by
  induction es generalizing as a text with
  | nil =>
      cases h
      rw [hLast.here, offersAll, Description.addAll,
        List.foldl_nil, ← hText]
  | cons e es ih =>
      rw [runAll, List.foldlM_cons, Outcome.bind_eq_ok_iff] at h
      rcases h with ⟨cs, hStep, hRest⟩
      rcases hLast.exists_of_redescribed
          (redescribes_of_run hStep) with
        ⟨b, hb, _⟩
      have hHere := getElem?_run_of_last hStep hLast hText
      rw [hb.here, Option.some.injEq] at hHere
      subst hHere
      rw [ih hRest hb rfl, offersAll, hStep]
      simp only [Description.addAll, List.foldl_append]

------------------------------------------------------------
-- Runs
------------------------------------------------------------

/-
  A run has only appended to descriptions. Nothing but these
  is written, and only for the last attribute of a category
  that an enhancer writes. What such an attribute gets is a
  part of the suffixes that are derived for its category, in
  the order of the enhancers and without repeating one at
  once: all those that its description does not end with.
-/
structure OnlyAppends
    (es : List Enhancer)
    (tables : Json)
    (as bs : List Attribute) : Prop where
  length : bs.length = as.length
  redescribed : Redescribed as bs
  kept : ∀ place a,
    as[place]? = some a →
      (∀ e ∈ es, ¬Attribute.IsLastAt as e.writes place a) →
        bs[place]? = some a
  extended : ∀ e ∈ es, ∀ place a,
    Attribute.IsLastAt as e.writes place a →
      ∃ text suffixes,
        a.description = .str text ∧
          suffixes.Sublist (offersAll e.writes tables es as) ∧
          suffixes.IsChain (· ≠ ·) ∧
          suffixes =
            Description.added text
              (offersAll e.writes tables es as) ∧
          bs[place]? =
            some { a with
              description :=
                .str (text ++ Description.joined suffixes) }

/- Whatever the enhancers derive, a run only appends. -/
theorem onlyAppends_of_runAll
    (hText : ∀ a ∈ as, a.HasText)
    (h : runAll es tables as = .ok bs) :
    OnlyAppends es tables as bs where
  length := (redescribes_of_runAll h).length_eq.symm
  redescribed := redescribes_of_runAll h
  kept _ _ ha hNot := getElem?_runAll_of_not_last h ha hNot
  extended := by
    intro e _ place a hLast
    rcases hText a (List.mem_of_getElem? hLast.here) with
      ⟨text, hDescription⟩
    refine
      ⟨text, _, hDescription, Description.added_sublist _ _,
        Description.isChain_added _ _, rfl, ?_⟩
    rw [getElem?_runAll_of_last h hLast hDescription,
      Description.addAll_eq_append]

/- An enhancer that derives one suffix, whatever it is handed. -/
def constant (writes : Scalar) (suffix : String) : Enhancer where
  name := suffix
  reads := []
  writes := writes
  tables := []
  derive _ _ := .ok (some suffix)

/- An enhancer that quotes what a category is described as. -/
def quoting (category : Scalar) : Enhancer where
  name := "quoting"
  reads := []
  writes := category
  tables := []
  derive attributes _ :=
    .ok
      ((attributes.get? category).map fun a =>
        "[" ++ a.description.shown ++ "]")

/- Two fans and a filter. -/
def twoFans : List Attribute :=
  [("FAN", "A"), ("FAN", "B"), ("FILTER", "C")].mapIdx
    fun place (category, code) =>
      { category := .str category
        code := code
        name := .str category
        position := .str category
        description := .str code
        start := 2 * place
        stop := 2 * place + 1 }

/- Suffixes in all ways: plain, quoting, empty and repeated. -/
def fanNotes : List Enhancer :=
  [constant "FAN" "[a]", quoting "FAN", constant "FAN" "",
    constant "FILTER" "[f]", constant "FAN" "[b]",
    constant "FAN" "[b]"]

/-
  The second fan is quoted with the suffix that it has got
  before. An empty suffix and a repeated one are left out.
-/
theorem onlyAppends_twoFans :
    (∀ a ∈ twoFans, a.HasText) ∧
      ∃ bs,
        runAll fanNotes (.obj []) twoFans = .ok bs ∧
          bs.map Attribute.description =
            [.str "A", .str "B [a] [B [a]] [b]",
              .str "C [f]"] ∧
          OnlyAppends fanNotes (.obj []) twoFans bs := by
  have hText : ∀ a ∈ twoFans, a.HasText := by decide +kernel
  have hRun :
      ((runAll fanNotes (.obj []) twoFans).toOption.map
          (·.map Attribute.description)) =
        some
          [.str "A", .str "B [a] [B [a]] [b]", .str "C [f]"] := by
    decide +kernel
  rcases Option.map_eq_some_iff.mp hRun with
    ⟨bs, hSome, hDescriptions⟩
  have hbs := Outcome.toOption_eq_some_iff.mp hSome
  exact
    ⟨hText, bs, hbs, hDescriptions,
      onlyAppends_of_runAll hText hbs⟩

end Enhancer

end ModelNumber
