import ModelNumber.Proofs.Outcome
import ModelNumber.Rule.Basic

/-
  Rules whose categories are keys can be evaluated in any
  scope and against any codes. In scopes that contain the same
  rules they say the same, and so they do against codes that
  are looked up alike.

  Main declarations:
    * `Rule.HasKeys`
    * `Rule.exists_outcome`
    * `Rule.exists_warnings`
    * `Rule.inScope_eq_ok_true`
    * `Rule.warnings_congr`
    * `Rule.warnings_eq_of_codes`
-/

namespace ModelNumber

/- The code of a key can be looked up. -/
theorem Codes.exists_entered
    (codes : Codes)
    (key : Scalar) :
    ∃ code, codes.entered (.scalar key) = .ok code := by
  unfold entered
  simp only [Json.key, bind, Except.bind]
  split
  · exact ⟨_, rfl⟩
  · exact ⟨_, rfl⟩

/- A condition on a key can be tested. -/
theorem Condition.exists_holds
    {condition : Condition}
    {key : Scalar}
    (hKey : condition.category = .scalar key)
    (codes : Codes) :
    ∃ holds, condition.holds codes = .ok holds := by
  rcases codes.exists_entered key with ⟨code, hCode⟩
  unfold holds
  rw [hKey, hCode]
  cases code with
  | none => exact ⟨_, rfl⟩
  | some code => exact ⟨_, rfl⟩

namespace Rule

/- All that a rule names as a category is a key. -/
structure HasKeys (r : Rule) : Prop where
  categories :
    ∀ category ∈ r.categories, ∃ key, category = .scalar key
  references :
    ∀ reference ∈ r.codeReferences,
      ∃ key, reference.1 = .scalar key

variable {r : Rule}

/- The categories of a rule can be tested. -/
theorem exists_allCategories
    (hKeys : r.HasKeys)
    (test : Scalar → Bool) :
    ∃ all, r.allCategories test = .ok all := by
  have hAll :
      ∀ category ∈ r.categories, ∃ key, category.key = .ok key := by
    intro category hCategory
    rcases hKeys.categories category hCategory with ⟨key, hKey⟩
    exact ⟨key, Json.key_eq_ok_iff.mpr hKey⟩
  rcases Outcome.exists_mapM_eq_ok hAll with ⟨keys, hMap⟩
  unfold allCategories
  rw [hMap]
  exact ⟨_, rfl⟩

/- It can be tested whether a rule is in a scope. -/
theorem exists_inScope
    (hKeys : r.HasKeys)
    (scope : Scope) :
    ∃ within, r.inScope scope = .ok within := by
  unfold inScope
  cases scope.catalog with
  | none =>
      cases scope.slots with
      | none => exact ⟨true, rfl⟩
      | some slots => exact exists_allCategories hKeys _
  | some catalog =>
      rcases exists_allCategories hKeys catalog.contains with
        ⟨known, hKnown⟩
      dsimp only
      rw [hKnown]
      cases known with
      | false => exact ⟨false, rfl⟩
      | true =>
          cases scope.slots with
          | none => exact ⟨true, rfl⟩
          | some slots => exact exists_allCategories hKeys _

/- It can be tested whether a rule is triggered. -/
theorem exists_triggered
    (hKeys : r.HasKeys)
    (codes : Codes) :
    ∃ triggered, r.triggered codes = .ok triggered := by
  have hCondition :
      ∀ condition ∈ r.conditions,
        ∃ holds, condition.holds codes = .ok holds := by
    intro condition hMem
    have hReference :
        (condition.category, condition.codes) ∈
          r.codeReferences := by
      rw [codeReferences, List.mem_append]
      exact Or.inl (List.mem_map.mpr ⟨condition, hMem, rfl⟩)
    rcases hKeys.references _ hReference with ⟨key, hKey⟩
    exact Condition.exists_holds hKey codes
  rcases hCondition r.condition List.mem_cons_self with
    ⟨first, hFirst⟩
  unfold triggered
  rw [hFirst]
  cases first with
  | false => exact ⟨false, rfl⟩
  | true =>
      cases hSecond : r.secondCondition with
      | none => exact ⟨true, rfl⟩
      | some second =>
          apply hCondition second
          simp [conditions, hSecond]

/- A rule can be evaluated. -/
theorem exists_evaluate
    (hKeys : r.HasKeys)
    (codes : Codes) :
    ∃ warning, r.evaluate codes = .ok warning := by
  have hReference :
      (r.affects, r.validCodes) ∈ r.codeReferences := by
    simp [codeReferences]
  rcases hKeys.references _ hReference with ⟨key, hKey⟩
  rcases codes.exists_entered key with ⟨code, hCode⟩
  have hAffects : r.affects = .scalar key := hKey
  unfold evaluate
  rw [hAffects, hCode]
  exact ⟨_, rfl⟩

/- A rule contributes something, or nothing, in any scope. -/
theorem exists_outcome
    (hKeys : r.HasKeys)
    (scope : Scope)
    (codes : Codes) :
    ∃ warning, r.outcome scope codes = .ok warning := by
  rcases exists_inScope hKeys scope with ⟨within, hWithin⟩
  rcases exists_triggered hKeys codes with
    ⟨triggered, hTriggered⟩
  unfold outcome
  rw [hWithin, hTriggered]
  cases within with
  | false => exact ⟨none, rfl⟩
  | true =>
      cases triggered with
      | false => exact ⟨none, rfl⟩
      | true => exact exists_evaluate hKeys codes

/- The warnings of rules can be computed. -/
theorem exists_warnings
    {rules : List Rule}
    (hKeys : ∀ r ∈ rules, r.HasKeys)
    (scope : Scope)
    (codes : Codes) :
    ∃ found, warnings rules scope codes = .ok found := by
  have hOutcomes :
      ∀ r ∈ rules,
        ∃ warning, r.outcome scope codes = .ok warning := by
    intro r hr
    exact exists_outcome (hKeys r hr) scope codes
  rcases Outcome.exists_mapM_eq_ok hOutcomes with
    ⟨outcomes, hMap⟩
  unfold warnings
  rw [hMap]
  exact ⟨_, rfl⟩

------------------------------------------------------------
-- Scopes
------------------------------------------------------------

/- A test holds for all categories if it does for each key. -/
theorem allCategories_eq_ok_true
    {test : Scalar → Bool}
    (hTest :
      ∀ category ∈ r.categories,
        ∃ key, category = .scalar key ∧ test key = true) :
    r.allCategories test = .ok true := by
  have hKeys :
      ∀ category ∈ r.categories, ∃ key, category.key = .ok key := by
    intro category hCategory
    rcases hTest category hCategory with ⟨key, rfl, _⟩
    exact ⟨key, rfl⟩
  rcases Outcome.exists_mapM_eq_ok hKeys with ⟨keys, hMap⟩
  have hAll : keys.all test = true := by
    rw [List.all_eq_true]
    intro key hKey
    rcases Outcome.exists_of_mem_result hMap hKey with
      ⟨category, hCategory, hIsKey⟩
    rcases hTest category hCategory with ⟨_, rfl, hHolds⟩
    cases hIsKey
    exact hHolds
  rw [allCategories, hMap]
  exact congrArg Except.ok hAll

/- A rule is in the scope of a catalog and slots it can use. -/
theorem inScope_eq_ok_true
    {catalog : Catalog}
    {slots : List Scalar}
    (hKnown :
      ∀ category ∈ r.categories,
        ∃ key,
          category = .scalar key ∧
            catalog.contains key = true ∧
            slots.any (· == key) = true) :
    r.inScope { catalog := some catalog, slots := some slots } =
      .ok true := by
  have hCatalog : r.allCategories catalog.contains = .ok true := by
    apply allCategories_eq_ok_true
    intro category hCategory
    rcases hKnown category hCategory with ⟨key, hKey, hIn, _⟩
    exact ⟨key, hKey, hIn⟩
  have hSlots :
      r.allCategories (fun c => slots.any (· == c)) =
        .ok true := by
    apply allCategories_eq_ok_true
    intro category hCategory
    rcases hKnown category hCategory with ⟨key, hKey, _, hIn⟩
    exact ⟨key, hKey, hIn⟩
  unfold inScope
  dsimp only
  rw [hCatalog]
  exact hSlots

/- Rules that say the same one by one say the same together. -/
theorem warnings_eq_of_outcomes
    {rules : List Rule}
    {scope other : Scope}
    {codes later : Codes}
    (hSame :
      ∀ r ∈ rules, r.outcome scope codes = r.outcome other later) :
    warnings rules scope codes = warnings rules other later := by
  have hOutcomes :
      rules.mapM (·.outcome scope codes) =
        rules.mapM (·.outcome other later) := by
    induction rules with
    | nil => rfl
    | cons r rules ih =>
        rw [List.forall_mem_cons] at hSame
        rw [List.mapM_cons, List.mapM_cons, ih hSame.2, hSame.1]
  rw [warnings, hOutcomes, warnings]

/- Scopes that contain the same rules give the same warnings. -/
theorem warnings_congr
    {rules : List Rule}
    {scope other : Scope}
    (hSame : ∀ r ∈ rules, r.inScope scope = r.inScope other)
    (codes : Codes) :
    warnings rules scope codes = warnings rules other codes := by
  apply warnings_eq_of_outcomes
  intro r hr
  rw [outcome, outcome, hSame r hr]

------------------------------------------------------------
-- Codes
------------------------------------------------------------

/- Rules say the same about codes that are looked up alike. -/
theorem warnings_eq_of_codes
    {codes later : Codes}
    (hCodes : ∀ key, codes.get? key = later.get? key)
    (rules : List Rule)
    (scope : Scope) :
    warnings rules scope codes = warnings rules scope later := by
  have hEntered : codes.entered = later.entered := by
    funext category
    simp only [Codes.entered, hCodes]
  have hHolds :
      ∀ condition : Condition,
        condition.holds codes = condition.holds later := by
    intro condition
    rw [Condition.holds, Condition.holds, hEntered]
  apply warnings_eq_of_outcomes
  intro r _
  simp only [outcome, triggered, evaluate, hHolds, hEntered]

end Rule

end ModelNumber
