import ModelNumber.Proofs.Rule.Evaluation

/-
  What a rule says, and on which codes it depends. A rule says
  something when it is in scope, all of its conditions hold,
  and it speaks about the affected code. A warning or an
  informational note only depends on codes that have been
  entered, so it stays as long as these do.

  Main declarations:
    * `Codes.entered_eq_some_iff`
    * `Rule.outcome_eq_some_iff`
    * `Warning.IsLasting`
    * `Rule.outcome_of_kept`
    * `Rule.exists_of_mem_warnings`
    * `Rule.sublist_warnings`
-/

namespace ModelNumber

------------------------------------------------------------
-- Entered codes
------------------------------------------------------------

/- A code has been entered if it is there and is no absent value. -/
theorem Codes.entered_eq_some_iff
    {codes : Codes}
    {category : Json}
    {code : Scalar} :
    codes.entered category = .ok (some code) ↔
      ∃ key,
        category = .scalar key ∧ codes.get? key = some code ∧
          code ≠ .null := by
  unfold entered
  rw [Outcome.bind_eq_ok_iff]
  simp only [Json.key_eq_ok_iff]
  refine exists_congr fun key => and_congr_right fun _ => ?_
  split
  · rename_i hNull
    rw [hNull, Outcome.pure_eq_ok_iff]
    constructor
    · intro hNone
      cases hNone
    · rintro ⟨hSome, hCode⟩
      cases hSome
      exact (hCode rfl).elim
  · rename_i hOther
    rw [Outcome.pure_eq_ok_iff]
    constructor
    · intro hFound
      refine ⟨hFound, ?_⟩
      rintro rfl
      exact hOther hFound
    · rintro ⟨hFound, _⟩
      exact hFound

/- A condition holds if a code of it has been entered. -/
theorem Condition.holds_eq_true_iff
    {condition : Condition}
    {codes : Codes} :
    condition.holds codes = .ok true ↔
      ∃ code,
        codes.entered condition.category = .ok (some code) ∧
          condition.codes.contains code = true := by
  unfold holds
  rw [Outcome.bind_eq_ok_iff]
  constructor
  · rintro ⟨found, hFound, hHolds⟩
    cases found with
    | none => cases hHolds
    | some code =>
        exact ⟨code, hFound, Outcome.pure_eq_ok_iff.mp hHolds⟩
  · rintro ⟨code, hFound, hContains⟩
    exact ⟨some code, hFound, Outcome.pure_eq_ok_iff.mpr hContains⟩

------------------------------------------------------------
-- What a rule says
------------------------------------------------------------

namespace Rule

variable {r : Rule} {scope : Scope} {codes later : Codes}
variable {w : Warning}

/- A rule is triggered if all of its conditions hold. -/
theorem triggered_eq_true_iff :
    r.triggered codes = .ok true ↔
      ∀ condition ∈ r.conditions,
        condition.holds codes = .ok true := by
  unfold triggered conditions
  rw [Outcome.bind_eq_ok_iff, List.forall_mem_cons]
  constructor
  · rintro ⟨first, hFirst, hRest⟩
    cases first with
    | false => cases hRest
    | true =>
        refine ⟨hFirst, ?_⟩
        intro condition hCondition
        rw [Option.mem_toList] at hCondition
        simpa [hCondition] using hRest
  · rintro ⟨hFirst, hRest⟩
    refine ⟨true, hFirst, ?_⟩
    cases hSecond : r.secondCondition with
    | none => rfl
    | some second => exact hRest second (by simp [hSecond])

/- When a rule says something, and what it says. -/
theorem outcome_eq_some_iff :
    r.outcome scope codes = .ok (some w) ↔
      r.inScope scope = .ok true ∧
        (∀ condition ∈ r.conditions,
          condition.holds codes = .ok true) ∧
        (∃ affected,
          codes.entered r.affects = .ok affected ∧
            r.speaks affected = true) ∧
        w = r.warning := by
  rw [← triggered_eq_true_iff]
  unfold outcome
  rw [Outcome.bind_eq_ok_iff]
  constructor
  · rintro ⟨within, hWithin, hRest⟩
    cases within with
    | false => cases hRest
    | true =>
        rcases Outcome.bind_eq_ok_iff.mp hRest with
          ⟨triggered, hTriggered, hEvaluate⟩
        cases triggered with
        | false => cases hEvaluate
        | true =>
            rcases Outcome.bind_eq_ok_iff.mp hEvaluate with
              ⟨affected, hAffected, hSays⟩
            rw [Outcome.pure_eq_ok_iff] at hSays
            split at hSays
            · rename_i hSpeaks
              cases hSays
              exact
                ⟨hWithin, hTriggered,
                  ⟨affected, hAffected, hSpeaks⟩, rfl⟩
            · cases hSays
  · rintro ⟨hWithin, hTriggered, ⟨affected, hAffected, hSpeaks⟩,
      rfl⟩
    refine
      ⟨true, hWithin, Outcome.bind_eq_ok_iff.mpr
        ⟨true, hTriggered, Outcome.bind_eq_ok_iff.mpr
          ⟨affected, hAffected, ?_⟩⟩⟩
    rw [Outcome.pure_eq_ok_iff, if_pos hSpeaks]

/- Only a restriction warns. -/
theorem isWarning_warning_iff (r : Rule) :
    r.warning.isWarning = true ↔ r.kind = .restriction := by
  cases hKind : r.kind <;>
    simp [warning, Warning.isWarning, hKind]

/- The categories on whose codes a rule depends. -/
def names (r : Rule) : List Json :=
  r.conditions.map Condition.category ++ [r.affects]

/- What holds of all names holds of each part of a rule. -/
theorem forall_mem_names_iff
    {p : Json → Prop} :
    (∀ category ∈ r.names, p category) ↔
      (∀ condition ∈ r.conditions, p condition.category) ∧
        p r.affects := by
  rw [names, List.forall_mem_append, List.forall_mem_map,
    List.forall_mem_singleton]

/- Each category of a rule is one that the rule depends on. -/
theorem mem_names_of_mem_categories
    {category : Json}
    (hCategory : category ∈ r.categories) :
    category ∈ r.names := by
  unfold categories at hCategory
  dsimp only at hCategory
  split at hCategory
  · exact List.mem_append_left _ hCategory
  · exact hCategory

/- A rule tells each category that it depends on. -/
theorem exists_mem_categories
    {key : Scalar}
    (hKey : .scalar key ∈ r.names) :
    ∃ other,
      .scalar other ∈ r.categories ∧ (other == key) = true := by
  unfold names at hKey
  simp only [categories]
  rcases List.mem_append.mp hKey with hKey | hKey
  · refine ⟨key, ?_, BEq.rfl⟩
    split
    · exact hKey
    · exact List.mem_append_left _ hKey
  · have hAffects := List.mem_singleton.mp hKey
    split
    · rename_i hInvolved
      rcases List.any_eq_true.mp hInvolved with
        ⟨category, hCategory, hSame⟩
      rw [← hAffects] at hSame
      cases category with
      | scalar other =>
          have hEqual : (key == other) = true := by
            simpa [Json.same] using hSame
          exact ⟨other, hCategory, BEq.symm hEqual⟩
      | arr items => simp [Json.same] at hSame
      | obj fields => simp [Json.same] at hSame
    · exact ⟨key, List.mem_append_right _ hKey, BEq.rfl⟩

end Rule

------------------------------------------------------------
-- What lasts
------------------------------------------------------------

/- A warning, or a note of an informational rule. -/
def Warning.IsLasting (w : Warning) : Prop :=
  w.isWarning = true ∨ w.kind = .informational

instance (w : Warning) : Decidable w.IsLasting :=
  inferInstanceAs
    (Decidable (w.isWarning = true ∨ w.kind = .informational))

namespace Rule

variable {r : Rule} {scope : Scope} {codes later : Codes}
variable {w : Warning}

/-
  What lasts is no advertisement: it is said by a rule that
  warns of an entered code or always speaks.
-/
theorem speaks_of_isLasting
    (hLasting : r.warning.IsLasting)
    {affected : Option Scalar}
    (hSpeaks : r.speaks affected = true) :
    (∃ code, affected = some code) ∨
      ∀ other, r.speaks other = true := by
  cases hKind : r.kind with
  | restriction =>
      cases affected with
      | none => simp [speaks, hKind] at hSpeaks
      | some code => exact Or.inl ⟨code, rfl⟩
  | informational =>
      refine Or.inr ?_
      intro other
      simp [speaks, hKind]
  | enablement =>
      simp [Warning.IsLasting, Warning.isWarning, warning, hKind]
        at hLasting

/-
  What lasts is said again, as long as the codes that have
  been entered for the categories of the rule are kept.
-/
theorem outcome_of_kept
    (hOutcome : r.outcome scope codes = .ok (some w))
    (hLasting : w.IsLasting)
    (hKept :
      ∀ category ∈ r.names, ∀ code,
        codes.entered category = .ok (some code) →
          later.entered category = .ok (some code)) :
    r.outcome scope later = .ok (some w) := by
  rcases outcome_eq_some_iff.mp hOutcome with
    ⟨hScope, hConditions, ⟨affected, hAffected, hSpeaks⟩, rfl⟩
  rcases forall_mem_names_iff.mp hKept with
    ⟨hConditionKept, hAffectsKept⟩
  refine outcome_eq_some_iff.mpr ⟨hScope, ?_, ?_, rfl⟩
  · intro condition hCondition
    rcases Condition.holds_eq_true_iff.mp
        (hConditions condition hCondition) with
      ⟨code, hCode, hContains⟩
    have hLater := hConditionKept condition hCondition code hCode
    exact Condition.holds_eq_true_iff.mpr ⟨code, hLater, hContains⟩
  · rcases speaks_of_isLasting hLasting hSpeaks with
      ⟨code, rfl⟩ | hAlways
    · exact ⟨some code, hAffectsKept code hAffected, hSpeaks⟩
    · -- The category is a key, so it can be looked up again.
      rcases Outcome.bind_eq_ok_iff.mp hAffected with
        ⟨key, hKey, _⟩
      rcases later.exists_entered key with ⟨other, hOther⟩
      rw [← Json.key_eq_ok_iff.mp hKey] at hOther
      exact ⟨other, hOther, hAlways other⟩

/- The rules say what the first one says, and then the others. -/
theorem warnings_cons_eq_ok_iff
    {rules : List Rule}
    {ws : List Warning} :
    warnings (r :: rules) scope codes = .ok ws ↔
      ∃ said others,
        r.outcome scope codes = .ok said ∧
          warnings rules scope codes = .ok others ∧
          ws = said.toList ++ others := by
  unfold warnings
  simp only [List.mapM_cons, Outcome.bind_eq_ok_iff,
    Outcome.pure_eq_ok_iff]
  constructor
  · rintro ⟨_, ⟨said, hSaid, outcomes, hOutcomes, rfl⟩, rfl⟩
    refine
      ⟨said, _, hSaid, ⟨outcomes, hOutcomes, rfl⟩, ?_⟩
    cases said <;> rfl
  · rintro ⟨said, _, hSaid, ⟨outcomes, hOutcomes, rfl⟩, rfl⟩
    refine
      ⟨said :: outcomes, ⟨said, hSaid, outcomes, hOutcomes, rfl⟩,
        ?_⟩
    cases said <;> rfl

/- Each warning is what one of the rules says. -/
theorem exists_of_mem_warnings
    {rules : List Rule}
    {ws : List Warning}
    (hws : warnings rules scope codes = .ok ws)
    (hw : w ∈ ws) :
    ∃ r ∈ rules, w = r.warning := by
  rcases Outcome.bind_eq_ok_iff.mp hws with
    ⟨outcomes, hOutcomes, hSaid⟩
  rw [Outcome.pure_eq_ok_iff] at hSaid
  rw [← hSaid] at hw
  rcases List.mem_filterMap.mp hw with ⟨said, hMem, hSome⟩
  rcases Outcome.exists_of_mem_result hOutcomes hMem with
    ⟨r, hr, hOutcome⟩
  rw [id_eq] at hSome
  rw [hSome] at hOutcome
  exact ⟨r, hr, (outcome_eq_some_iff.mp hOutcome).2.2.2⟩

/-
  The warnings of rules under some codes, as far as each rule
  says them again under later codes, are among the warnings
  under those, in the same order.
-/
theorem sublist_warnings
    {keep : Warning → Bool}
    {rules : List Rule}
    {ws vs : List Warning}
    (hws : warnings rules scope codes = .ok ws)
    (hvs : warnings rules scope later = .ok vs)
    (hAgain :
      ∀ r ∈ rules, ∀ w,
        r.outcome scope codes = .ok (some w) →
          keep w = true →
            r.outcome scope later = .ok (some w)) :
    (ws.filter keep).Sublist vs := by
  induction rules generalizing ws vs with
  | nil =>
      cases hws
      exact List.nil_sublist vs
  | cons r rules ih =>
      rw [List.forall_mem_cons] at hAgain
      rcases warnings_cons_eq_ok_iff.mp hws with
        ⟨said, others, hSaid, hOthers, rfl⟩
      rcases warnings_cons_eq_ok_iff.mp hvs with
        ⟨saidLater, othersLater, hLater, hOthersLater, rfl⟩
      have hRest := ih hOthers hOthersLater hAgain.2
      rw [List.filter_append]
      refine List.Sublist.append ?_ hRest
      cases said with
      | none => exact List.nil_sublist _
      | some w =>
          cases hKeep : keep w with
          | false => simp [hKeep]
          | true =>
              rw [hAgain.1 w hSaid hKeep] at hLater
              cases hLater
              simp [hKeep]

end Rule

end ModelNumber
