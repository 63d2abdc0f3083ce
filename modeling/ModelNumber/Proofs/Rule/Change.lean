import ModelNumber.Proofs.OrderedMap
import ModelNumber.Proofs.Rule.Outcome

/-
  A new code of one category only matters to the rules that
  involve this category, and a rule for which the new code is
  valid falls silent, whatever its own conditions are.

  Main declarations:
    * `Rule.involves` and `Warning.involves`
    * `Rule.outcome_eq_of_entered`
    * `Rule.IsSettledBy`
    * `Rule.outcome_ne_some_of_isSettledBy`
    * `Rule.AllAllow` and `Rule.ChangesLocally`
    * `Rule.changesLocally`
-/

namespace ModelNumber

------------------------------------------------------------
-- Involved categories
------------------------------------------------------------

/-
  A rule names a category in one of its conditions or as the
  affected one.
-/
def Rule.involves
    (r : Rule)
    (category : Scalar) : Bool :=
  r.names.any (Json.same (.scalar category))

/- A warning or a note names a category. -/
def Warning.involves
    (w : Warning)
    (category : Scalar) : Bool :=
  w.categories.any (Json.same (.scalar category))

/- Only an equal scalar is the same as a scalar. -/
theorem Json.scalar_same_eq_true_iff
    {key : Scalar}
    {v : Json} :
    Json.same (.scalar key) v = true ↔
      ∃ other, v = .scalar other ∧ (key == other) = true := by
  cases v <;> simp [Json.same]

/- What a rule says involves the categories of the rule. -/
theorem Rule.involves_warning
    (r : Rule)
    (category : Scalar) :
    r.warning.involves category = r.involves category := by
  rw [Bool.eq_iff_iff]
  unfold Warning.involves involves
  simp only [List.any_eq_true, Json.scalar_same_eq_true_iff]
  constructor
  · rintro ⟨_, hMem, key, rfl, hKey⟩
    exact
      ⟨_, mem_names_of_mem_categories hMem, key, rfl, hKey⟩
  · rintro ⟨_, hMem, key, rfl, hKey⟩
    rcases exists_mem_categories hMem with
      ⟨other, hOther, hSame⟩
    exact
      ⟨_, hOther, other, rfl, BEq.trans hKey (BEq.symm hSame)⟩

------------------------------------------------------------
-- A new code
------------------------------------------------------------

/- A new code of a category is no entry for any other value. -/
theorem Codes.entered_insert_of_not_same
    (codes : Codes)
    {category : Scalar}
    (code : Scalar)
    {v : Json}
    (hOther : Json.same (.scalar category) v = false) :
    Codes.entered (codes.insert category code) v =
      codes.entered v := by
  cases v with
  | scalar key =>
      rw [Json.same] at hOther
      simp only [entered, Json.key, bind, Except.bind,
        OrderedMap.get?_insert_of_ne codes hOther code]
  | arr items => rfl
  | obj fields => rfl

/- A new code of a category has been entered, unless it is absent. -/
theorem Codes.entered_insert_of_same
    (codes : Codes)
    {category : Scalar}
    (code : Scalar)
    {v : Json}
    (hSame : Json.same (.scalar category) v = true) :
    Codes.entered (codes.insert category code) v =
      .ok (if code = .null then none else some code) := by
  rcases Json.scalar_same_eq_true_iff.mp hSame with
    ⟨key, rfl, hKey⟩
  unfold entered
  simp only [Json.key, OrderedMap.get?_insert, if_pos hKey, bind,
    Except.bind]
  cases code <;> rfl

namespace Rule

variable {r : Rule} {scope : Scope} {codes later : Codes}
variable {category code : Scalar} {w : Warning}

/-
  A rule says the same about codes that agree on the
  categories that it names.
-/
theorem outcome_eq_of_entered
    (hSame :
      ∀ v ∈ r.names, codes.entered v = later.entered v) :
    r.outcome scope codes = r.outcome scope later := by
  rcases forall_mem_names_iff.mp hSame with
    ⟨hConditions, hAffects⟩
  have hHolds :
      ∀ condition ∈ r.conditions,
        condition.holds codes = condition.holds later := by
    intro condition hCondition
    rw [Condition.holds, Condition.holds,
      hConditions condition hCondition]
  have hFirst := hHolds r.condition List.mem_cons_self
  have hTriggered :
      r.triggered codes = r.triggered later := by
    unfold triggered
    rw [hFirst]
    cases hSecond : r.secondCondition with
    | none => rfl
    | some second =>
        have hMem : second ∈ r.conditions := by
          simp [conditions, hSecond]
        simp only [hHolds second hMem]
  have hEvaluate : r.evaluate codes = r.evaluate later := by
    rw [evaluate, evaluate, hAffects]
  rw [outcome, outcome, hTriggered, hEvaluate]

/- A rule that does not involve a category ignores its code. -/
theorem outcome_insert_of_not_involves
    (codes : Codes)
    (code : Scalar)
    (hOther : r.involves category = false) :
    r.outcome scope (codes.insert category code) =
      r.outcome scope codes := by
  apply outcome_eq_of_entered
  intro v hv
  apply codes.entered_insert_of_not_same code
  simpa using List.any_eq_false.mp hOther v hv

/-
  What is said by rules that do not involve a category is said
  in the same order under any code of it.
-/
theorem filter_warnings_insert
    {rules : List Rule}
    {ws vs : List Warning}
    (hws : warnings rules scope codes = .ok ws)
    (hvs :
      warnings rules scope (codes.insert category code) =
        .ok vs) :
    vs.filter (!·.involves category) =
      ws.filter (!·.involves category) := by
  induction rules generalizing ws vs with
  | nil =>
      cases hws
      cases hvs
      rfl
  | cons r rules ih =>
      rcases warnings_cons_eq_ok_iff.mp hws with
        ⟨said, others, hSaid, hOthers, rfl⟩
      rcases warnings_cons_eq_ok_iff.mp hvs with
        ⟨saidLater, othersLater, hLater, hOthersLater, rfl⟩
      rw [List.filter_append, List.filter_append,
        ih hOthers hOthersLater]
      congr 1
      cases hInvolved : r.involves category with
      | false =>
          rw [outcome_insert_of_not_involves _ _ hInvolved,
            hSaid] at hLater
          cases hLater
          rfl
      | true =>
          -- Whatever the rule says is left out on both sides.
          have hLeftOut :
              ∀ {codes : Codes} {said : Option Warning},
                r.outcome scope codes = .ok said →
                  said.toList.filter (!·.involves category) =
                    [] := by
            intro codes said hOutcome
            cases said with
            | none => rfl
            | some w =>
                rw [(outcome_eq_some_iff.mp hOutcome).2.2.2]
                simp [involves_warning, hInvolved]
          rw [hLeftOut hSaid, hLeftOut hLater]

------------------------------------------------------------
-- Valid codes
------------------------------------------------------------

/-
  A code of a category is what a rule asks for or advertises.
  The absent value is no code that could be chosen, so an
  enablement goes on to advertise its codes.
-/
structure IsSettledBy
    (r : Rule)
    (category code : Scalar) : Prop where
  affects : Json.same (.scalar category) r.affects = true
  valid : r.validCodes.contains code = true
  kind :
    r.kind = .restriction ∨ r.kind = .enablement ∧ code ≠ .null

/- A rule has nothing to say about a code that settles it. -/
theorem speaks_eq_false_of_isSettledBy
    (hSettled : r.IsSettledBy category code) :
    r.speaks (if code = .null then none else some code) =
      false := by
  rcases hSettled.kind with hKind | ⟨hKind, hCode⟩
  · by_cases hCode : code = .null
    · simp [hCode, speaks, hKind]
    · rw [if_neg hCode]
      simp [speaks, hKind, hSettled.valid]
  · rw [if_neg hCode]
    simp [speaks, hKind, hSettled.valid]

/- A rule is silent under a code that settles it. -/
theorem outcome_ne_some_of_isSettledBy
    (scope : Scope)
    (codes : Codes)
    (hSettled : r.IsSettledBy category code)
    (w : Warning) :
    r.outcome scope (codes.insert category code) ≠
      .ok (some w) := by
  intro hOutcome
  rcases (outcome_eq_some_iff.mp hOutcome).2.2.1 with
    ⟨affected, hAffected, hSpeaks⟩
  rw [codes.entered_insert_of_same code hSettled.affects,
    Except.ok.injEq] at hAffected
  rw [← hAffected, speaks_eq_false_of_isSettledBy hSettled]
    at hSpeaks
  cases hSpeaks

/- Rules that say nothing can be left out. -/
theorem warnings_filter_of_silent
    {rules : List Rule}
    {ws : List Warning}
    {keep : Rule → Bool}
    (hSilent :
      ∀ r ∈ rules, keep r = false →
        ∀ w, r.outcome scope codes ≠ .ok (some w))
    (hws : warnings rules scope codes = .ok ws) :
    warnings (rules.filter keep) scope codes = .ok ws := by
  induction rules generalizing ws with
  | nil => exact hws
  | cons r rules ih =>
      rw [List.forall_mem_cons] at hSilent
      rcases warnings_cons_eq_ok_iff.mp hws with
        ⟨said, others, hSaid, hOthers, rfl⟩
      have hRest := ih hSilent.2 hOthers
      cases hKeep : keep r with
      | true =>
          rw [List.filter_cons_of_pos hKeep]
          exact warnings_cons_eq_ok_iff.mpr
            ⟨said, others, hSaid, hRest, rfl⟩
      | false =>
          rw [List.filter_cons_of_neg (by simp [hKeep]), hRest]
          cases said with
          | none => rfl
          | some w => exact (hSilent.1 hKeep w hSaid).elim

------------------------------------------------------------
-- Local changes
------------------------------------------------------------

/- A rule that warns about the code of a category. -/
def restricts
    (r : Rule)
    (category : Scalar) : Bool :=
  r.kind == .restriction
    && Json.same (.scalar category) r.affects

/- A code is valid for all restrictions of a category. -/
def AllAllow
    (rules : List Rule)
    (category code : Scalar) : Prop :=
  ∀ r ∈ rules,
    r.restricts category = true → r.validCodes.contains code = true

/- An allowed code settles the restrictions of its category. -/
theorem AllAllow.isSettledBy
    {rules : List Rule}
    (hAllow : AllAllow rules category code)
    (hr : r ∈ rules)
    (hRestricts : r.restricts category = true) :
    r.IsSettledBy category code := by
  have hParts := hRestricts
  rw [restricts, Bool.and_eq_true, beq_iff_eq] at hParts
  exact
    { affects := hParts.2
      valid := hAllow r hr hRestricts
      kind := Or.inl hParts.1 }

/-
  What a new code of a category does to what the rules say.
  The rules that do not involve the category say the same, in
  the same order, alone and among all rules. A rule that is
  settled by the new code says nothing. If the new code is
  valid for all restrictions of the category, then no rule
  that affects the category warns, and the report is the one
  of all other rules.
-/
structure ChangesLocally
    (rules : List Rule)
    (scope : Scope)
    (codes : Codes)
    (category code : Scalar) : Prop where
  returns :
    (∀ r ∈ rules, r.HasKeys) →
      ∃ ws vs,
        warnings rules scope codes = .ok ws ∧
          warnings rules scope (codes.insert category code) =
            .ok vs
  others :
    warnings (rules.filter (!·.involves category)) scope
        (codes.insert category code) =
      warnings (rules.filter (!·.involves category)) scope codes
  kept : ∀ ws vs,
    warnings rules scope codes = .ok ws →
      warnings rules scope (codes.insert category code) =
          .ok vs →
        vs.filter (!·.involves category) =
          ws.filter (!·.involves category)
  silent : ∀ r ∈ rules,
    r.IsSettledBy category code →
      ∀ w,
        r.outcome scope (codes.insert category code) ≠
          .ok (some w)
  unwarned :
    AllAllow rules category code →
      ∀ r ∈ rules,
        Json.same (.scalar category) r.affects = true →
          ∀ w,
            r.outcome scope (codes.insert category code) =
                .ok (some w) →
              w.isWarning = false
  report :
    AllAllow rules category code →
      ∀ vs,
        warnings rules scope (codes.insert category code) =
            .ok vs →
          warnings (rules.filter (!·.restricts category)) scope
              (codes.insert category code) =
            .ok vs

/- A new code of a category changes what is said locally. -/
theorem changesLocally
    (rules : List Rule)
    (scope : Scope)
    (codes : Codes)
    (category code : Scalar) :
    ChangesLocally rules scope codes category code where
  returns hKeys := by
    rcases exists_warnings hKeys scope codes with ⟨ws, hws⟩
    rcases exists_warnings hKeys scope
        (codes.insert category code) with
      ⟨vs, hvs⟩
    exact ⟨ws, vs, hws, hvs⟩
  others := by
    apply warnings_eq_of_outcomes
    intro r hr
    apply outcome_insert_of_not_involves
    simpa using (List.mem_filter.mp hr).2
  kept _ _ hws hvs := filter_warnings_insert hws hvs
  silent _ _ hSettled w :=
    outcome_ne_some_of_isSettledBy scope codes hSettled w
  unwarned hAllow r hr hAffects w hOutcome := by
    have hSaid := (outcome_eq_some_iff.mp hOutcome).2.2.2
    rw [hSaid, Bool.eq_false_iff, ne_eq, isWarning_warning_iff]
    intro hKind
    have hRestricts : r.restricts category = true := by
      rw [restricts, hKind, hAffects]
      rfl
    exact
      outcome_ne_some_of_isSettledBy scope codes
        (hAllow.isSettledBy hr hRestricts) w hOutcome
  report hAllow vs hvs := by
    apply warnings_filter_of_silent ?_ hvs
    intro r hr hKeep w
    rw [Bool.not_eq_false'] at hKeep
    exact
      outcome_ne_some_of_isSettledBy scope codes
        (hAllow.isSettledBy hr hKeep) w

/- The size that a rule about sizes asks for silences it. -/
example :
    let restriction : Rule :=
      { kind := .restriction
        condition :=
          { category := "SIZE", codes := .ofList ["025", "030"] }
        secondCondition := none
        affects := "SIZE"
        validCodes := .ofList ["025"]
        message := "Only size 025"
        hint := "" }
    let note : Rule :=
      { restriction with
        kind := .informational
        condition := { category := "GEN", codes := .ofList ["RN"] }
        affects := "GEN"
        message := "RN" }
    let entered : Codes := .ofList [("GEN", "RN"), ("SIZE", "030")]
    ([entered, entered.insert "SIZE" "025"].map fun codes =>
        (warnings [restriction, note] .all codes).toOption.map
          (·.map Warning.message)) =
      [some [.str "Only size 025", .str "RN"],
        some [.str "RN"]] := by
  decide

end Rule

end ModelNumber
