import ModelNumber.Proofs.Catalog
import ModelNumber.Proofs.Decoding.Steps
import ModelNumber.Proofs.Rule.Outcome

/-
  Which rules contribute a warning or a note, told by what has
  been entered and not by how the rules are gone through. A
  rule contributes when all categories that it names are
  admitted, all of its conditions are met, and the affected
  category is in the state that the kind of the rule speaks
  about.

  Main declarations:
    * `Subject` and `Subject.code?`
    * `Rule.Scope.Admits` and `Rule.Scope.admits_congr`
    * `Rule.Contributes`
    * `Rule.inScope_eq_true_iff_admits`
    * `Rule.outcome_eq_some_iff_contributes`
    * `Rule.warnings_eq_of_ok`
    * `Rule.Reports`
    * `Rule.reports`
-/

namespace ModelNumber

------------------------------------------------------------
-- Subjects
------------------------------------------------------------

/-
  What rules are evaluated against: codes by category, some of
  which may be absent, or decoded attributes.
-/
inductive Subject where
| given (codes : Codes)
| decoded (attributes : List Attribute)

namespace Subject

/- The codes of a subject, by category. -/
def toCodes : Subject → Codes
| .given codes => codes
| .decoded attributes => .ofAttributes attributes

/-
  The code that has been entered for a category: the one it is
  given, if that is not absent, or that of its last attribute.
-/
def code? (subject : Subject) : Json → Option Scalar
| .scalar key =>
    match subject with
    | .given codes => (codes.get? key).filter fun code => code ≠ .null
    | .decoded attributes =>
        (Attribute.last? attributes key).map (.str ·.code)
| _ => none

/- The code of a key is looked up without fail. -/
theorem entered_scalar
    (subject : Subject)
    (key : Scalar) :
    subject.toCodes.entered (.scalar key) =
      .ok (subject.code? (.scalar key)) := by
  unfold Codes.entered
  simp only [Json.key, bind, Except.bind]
  cases subject with
  | given codes =>
      simp only [toCodes, code?]
      cases codes.get? key with
      | none => rfl
      | some code => cases code <;> rfl
  | decoded attributes =>
      simp only [toCodes, code?]
      rw [Codes.get?_ofAttributes]
      cases Attribute.last? attributes key <;> rfl

/- What has been entered is looked up for keys only. -/
theorem entered_eq_ok_iff
    {subject : Subject}
    {category : Json}
    {found : Option Scalar} :
    subject.toCodes.entered category = .ok found ↔
      (∃ key, category = .scalar key) ∧
        subject.code? category = found := by
  constructor
  · intro hFound
    rcases Outcome.bind_eq_ok_iff.mp hFound with ⟨key, hKey, _⟩
    rw [Json.key_eq_ok_iff] at hKey
    rw [hKey, entered_scalar, Except.ok.injEq] at hFound
    exact ⟨⟨key, hKey⟩, by rw [hKey, hFound]⟩
  · rintro ⟨⟨key, rfl⟩, rfl⟩
    exact entered_scalar subject key

/- Only a key has a code. -/
theorem exists_key_of_code?
    {subject : Subject}
    {category : Json}
    {code : Scalar}
    (hCode : subject.code? category = some code) :
    ∃ key, category = .scalar key := by
  cases category with
  | scalar key => exact ⟨key, rfl⟩
  | arr items => cases hCode
  | obj fields => cases hCode

end Subject

/- A condition is met by an entered code that it names. -/
def Condition.MetBy
    (condition : Condition)
    (subject : Subject) : Prop :=
  ∃ code ∈ subject.code? condition.category,
    condition.codes.contains code = true

instance
    (condition : Condition)
    (subject : Subject) :
    Decidable (condition.MetBy subject) := by
  unfold Condition.MetBy
  infer_instance

/- A condition holds exactly when it is met. -/
theorem Condition.holds_eq_true_iff_metBy
    {condition : Condition}
    {subject : Subject} :
    condition.holds subject.toCodes = .ok true ↔
      condition.MetBy subject := by
  rw [holds_eq_true_iff]
  refine exists_congr fun code => and_congr_left fun _ => ?_
  rw [Subject.entered_eq_ok_iff]
  constructor
  · rintro ⟨_, hCode⟩
    exact hCode
  · intro hCode
    exact ⟨Subject.exists_key_of_code? hCode, hCode⟩

------------------------------------------------------------
-- Contribution
------------------------------------------------------------

namespace Rule

/- A category is in the catalog and in the slots, if given. -/
def Scope.Admits (scope : Scope) : Json → Prop
| .scalar key =>
    (∀ catalog ∈ scope.catalog, catalog.contains key = true) ∧
      ∀ slots ∈ scope.slots, slots.any (· == key) = true
| _ => False

instance
    (scope : Scope)
    (category : Json) :
    Decidable (scope.Admits category) := by
  unfold Scope.Admits
  split <;> infer_instance

/- What is admitted is a key. -/
theorem Scope.exists_key_of_admits
    {scope : Scope}
    {category : Json}
    (hAdmits : scope.Admits category) :
    ∃ key, category = .scalar key := by
  cases category with
  | scalar key => exact ⟨key, rfl⟩
  | arr items => exact hAdmits.elim
  | obj fields => exact hAdmits.elim

/- Of two equal keys both are admitted or none is. -/
theorem Scope.admits_congr
    (scope : Scope)
    {key other : Scalar}
    (hSame : (key == other) = true) :
    scope.Admits (.scalar key) ↔ scope.Admits (.scalar other) := by
  simp only [Admits, Catalog.contains_congr _ hSame,
    BEq.congr_right hSame]

/-
  What a rule has to say about the affected category: a note
  in any case, a warning if its code is none of the valid
  ones, or an advertisement unless its code is one of them.
-/
def SpeaksTo
    (r : Rule)
    (subject : Subject) : Prop :=
  match r.kind with
  | .informational => True
  | .restriction =>
      ∃ code ∈ subject.code? r.affects,
        r.validCodes.contains code = false
  | .enablement =>
      ∀ code ∈ subject.code? r.affects,
        r.validCodes.contains code = false

instance
    (r : Rule)
    (subject : Subject) :
    Decidable (r.SpeaksTo subject) := by
  unfold SpeaksTo
  split <;> infer_instance

/-
  A rule contributes a warning or a note. The categories that
  it names are those of its conditions and the affected one.
-/
structure Contributes
    (r : Rule)
    (scope : Scope)
    (subject : Subject) : Prop where
  admitted : ∀ category ∈ r.names, scope.Admits category
  met : ∀ condition ∈ r.conditions, condition.MetBy subject
  speaks : r.SpeaksTo subject

instance
    (r : Rule)
    (scope : Scope)
    (subject : Subject) :
    Decidable (r.Contributes scope subject) :=
  decidable_of_iff
    ((∀ category ∈ r.names, scope.Admits category) ∧
      (∀ condition ∈ r.conditions, condition.MetBy subject) ∧
      r.SpeaksTo subject)
    ⟨fun ⟨h₁, h₂, h₃⟩ => ⟨h₁, h₂, h₃⟩,
      fun ⟨h₁, h₂, h₃⟩ => ⟨h₁, h₂, h₃⟩⟩

variable {r : Rule} {scope : Scope} {subject : Subject}

/- What a rule has to say is told by the entered code. -/
theorem speaks_eq_true_iff :
    r.speaks (subject.code? r.affects) = true ↔
      r.SpeaksTo subject := by
  unfold speaks SpeaksTo
  cases r.kind <;>
    cases subject.code? r.affects <;> simp

/- A test on keys, of all categories of a rule. -/
theorem allCategories_eq_true_iff
    {test : Scalar → Bool} :
    r.allCategories test = .ok true ↔
      ∀ category ∈ r.categories,
        ∃ key, category = .scalar key ∧ test key = true := by
  refine ⟨?_, allCategories_eq_ok_true⟩
  intro hAll category hCategory
  rcases Outcome.bind_eq_ok_iff.mp hAll with
    ⟨keys, hKeys, hTests⟩
  rw [Outcome.pure_eq_ok_iff, List.all_eq_true] at hTests
  rcases Outcome.exists_of_mem_of_mapM_eq_ok hKeys hCategory with
    ⟨key, hMem, hKey⟩
  exact ⟨key, Json.key_eq_ok_iff.mp hKey, hTests key hMem⟩

/- The catalog is looked at first, and then the slots. -/
theorem inScope_eq_bind
    (r : Rule)
    (scope : Scope) :
    r.inScope scope =
      (match scope.catalog with
        | some catalog => r.allCategories catalog.contains
        | none => .ok true) >>= fun known =>
      if known then
        match scope.slots with
        | some slots =>
            r.allCategories fun c => slots.any (· == c)
        | none => .ok true
      else
        .ok false := by
  unfold inScope
  cases scope.catalog <;> rfl

/- The catalog and the slots, if given, have all categories. -/
theorem inScope_eq_true_iff :
    r.inScope scope = .ok true ↔
      (∀ catalog ∈ scope.catalog,
        r.allCategories catalog.contains = .ok true) ∧
      ∀ slots ∈ scope.slots,
        r.allCategories (fun c => slots.any (· == c)) =
          .ok true := by
  rw [inScope_eq_bind, Outcome.bind_eq_ok_iff]
  constructor
  · rintro ⟨known, hKnown, hSlots⟩
    cases known with
    | false => cases hSlots
    | true =>
        constructor
        · intro catalog hCatalog
          rw [Option.mem_def.mp hCatalog] at hKnown
          exact hKnown
        · intro slots hGiven
          rw [Option.mem_def.mp hGiven] at hSlots
          exact hSlots
  · rintro ⟨hCatalog, hSlots⟩
    refine ⟨true, ?_, ?_⟩
    · cases hGiven : scope.catalog with
      | none => rfl
      | some catalog => exact hCatalog catalog hGiven
    · cases hGiven : scope.slots with
      | none => rfl
      | some slots => exact hSlots slots hGiven

/-
  All names of a rule are admitted when its categories are,
  which leave out an affected category that is there already.
-/
theorem forall_admits_names_iff
    (hKeys :
      ∀ category ∈ r.names, ∃ key, category = .scalar key) :
    (∀ category ∈ r.names, scope.Admits category) ↔
      ∀ category ∈ r.categories, scope.Admits category := by
  constructor
  · intro hAdmits category hCategory
    exact
      hAdmits category (mem_names_of_mem_categories hCategory)
  · intro hAdmits category hName
    rcases hKeys category hName with ⟨key, rfl⟩
    rcases exists_mem_categories hName with
      ⟨other, hOther, hSame⟩
    exact (scope.admits_congr hSame).mp (hAdmits _ hOther)

/- A rule on keys is looked at when all its names are admitted. -/
theorem inScope_eq_true_iff_admits
    (hKeys :
      ∀ category ∈ r.names, ∃ key, category = .scalar key) :
    r.inScope scope = .ok true ↔
      ∀ category ∈ r.names, scope.Admits category := by
  rw [forall_admits_names_iff hKeys, inScope_eq_true_iff]
  simp only [allCategories_eq_true_iff]
  constructor
  · rintro ⟨hCatalog, hSlots⟩ category hCategory
    rcases hKeys category
        (mem_names_of_mem_categories hCategory) with ⟨key, rfl⟩
    constructor
    · intro catalog hGiven
      rcases hCatalog catalog hGiven _ hCategory with
        ⟨other, hSame, hContains⟩
      cases hSame
      exact hContains
    · intro slots hGiven
      rcases hSlots slots hGiven _ hCategory with
        ⟨other, hSame, hIn⟩
      cases hSame
      exact hIn
  · intro hAdmits
    constructor
    · intro catalog hGiven category hCategory
      have hAdmitted := hAdmits category hCategory
      rcases Scope.exists_key_of_admits hAdmitted with ⟨key, rfl⟩
      exact ⟨key, rfl, hAdmitted.1 catalog hGiven⟩
    · intro slots hGiven category hCategory
      have hAdmitted := hAdmits category hCategory
      rcases Scope.exists_key_of_admits hAdmitted with ⟨key, rfl⟩
      exact ⟨key, rfl, hAdmitted.2 slots hGiven⟩

/- A rule says something exactly when it contributes. -/
theorem outcome_eq_some_iff_contributes
    {w : Warning} :
    r.outcome scope subject.toCodes = .ok (some w) ↔
      r.Contributes scope subject ∧ w = r.warning := by
  simp only [outcome_eq_some_iff, Condition.holds_eq_true_iff_metBy,
    Subject.entered_eq_ok_iff]
  constructor
  · rintro ⟨hScope, hMet, ⟨_, ⟨hAffects, rfl⟩, hSpeaks⟩, rfl⟩
    refine ⟨⟨?_, hMet, speaks_eq_true_iff.mp hSpeaks⟩, rfl⟩
    refine (inScope_eq_true_iff_admits ?_).mp hScope
    refine forall_mem_names_iff.mpr ⟨?_, hAffects⟩
    intro condition hCondition
    rcases hMet condition hCondition with ⟨code, hCode, _⟩
    exact Subject.exists_key_of_code? hCode
  · rintro ⟨hContributes, rfl⟩
    have hKeys :
        ∀ category ∈ r.names, ∃ key, category = .scalar key :=
      fun category hName =>
        Scope.exists_key_of_admits
          (hContributes.admitted category hName)
    exact
      ⟨(inScope_eq_true_iff_admits hKeys).mpr
          hContributes.admitted,
        hContributes.met,
        ⟨_, ⟨(forall_mem_names_iff.mp hKeys).2, rfl⟩,
          speaks_eq_true_iff.mpr hContributes.speaks⟩,
        rfl⟩

------------------------------------------------------------
-- Warnings
------------------------------------------------------------

variable {rules : List Rule} {ws : List Warning}

/-
  Each rule that contributes gives its own warning or note,
  and the others give none.
-/
theorem warnings_eq_of_ok
    (hws : warnings rules scope subject.toCodes = .ok ws) :
    ws =
      (rules.filter (·.Contributes scope subject)).map
        warning := by
  induction rules generalizing ws with
  | nil =>
      cases hws
      rfl
  | cons r rules ih =>
      rcases warnings_cons_eq_ok_iff.mp hws with
        ⟨said, others, hSaid, hOthers, rfl⟩
      rw [ih hOthers, List.filter_cons]
      cases said with
      | none =>
          have hSilent : ¬r.Contributes scope subject := by
            intro hContributes
            have hSays :=
              outcome_eq_some_iff_contributes.mpr
                ⟨hContributes, rfl⟩
            rw [hSays] at hSaid
            cases hSaid
          rw [if_neg (by simpa using hSilent)]
          rfl
      | some w =>
          rcases outcome_eq_some_iff_contributes.mp hSaid with
            ⟨hContributes, rfl⟩
          rw [if_pos (by simpa using hContributes)]
          rfl

/- The rules of two lists say what they say list by list. -/
theorem warnings_append
    (rules more : List Rule)
    (scope : Scope)
    (codes : Codes) :
    warnings (rules ++ more) scope codes = do
      let ws ← warnings rules scope codes
      let others ← warnings more scope codes
      return ws ++ others := by
  unfold warnings
  rw [List.mapM_append]
  cases rules.mapM (·.outcome scope codes) with
  | error defect => rfl
  | ok outcomes =>
      cases more.mapM (·.outcome scope codes) with
      | error defect => rfl
      | ok others =>
          change Except.ok _ = Except.ok _
          rw [List.filterMap_append]

/-
  A restriction that contributes only names categories for
  which a code has been entered.
-/
theorem exists_code_of_contributes
    (hContributes : r.Contributes scope subject)
    (hKind : r.kind = .restriction) :
    ∀ category ∈ r.names,
      ∃ code, subject.code? category = some code := by
  refine forall_mem_names_iff.mpr ⟨?_, ?_⟩
  · intro condition hCondition
    rcases hContributes.met condition hCondition with
      ⟨code, hCode, _⟩
    exact ⟨code, hCode⟩
  · have hSpeaks := hContributes.speaks
    rw [SpeaksTo, hKind] at hSpeaks
    rcases hSpeaks with ⟨code, hCode, _⟩
    exact ⟨code, hCode⟩

/-
  What the rules report about a subject. Rules on keys always
  report something, possibly nothing. The report has one entry
  for each rule that contributes, in the order of the rules,
  which is a warning if the rule is a restriction. The entry
  names the categories that the rule names, and a warning
  names none that has not been entered. Further rules add
  their own report at the end.
-/
structure Reports
    (rules : List Rule)
    (scope : Scope)
    (subject : Subject) : Prop where
  returns :
    (∀ r ∈ rules, r.HasKeys) →
      warnings rules scope subject.toCodes =
        .ok ((rules.filter (·.Contributes scope subject)).map
          warning)
  entries : ∀ ws,
    warnings rules scope subject.toCodes = .ok ws →
      ws =
        (rules.filter (·.Contributes scope subject)).map
          warning
  severe : ∀ r ∈ rules,
    r.warning.isWarning = true ↔ r.kind = .restriction
  named : ∀ r ∈ rules,
    (∀ category ∈ r.warning.categories, category ∈ r.names) ∧
      ∀ key,
        .scalar key ∈ r.names →
          ∃ other,
            .scalar other ∈ r.warning.categories ∧
              (other == key) = true
  entered : ∀ ws,
    warnings rules scope subject.toCodes = .ok ws →
      ∀ w ∈ ws, w.isWarning = true →
        ∀ category ∈ w.categories,
          ∃ code, subject.code? category = some code
  append : ∀ more,
    warnings (rules ++ more) scope subject.toCodes = do
      let ws ← warnings rules scope subject.toCodes
      let others ← warnings more scope subject.toCodes
      return ws ++ others

/- Rules report exactly what contributes. -/
theorem reports
    (rules : List Rule)
    (scope : Scope)
    (subject : Subject) :
    Reports rules scope subject where
  returns hKeys := by
    rcases exists_warnings hKeys scope subject.toCodes with
      ⟨ws, hws⟩
    rw [hws, warnings_eq_of_ok hws]
  entries _ hws := warnings_eq_of_ok hws
  severe r _ := isWarning_warning_iff r
  named _ _ :=
    ⟨fun _ => mem_names_of_mem_categories,
      fun _ => exists_mem_categories⟩
  entered ws hws w hw hWarning category hCategory := by
    rw [warnings_eq_of_ok hws] at hw
    rcases List.mem_map.mp hw with ⟨r, hr, rfl⟩
    rw [List.mem_filter, decide_eq_true_iff] at hr
    exact exists_code_of_contributes hr.2
      ((isWarning_warning_iff r).mp hWarning) category
      (mem_names_of_mem_categories hCategory)
  append more := warnings_append rules more scope subject.toCodes

/- A code that is absent is not wrong. -/
example :
    let rule : Rule :=
      { kind := .restriction
        condition := { category := "GEN", codes := .ofList ["RN"] }
        secondCondition := none
        affects := "SIZE"
        validCodes := .ofList ["025"]
        message := "Only size 025"
        hint := "" }
    ([Scalar.null, "025", "030"].map fun size =>
        decide (rule.Contributes .all
          (.given (.ofList [("GEN", "RN"), ("SIZE", size)])))) =
      [false, false, true] := by
  decide

end Rule

end ModelNumber
