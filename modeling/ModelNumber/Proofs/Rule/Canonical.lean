import ModelNumber.Proofs.Catalog
import ModelNumber.Proofs.Rule.Record

/-
  The record of a rule is a canonical form. Rules are equal
  exactly if their records are, and of all records from which
  one rule is read, which only differ in the order and the
  repetition of codes, in how a flag is set, and in defaults
  that are spelled out, it is the one that is written.

  Main declarations:
    * `CodeSet.eq_of_mem_iff`
    * `CodeSet.ofJson_eq_ok_iff_of_isTextual`
    * `Json.same_obj_iff`
    * `Rule.record_same_record_iff`
    * `Rule.RecordsAgree` and `Rule.ofJson_eq_ok_iff_recordsAgree`
    * `Rule.IsKept` and `Rule.IsCanonical`
    * `Rule.isKept_and_isCanonical`
-/

namespace ModelNumber

------------------------------------------------------------
-- Sets of texts
------------------------------------------------------------

namespace CodeSet

variable {codes others : CodeSet} {v u : Json}

/- No member of a set comes before itself. -/
theorem nodup_members (codes : CodeSet) :
    codes.members.Nodup := by
  refine codes.ordered.imp ?_
  rintro c _ hBefore rfl
  rw [Scalar.before, Scalar.Meaning.before_irrefl] at hBefore
  cases hBefore

/- A set is decided by what its members are. -/
theorem eq_of_mem_iff
    (hMembers : ∀ c, c ∈ codes.members ↔ c ∈ others.members) :
    codes = others := by
  apply eq_of_members_eq
  have hPerm : codes.members.Perm others.members :=
    (List.perm_ext_iff_of_nodup codes.nodup_members
      others.nodup_members).mpr hMembers
  refine hPerm.eq_of_pairwise ?_ codes.ordered others.ordered
  intro c d _ _ hBefore hBehind
  have hLoop : c.before c = true :=
    Scalar.Meaning.before_trans hBefore hBehind
  rw [Scalar.before, Scalar.Meaning.before_irrefl] at hLoop
  cases hLoop

/- A set of texts holds what the list of them holds. -/
theorem IsTextual.mem_members_iff
    {cs : List Scalar}
    (hTexts : (ofList cs).IsTextual)
    {c : Scalar} :
    c ∈ (ofList cs).members ↔ c ∈ cs := by
  constructor
  · exact mem_of_mem_members_ofList
  · intro hc
    have hContains : (ofList cs).contains c = true := by
      rw [contains_ofList, List.any_eq_true]
      exact ⟨c, hc, BEq.rfl⟩
    rcases List.any_eq_true.mp hContains with ⟨a, ha, hSame⟩
    rcases hTexts a ha with ⟨s, rfl⟩
    rwa [Scalar.eq_str_of_beq hSame]

/- Keys are read from the scalars that they are. -/
theorem mapM_key_eq_ok_iff
    {xs : List Json}
    {cs : List Scalar} :
    xs.mapM Json.key = .ok cs ↔ xs = cs.map Json.scalar := by
  rw [Outcome.mapM_eq_ok_iff, ← List.forall₂_eq_eq_eq,
    List.forall₂_map_right_iff]
  simp only [Json.key_eq_ok_iff]

/- A set of texts is read from any sequence of its members. -/
theorem ofJson_eq_ok_iff_of_isTextual
    (hTexts : codes.IsTextual) :
    ofJson v = .ok codes ↔
      ∃ xs,
        v.elements = .ok xs ∧
          ∀ x, x ∈ xs ↔ ∃ c ∈ codes.members, x = .scalar c := by
  simp only [ofJson, Outcome.bind_eq_ok_iff,
    Outcome.pure_eq_ok_iff, mapM_key_eq_ok_iff]
  refine exists_congr fun xs => and_congr_right fun _ => ?_
  constructor
  · rintro ⟨cs, rfl, rfl⟩ x
    simp only [List.mem_map, hTexts.mem_members_iff, eq_comm]
  · intro hElements
    have hScalars : ∀ x ∈ xs, ∃ c, x.key = .ok c := by
      intro x hx
      rcases (hElements x).mp hx with ⟨c, _, rfl⟩
      exact ⟨c, rfl⟩
    rcases Outcome.exists_mapM_eq_ok hScalars with ⟨cs, hKeys⟩
    have hList := mapM_key_eq_ok_iff.mp hKeys
    have hMembers : ∀ c, c ∈ cs ↔ c ∈ codes.members := by
      intro c
      have hElement := hElements (.scalar c)
      simpa [hList] using hElement
    have hTextsToo : (ofList cs).IsTextual := by
      intro c hc
      exact hTexts c
        ((hMembers c).mp (mem_of_mem_members_ofList hc))
    refine ⟨cs, hList, eq_of_mem_iff ?_⟩
    intro c
    rw [hTextsToo.mem_members_iff, hMembers]

end CodeSet

------------------------------------------------------------
-- Equality of records
------------------------------------------------------------

/- Fields are the same when they are found with the same values. -/
theorem Json.sameFields_iff
    {fields others : List (String × Json)} :
    sameFields fields others = true ↔
      ∀ f ∈ fields,
        ∃ v ∈ others.lookup f.1, f.2.same v = true := by
  induction fields with
  | nil => simp [sameFields]
  | cons f fields ih =>
      rw [sameFields, Bool.and_eq_true, ih, List.forall_mem_cons]
      refine and_congr_left fun _ => ?_
      cases others.lookup f.1 <;> simp

/- Objects are the same when all fields of one are in the other. -/
theorem Json.same_obj_iff
    {fields others : List (String × Json)} :
    same (.obj fields) (.obj others) = true ↔
      fields.length = others.length ∧
        ∀ f ∈ fields,
          ∃ v ∈ others.lookup f.1, f.2.same v = true := by
  rw [same, Bool.and_eq_true, beq_iff_eq, sameFields_iff]

/- Texts are the same list when they are the same texts. -/
theorem Json.same_arr_texts_iff
    {cs ds : List Scalar}
    (hTexts : ∀ c ∈ cs, ∃ s, c = .str s) :
    same (.arr (cs.map .scalar)) (.arr (ds.map .scalar)) = true ↔
      cs = ds := by
  rw [same]
  induction cs generalizing ds with
  | nil => cases ds <;> simp [sameItems]
  | cons c cs ih =>
      rw [List.forall_mem_cons] at hTexts
      rcases hTexts.1 with ⟨s, rfl⟩
      cases ds with
      | nil => simp [sameItems]
      | cons d ds =>
          have hHead :
              same (.str s) (.scalar d) = true ↔
                Scalar.str s = d := by
            rw [same]
            constructor
            · intro hSame
              exact (Scalar.eq_str_of_beq hSame).symm
            · rintro rfl
              exact BEq.rfl
          simp [sameItems, ih hTexts.2, hHead]

/- Sets of texts are the same list when they are the same set. -/
theorem CodeSet.IsTextual.same_members_iff
    {codes others : CodeSet}
    (hTexts : codes.IsTextual) :
    Json.same (.arr (codes.members.map .scalar))
        (.arr (others.members.map .scalar)) = true ↔
      codes = others := by
  rw [Json.same_arr_texts_iff hTexts]
  exact ⟨eq_of_members_eq, fun hSame => by rw [hSame]⟩

/- Conditions are the same when their records are. -/
theorem Condition.record_same_record_iff
    {c d : Condition}
    (hTexts : c.codes.IsTextual) :
    c.record.same d.record = true ↔ c.same d = true := by
  rw [record, record, Json.same_obj_iff]
  simp only [List.forall_mem_cons]
  simp [same, List.lookup_cons, hTexts.same_members_iff]

namespace Rule

variable {r s : Rule} {v u w : Json}

/- Rules are the same field by field. -/
theorem same_eq_true_iff :
    r.same s = true ↔
      (r.condition.same s.condition = true ∧
        r.affects.same s.affects = true ∧
        r.validCodes = s.validCodes ∧
        r.message.same s.message = true ∧
        r.hint.same s.hint = true) ∧
        r.kind = s.kind ∧
        Option.Rel (fun c d => c.same d = true)
          r.secondCondition s.secondCondition := by
  unfold same
  cases r.secondCondition <;> cases s.secondCondition <;>
    simp [and_assoc, and_comm, and_left_comm]

/- The fixed fields of a record are compared one by one. -/
theorem fixedFields_same_iff
    (hTexts : r.IsTextual) :
    (∀ f ∈ r.fixedFields,
        ∃ v ∈ (s.fixedFields ++ s.furtherFields).lookup f.1,
          f.2.same v = true) ↔
      r.condition.same s.condition = true ∧
        r.affects.same s.affects = true ∧
        r.validCodes = s.validCodes ∧
        r.message.same s.message = true ∧
        r.hint.same s.hint = true := by
  have hCondition :
      r.condition.record.same s.condition.record = true ↔
        r.condition.same s.condition = true :=
    Condition.record_same_record_iff
      (hTexts.condition List.mem_cons_self)
  unfold fixedFields
  simp only [List.forall_mem_cons, List.cons_append]
  simp [List.lookup_cons, hCondition,
    hTexts.validCodes.same_members_iff]

/-
  The further fields of records are the same when the kinds and
  the second conditions are.
-/
theorem furtherFields_same_iff
    (hTexts : r.IsTextual) :
    (r.furtherFields.length = s.furtherFields.length ∧
        ∀ f ∈ r.furtherFields,
          ∃ v ∈ (s.fixedFields ++ s.furtherFields).lookup f.1,
            f.2.same v = true) ↔
      r.kind = s.kind ∧
        Option.Rel (fun c d => c.same d = true)
          r.secondCondition s.secondCondition := by
  have hSecond :
      ∀ c ∈ r.secondCondition, ∀ d : Condition,
        c.record.same d.record = true ↔ c.same d = true := by
    intro c hc d
    apply Condition.record_same_record_iff
    apply hTexts.condition
    exact List.mem_cons_of_mem _ (Option.mem_toList.mpr hc)
  have hSet : Json.same (.bool true) (.bool true) = true := rfl
  -- A flag of another kind, or one condition less, changes the
  -- number of the fields.
  unfold furtherFields fixedFields
  simp only [List.forall_mem_append]
  cases hFirst : r.secondCondition <;>
    cases hOther : s.secondCondition <;>
      cases r.kind <;> cases s.kind <;>
        simp [flag, List.lookup_cons, hFirst, hSecond, hSet]

/- Rules with texts are the same when their records are. -/
theorem record_same_record_iff
    (hTexts : r.IsTextual) :
    r.record.same s.record = true ↔ r.same s = true := by
  have hLength :
      (r.fixedFields ++ r.furtherFields).length =
          (s.fixedFields ++ s.furtherFields).length ↔
        r.furtherFields.length = s.furtherFields.length := by
    rw [List.length_append, List.length_append]
    exact Nat.add_left_cancel_iff
  rw [record, record, Json.same_obj_iff, hLength,
    List.forall_mem_append, and_left_comm,
    fixedFields_same_iff hTexts, furtherFields_same_iff hTexts,
    same_eq_true_iff]

end Rule

------------------------------------------------------------
-- Agreeing records
------------------------------------------------------------

/- Sequences of the same elements, in any order and number. -/
def Json.ElementsAgree (v u : Json) : Prop :=
  ∃ xs ys,
    v.elements = .ok xs ∧ u.elements = .ok ys ∧
      ∀ x, x ∈ xs ↔ x ∈ ys

/-
  Records of one condition: they differ in the order and the
  repetition of codes.
-/
structure Condition.RecordsAgree (v u : Json) : Prop where
  category :
    ∃ x, v.field? "category" = some x ∧ u.field? "category" = some x
  codes :
    ∃ cs ds,
      v.field? "codes" = some cs ∧ u.field? "codes" = some ds ∧
        cs.ElementsAgree ds

/-
  Values of one second condition: both count as false, which is
  the same as no condition, or they agree as records.
-/
def Condition.SecondsAgree (v u : Json) : Prop :=
  v.isTrue = u.isTrue ∧
    (v.isTrue = true → Condition.RecordsAgree v u)

namespace Rule

/-
  Records of one rule. They differ in the order and the
  repetition of codes, in the truth value by which a flag is
  set, and in the defaults that they spell out.
-/
structure RecordsAgree (v u : Json) : Prop where
  objects :
    ∃ fields others, v = .obj fields ∧ u = .obj others
  flags : ∀ name ∈ ["info", "enables"],
    ((v.field? name).getD (.bool false)).isTrue =
      ((u.field? name).getD (.bool false)).isTrue
  condition :
    ∃ x y,
      v.field? "condition" = some x ∧
        u.field? "condition" = some y ∧
        Condition.RecordsAgree x y
  second :
    Condition.SecondsAgree ((v.field? "and").getD .null)
      ((u.field? "and").getD .null)
  affects :
    ∃ x, v.field? "affects" = some x ∧ u.field? "affects" = some x
  validCodes :
    Json.ElementsAgree ((v.field? "valid_codes").getD (.arr []))
      ((u.field? "valid_codes").getD (.arr []))
  message :
    ∃ x, v.field? "message" = some x ∧ u.field? "message" = some x
  hint :
    (v.field? "hint").getD "" = (u.field? "hint").getD ""

end Rule

/- A set of texts is read from agreeing sequences. -/
theorem CodeSet.ofJson_eq_ok_iff_elementsAgree
    {codes : CodeSet}
    {v u : Json}
    (hTexts : codes.IsTextual)
    (hRead : CodeSet.ofJson v = .ok codes) :
    CodeSet.ofJson u = .ok codes ↔ v.ElementsAgree u := by
  rw [ofJson_eq_ok_iff_of_isTextual hTexts] at hRead ⊢
  rcases hRead with ⟨xs, hElements, hMembers⟩
  constructor
  · rintro ⟨ys, hOthers, hMembersToo⟩
    refine ⟨xs, ys, hElements, hOthers, ?_⟩
    intro x
    rw [hMembers, hMembersToo]
  · rintro ⟨zs, ys, hSame, hOthers, hAgree⟩
    cases hElements.symm.trans hSame
    refine ⟨ys, hOthers, ?_⟩
    intro x
    rw [← hAgree, hMembers]

/- A condition with texts is read from agreeing records. -/
theorem Condition.ofJson_eq_ok_iff_recordsAgree
    {c : Condition}
    {v u : Json}
    (hTexts : c.codes.IsTextual)
    (hRead : Condition.ofJson v = .ok c) :
    Condition.ofJson u = .ok c ↔ RecordsAgree v u := by
  rw [ofJson_eq_ok_iff] at hRead ⊢
  rcases hRead with ⟨hCategory, cs, hField, hCodes⟩
  have hAgree {ds : Json} :=
    CodeSet.ofJson_eq_ok_iff_elementsAgree (u := ds) hTexts hCodes
  constructor
  · rintro ⟨hCategoryToo, ds, hFieldToo, hCodesToo⟩
    exact
      ⟨⟨_, hCategory, hCategoryToo⟩, cs, ds, hField, hFieldToo,
        hAgree.mp hCodesToo⟩
  · rintro ⟨⟨x, hx, hOther⟩, bs, ds, hSame, hFieldToo, hElements⟩
    cases hCategory.symm.trans hx
    cases hField.symm.trans hSame
    exact ⟨hOther, ds, hFieldToo, hAgree.mpr hElements⟩

namespace Rule

variable {r s : Rule} {v u w : Json}

/- A second condition with texts is read from agreeing values. -/
theorem readSecond_eq_ok_iff_secondsAgree
    {second : Option Condition}
    (hTexts : ∀ c ∈ second, c.codes.IsTextual)
    (hRead : readSecond v = .ok second) :
    readSecond u = .ok second ↔ Condition.SecondsAgree v u := by
  unfold Condition.SecondsAgree
  cases second with
  | none =>
      rw [readSecond_eq_ok_none_iff] at hRead ⊢
      rw [hRead]
      constructor
      · intro hFalse
        exact ⟨hFalse.symm, fun hTrue => nomatch hTrue⟩
      · rintro ⟨hSame, _⟩
        exact hSame.symm
  | some c =>
      rw [readSecond_eq_ok_some_iff] at hRead ⊢
      rw [hRead.1,
        Condition.ofJson_eq_ok_iff_recordsAgree (hTexts c rfl)
          hRead.2]
      constructor
      · rintro ⟨hTrue, hAgree⟩
        exact ⟨hTrue.symm, fun _ => hAgree⟩
      · rintro ⟨hSame, hAgree⟩
        exact ⟨hSame.symm, hAgree rfl⟩

/- The flags of a kind are told by the kind. -/
theorem flags_eq_of_kindOfFlags
    {info enables infoToo enablesToo : Bool}
    (hFlags : (info && enables) = false)
    (hFlagsToo : (infoToo && enablesToo) = false)
    (hKinds :
      kindOfFlags info enables =
        kindOfFlags infoToo enablesToo) :
    info = infoToo ∧ enables = enablesToo := by
  revert hFlags hFlagsToo hKinds
  cases info <;> cases enables <;> cases infoToo <;>
    cases enablesToo <;> decide

/- A rule with texts is read from agreeing records. -/
theorem ofJson_eq_ok_iff_recordsAgree
    (hTexts : r.IsTextual)
    (hRead : Rule.ofJson v = .ok r) :
    Rule.ofJson u = .ok r ↔ RecordsAgree v u := by
  rw [ofJson_eq_ok_iff] at hRead ⊢
  rcases hRead with ⟨⟨fields, hFields⟩, hFlags, hKind,
    ⟨x, hx, hCondition⟩, hSecond, hAffects, hValidCodes, hMessage,
    hHint⟩
  have hConditions {y : Json} :=
    Condition.ofJson_eq_ok_iff_recordsAgree (u := y)
      (hTexts.condition List.mem_cons_self) hCondition
  have hSeconds {y : Json} :=
    readSecond_eq_ok_iff_secondsAgree (u := y)
      (fun c hc =>
        hTexts.condition
          (List.mem_cons_of_mem _ (Option.mem_toList.mpr hc)))
      hSecond
  have hCodes {ds : Json} :=
    CodeSet.ofJson_eq_ok_iff_elementsAgree (u := ds)
      hTexts.validCodes hValidCodes
  constructor
  · rintro ⟨⟨others, hOthers⟩, hFlagsToo, hKindToo,
      ⟨y, hy, hConditionToo⟩, hSecondToo, hAffectsToo,
      hValidCodesToo, hMessageToo, hHintToo⟩
    have hSame :=
      flags_eq_of_kindOfFlags hFlags hFlagsToo
        (hKind.trans hKindToo.symm)
    exact
      { objects := ⟨fields, others, hFields, hOthers⟩
        flags := by simpa using hSame
        condition := ⟨x, y, hx, hy, hConditions.mp hConditionToo⟩
        second := hSeconds.mp hSecondToo
        affects := ⟨_, hAffects, hAffectsToo⟩
        validCodes := hCodes.mp hValidCodesToo
        message := ⟨_, hMessage, hMessageToo⟩
        hint := hHint.trans hHintToo.symm }
  · rintro ⟨⟨_, others, _, hOthers⟩, hSame, ⟨x', y, hx', hy, hAgree⟩,
      hAgreeSecond, ⟨_, hAffects', hAffectsToo⟩, hAgreeCodes,
      ⟨_, hMessage', hMessageToo⟩, hSameHint⟩
    cases hx.symm.trans hx'
    cases hAffects.symm.trans hAffects'
    cases hMessage.symm.trans hMessage'
    have hInfo := hSame "info" (by simp)
    have hEnables := hSame "enables" (by simp)
    exact
      { fields := ⟨others, hOthers⟩
        flags := by rw [← hInfo, ← hEnables, hFlags]
        kind := by rw [← hInfo, ← hEnables, hKind]
        condition := ⟨y, hy, hConditions.mpr hAgree⟩
        second := hSeconds.mpr hAgreeSecond
        affects := hAffectsToo
        validCodes := hCodes.mpr hAgreeCodes
        message := hMessageToo
        hint := hSameHint.symm.trans hHint }

------------------------------------------------------------
-- Canonical records
------------------------------------------------------------

/- The record of the rule that is read from a record. -/
def canonical (v : Json) : Except Defect Json := do
  (← Rule.ofJson v).toJson

/-
  A rule is kept by its record: it is read back, and it is
  equal to another rule with texts exactly if their records
  are, as trees and by what they mean.
-/
structure IsKept (r : Rule) : Prop where
  returns : ∃ w, r.toJson = .ok w ∧ Rule.ofJson w = .ok r
  identical : ∀ s : Rule,
    s.IsTextual → (r = s ↔ r.toJson = s.toJson)
  same : ∀ s : Rule,
    s.IsTextual →
      ∀ w x,
        r.toJson = .ok w → s.toJson = .ok x →
          (r.same s = true ↔ w.same x = true)

/-
  A record is the canonical one of another record: it is what
  is written for it, is itself not changed any more, and is
  also written for all records that agree, but for no others.
-/
structure IsCanonical (v w : Json) : Prop where
  written : canonical v = .ok w
  again : canonical w = .ok w
  agrees : ∀ u, canonical u = .ok w ↔ RecordsAgree v u

/- A rule with texts is kept by its record. -/
theorem isKept_of_isTextual
    (hTexts : r.IsTextual) :
    r.IsKept where
  returns := exists_toJson hTexts
  identical s hTextsToo := by
    constructor
    · rintro rfl
      rfl
    · intro hSame
      rw [toJson_eq hTexts, toJson_eq hTextsToo, Except.ok.injEq]
        at hSame
      have hRead := r.ofJson_record
      rw [hSame, s.ofJson_record, Except.ok.injEq] at hRead
      exact hRead.symm
  same s hTextsToo w x hw hx := by
    rw [eq_record_of_toJson hw, eq_record_of_toJson hx]
    exact (record_same_record_iff hTexts).symm

/- Only one rule is written as a record. -/
theorem canonical_eq_ok_record_iff
    (hTexts : r.IsTextual) :
    canonical v = .ok r.record ↔ Rule.ofJson v = .ok r := by
  rw [canonical, Outcome.bind_eq_ok_iff]
  constructor
  · rintro ⟨s, hRead, hWritten⟩
    -- The record is read back as the rule that it was written for.
    have hBack := s.ofJson_record
    rw [← eq_record_of_toJson hWritten, r.ofJson_record] at hBack
    rw [hRead, hBack]
  · intro hRead
    exact ⟨r, hRead, toJson_eq hTexts⟩

/- Records are canonical forms of the rules with texts. -/
theorem isKept_and_isCanonical :
    (∀ r : Rule, r.IsTextual → r.IsKept) ∧
      ∀ (v : Json) (r : Rule),
        v.NamesTexts → Rule.ofJson v = .ok r →
          ∃ w, IsCanonical v w := by
  refine ⟨fun r hTexts => isKept_of_isTextual hTexts, ?_⟩
  intro v r hNames hRead
  have hTexts : r.IsTextual := isTextual_of_ofJson hNames hRead
  refine ⟨r.record, ?_, ?_, ?_⟩
  · exact (canonical_eq_ok_record_iff hTexts).mpr hRead
  · exact
      (canonical_eq_ok_record_iff hTexts).mpr r.ofJson_record
  · intro u
    rw [canonical_eq_ok_record_iff hTexts]
    exact ofJson_eq_ok_iff_recordsAgree hTexts hRead

/- A note with its codes out of order and its defaults written. -/
def spelledOutNote : Json :=
  .obj
    [("condition",
        .obj
          [("category", "GEN"),
            ("codes", .arr ["RN", "RA", "RN"])]),
      ("affects", "SIZE"), ("message", "No size"), ("info", "yes"),
      ("valid_codes", .arr []), ("hint", ""), ("and", .obj []),
      ("enables", "")]

/- The same note with its codes once and without defaults. -/
def shortNote : Json :=
  .obj
    [("info", .bool true), ("affects", "SIZE"),
      ("condition",
        .obj
          [("category", "GEN"), ("codes", .arr ["RN", "RA"])]),
      ("message", "No size")]

/- Both records of the note have one canonical record. -/
theorem isKept_and_isCanonical_note :
    spelledOutNote.NamesTexts ∧
      ∃ r,
        Rule.ofJson spelledOutNote = .ok r ∧
          r.IsTextual ∧ r.IsKept ∧
          ∃ w,
            IsCanonical spelledOutNote w ∧
              canonical shortNote = .ok w := by
  have hNames : spelledOutNote.NamesTexts := by
    decide
  have hReads : (Rule.ofJson spelledOutNote).toOption.isSome := by
    decide
  have hSame :
      (canonical shortNote).toOption =
        (canonical spelledOutNote).toOption := by
    decide
  rcases Option.isSome_iff_exists.mp hReads with ⟨r, hSome⟩
  have hRead := Outcome.toOption_eq_some_iff.mp hSome
  have hTexts := isTextual_of_ofJson hNames hRead
  rcases isKept_and_isCanonical.2 _ r hNames hRead with
    ⟨w, hCanonical⟩
  refine ⟨hNames, r, hRead, hTexts,
    isKept_and_isCanonical.1 r hTexts, w, hCanonical, ?_⟩
  rw [hCanonical.written] at hSame
  exact Outcome.toOption_eq_some_iff.mp hSame

end Rule

end ModelNumber
