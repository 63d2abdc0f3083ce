import Mathlib.Data.List.Induction
import ModelNumber.Proofs.Catalog
import ModelNumber.Proofs.Outcome
import ModelNumber.Rule.Record

/-
  Rules are read back from the records that they are written
  as. Writing puts the codes of a set in order, which takes
  codes that can be compared, such as texts. The codes of a
  rule are texts when those of the record it was read from
  are.

  Main declarations:
    * `CodeSet.ofList_members`
    * `CodeSet.IsTextual` and `Rule.IsTextual`
    * `Condition.record` and `Rule.record`
    * `Rule.readSecond_eq_ok_some_iff`
    * `Rule.IsReadFrom` and `Rule.ofJson_eq_ok_iff`
    * `Rule.ofJson_record` and `Rule.toJson_eq`
    * `Json.NamesTexts` and `Rule.isTextual_of_ofJson`
-/

namespace ModelNumber

------------------------------------------------------------
-- Sets of codes
------------------------------------------------------------

namespace CodeSet

/- Sets with the same members are the same. -/
theorem eq_of_members_eq :
    ∀ {codes others : CodeSet},
      codes.members = others.members → codes = others
| ⟨_, _⟩, ⟨_, _⟩, rfl => rfl

/- The members of the set of a list are in the list. -/
theorem mem_of_mem_members_ofList
    {cs : List Scalar}
    {c : Scalar}
    (h : c ∈ (ofList cs).members) :
    c ∈ cs := by
  induction cs using List.reverseRecOn with
  | nil => cases h
  | append_singleton cs a ih =>
      rw [ofList, List.foldl_append] at h
      rcases mem_members_insert h with rfl | h
      · exact List.mem_append_right _ (List.mem_singleton_self c)
      · exact List.mem_append_left _ (ih h)

/- Codes in order are entered as they are. -/
theorem members_ofList
    {cs : List Scalar}
    (hOrdered : cs.Pairwise fun a b => a.before b = true) :
    (ofList cs).members = cs := by
  induction cs using List.reverseRecOn with
  | nil => rfl
  | append_singleton cs c ih =>
      rw [List.pairwise_append] at hOrdered
      have hMembers : (ofList cs).members = cs := ih hOrdered.1
      have hAfter :
          ∀ a ∈ (ofList cs).members, a.before c = true := by
        rw [hMembers]
        intro a ha
        exact hOrdered.2.2 a ha c (List.mem_singleton_self c)
      rw [ofList, List.foldl_append]
      refine (members_insert_of_after _ hAfter).trans ?_
      rw [hMembers]

/- A set is the set of its members. -/
theorem ofList_members (codes : CodeSet) :
    ofList codes.members = codes :=
  eq_of_members_eq (members_ofList codes.ordered)

/- All codes of a set are texts. -/
def IsTextual (codes : CodeSet) : Prop :=
  ∀ c ∈ codes.members, ∃ s, c = .str s

/- Texts can be put in order. -/
theorem IsTextual.sorted_eq
    {codes : CodeSet}
    (hCodes : codes.IsTextual) :
    codes.sorted = .ok codes.members := by
  have hText : codes.members.all Scalar.isText = true := by
    rw [List.all_eq_true]
    intro c hc
    rcases hCodes c hc with ⟨s, rfl⟩
    rfl
  rw [sorted, sortedMembers, Scalar.comparable, hText,
    Bool.or_true, if_pos rfl]

/- What is put in order are the members. -/
theorem eq_members_of_sorted
    {codes : CodeSet}
    {cs : List Scalar}
    (hSorted : codes.sorted = .ok cs) :
    cs = codes.members := by
  rw [sorted, sortedMembers] at hSorted
  split at hSorted
  · exact (Except.ok.inj hSorted).symm
  · cases hSorted

/- A set is read back from the list of its members. -/
theorem ofJson_members (codes : CodeSet) :
    ofJson (.arr (codes.members.map Json.scalar)) =
      .ok codes := by
  have hKeys :
      (codes.members.map Json.scalar).mapM Json.key =
        (.ok codes.members : Except Defect _) :=
    Outcome.mapM_map_eq_ok fun _ _ => rfl
  simp only [ofJson, Outcome.bind_eq_ok_iff,
    Outcome.pure_eq_ok_iff]
  exact ⟨_, rfl, _, hKeys, codes.ofList_members⟩

end CodeSet

------------------------------------------------------------
-- Records of rules
------------------------------------------------------------

namespace Condition

variable {c : Condition} {v : Json}

/- The record of a condition. -/
def record (c : Condition) : Json :=
  .obj
    [("category", c.category),
      ("codes", .arr (c.codes.members.map Json.scalar))]

/- A record of a condition does not count as false. -/
theorem isTrue_record (c : Condition) :
    c.record.isTrue = true :=
  rfl

/- A condition with texts is written as its record. -/
theorem toJson_eq (hCodes : c.codes.IsTextual) :
    c.toJson = .ok c.record := by
  rw [toJson, hCodes.sorted_eq]
  rfl

/- A condition is only written as its record. -/
theorem eq_record_of_toJson (hWritten : c.toJson = .ok v) :
    v = c.record := by
  rcases Outcome.bind_eq_ok_iff.mp hWritten with
    ⟨codes, hSorted, hRecord⟩
  cases hRecord
  rw [CodeSet.eq_members_of_sorted hSorted]
  rfl

/- What a record has to hold for a condition to be read from it. -/
theorem ofJson_eq_ok_iff :
    Condition.ofJson v = .ok c ↔
      v.field? "category" = some c.category ∧
        ∃ codes,
          v.field? "codes" = some codes ∧
            CodeSet.ofJson codes = .ok c.codes := by
  simp only [ofJson, Outcome.bind_eq_ok_iff,
    Outcome.pure_eq_ok_iff, Json.required_eq_ok_iff]
  constructor
  · rintro ⟨_, hCategory, codes, hField, _, hCodes, rfl⟩
    exact ⟨hCategory, codes, hField, hCodes⟩
  · rintro ⟨hCategory, codes, hField, hCodes⟩
    exact ⟨_, hCategory, codes, hField, _, hCodes, rfl⟩

/- A condition is read back from its record. -/
theorem ofJson_record (c : Condition) :
    Condition.ofJson c.record = .ok c :=
  ofJson_eq_ok_iff.mpr ⟨rfl, _, rfl, c.codes.ofJson_members⟩

end Condition

namespace Rule

/- All codes that a rule names are texts. -/
def IsTextual (r : Rule) : Prop :=
  ∀ reference ∈ r.codeReferences, reference.2.IsTextual

/- No second condition is read from what counts as false. -/
theorem readSecond_eq_ok_none_iff
    {v : Json} :
    readSecond v = .ok none ↔ v.isTrue = false := by
  unfold readSecond
  split
  · rename_i hTrue
    rw [Outcome.bind_eq_ok_iff, hTrue]
    constructor
    · rintro ⟨c, _, hSome⟩
      cases hSome
    · intro hFalse
      cases hFalse
  · rename_i hFalse
    exact iff_of_true rfl (Bool.eq_false_iff.mpr hFalse)

/- A second condition is read as any other one. -/
theorem readSecond_eq_ok_some_iff
    {v : Json}
    {c : Condition} :
    readSecond v = .ok (some c) ↔
      v.isTrue = true ∧ Condition.ofJson v = .ok c := by
  unfold readSecond
  split
  · rename_i hTrue
    rw [Outcome.bind_eq_ok_iff]
    constructor
    · rintro ⟨d, hRead, hSome⟩
      cases hSome
      exact ⟨hTrue, hRead⟩
    · rintro ⟨_, hRead⟩
      exact ⟨c, hRead, rfl⟩
  · rename_i hFalse
    refine iff_of_false ?_ fun hSome => hFalse hSome.1
    intro hSome
    cases hSome

/-
  What a record has to hold for a rule to be read from it. The
  flags exclude each other, and what is optional has its
  default in its absence.
-/
structure IsReadFrom
    (r : Rule)
    (v : Json) : Prop where
  fields : ∃ fields, v = .obj fields
  flags :
    (((v.field? "info").getD (.bool false)).isTrue
        && ((v.field? "enables").getD (.bool false)).isTrue) =
      false
  kind :
    kindOfFlags
        ((v.field? "info").getD (.bool false)).isTrue
        ((v.field? "enables").getD (.bool false)).isTrue =
      r.kind
  condition :
    ∃ w,
      v.field? "condition" = some w ∧
        Condition.ofJson w = .ok r.condition
  second :
    readSecond ((v.field? "and").getD .null) =
      .ok r.secondCondition
  affects : v.field? "affects" = some r.affects
  validCodes :
    CodeSet.ofJson ((v.field? "valid_codes").getD (.arr [])) =
      .ok r.validCodes
  message : v.field? "message" = some r.message
  hint : (v.field? "hint").getD "" = r.hint

/- A rule is read from the records that hold it. -/
theorem ofJson_eq_ok_iff
    {v : Json}
    {r : Rule} :
    Rule.ofJson v = .ok r ↔ r.IsReadFrom v := by
  unfold Rule.ofJson
  simp only [Outcome.bind_eq_ok_iff, Json.optionalField_eq_ok_iff]
  constructor
  · rintro ⟨info, ⟨hFields, rfl⟩, enables, ⟨_, rfl⟩, hRest⟩
    split at hRest
    · rcases Outcome.bind_eq_ok_iff.mp hRest with
        ⟨affects, _, hThrow⟩
      cases hThrow
    · rename_i hFlags
      simp only [Outcome.bind_eq_ok_iff, Outcome.pure_eq_ok_iff,
        Json.required_eq_ok_iff, Json.optionalField_eq_ok_iff]
        at hRest
      rcases hRest with ⟨_, ⟨_, rfl⟩, w, hw, condition,
        hCondition, second, hSecond, affects, hAffects, _,
        ⟨_, rfl⟩, validCodes, hValidCodes, message, hMessage, hint,
        ⟨_, hHint⟩, rfl⟩
      exact
        ⟨hFields, by simpa using hFlags, rfl, ⟨w, hw, hCondition⟩,
          hSecond, hAffects, hValidCodes, hMessage, hHint⟩
  · rintro ⟨hFields, hFlags, hKind, ⟨w, hw, hCondition⟩, hSecond,
      hAffects, hValidCodes, hMessage, hHint⟩
    refine ⟨_, ⟨hFields, rfl⟩, _, ⟨hFields, rfl⟩, ?_⟩
    rw [if_neg (by simp [hFlags])]
    simp only [Outcome.bind_eq_ok_iff, Outcome.pure_eq_ok_iff,
      Json.required_eq_ok_iff, Json.optionalField_eq_ok_iff]
    refine
      ⟨_, ⟨hFields, rfl⟩, w, hw, _, hCondition, _, hSecond, _,
        hAffects, _, ⟨hFields, rfl⟩, _, hValidCodes, _, hMessage,
        _, ⟨hFields, hHint⟩, ?_⟩
    rw [hKind]

/- The flags of a kind of rules are read as that kind. -/
theorem kindOfFlags_flag (kind : RuleKind) :
    kindOfFlags
        (((flag kind).lookup "info").getD (.bool false)).isTrue
        (((flag kind).lookup "enables").getD (.bool false)).isTrue =
      kind := by
  cases kind <;> rfl

/- The flags of a kind of rules exclude each other. -/
theorem flag_excludes (kind : RuleKind) :
    ((((flag kind).lookup "info").getD (.bool false)).isTrue
        && (((flag kind).lookup "enables").getD
          (.bool false)).isTrue) =
      false := by
  cases kind <;> rfl

/- The fields that the record of any rule has. -/
def fixedFields (r : Rule) : List (String × Json) :=
  [("condition", r.condition.record), ("affects", r.affects),
    ("valid_codes", .arr (r.validCodes.members.map Json.scalar)),
    ("message", r.message), ("hint", r.hint)]

/- The fields for a second condition and for the kind of a rule. -/
def furtherFields (r : Rule) : List (String × Json) :=
  r.secondCondition.toList.map (fun c => ("and", c.record))
    ++ flag r.kind

/- The record of a rule. -/
def record (r : Rule) : Json :=
  .obj (r.fixedFields ++ r.furtherFields)

/- A further field is the second condition or a flag. -/
theorem lookup_furtherFields (r : Rule) :
    r.furtherFields.lookup "and" =
        r.secondCondition.map Condition.record ∧
      r.furtherFields.lookup "info" =
        (flag r.kind).lookup "info" ∧
      r.furtherFields.lookup "enables" =
        (flag r.kind).lookup "enables" := by
  unfold furtherFields
  cases r.secondCondition <;> cases r.kind <;> exact ⟨rfl, rfl, rfl⟩

/- A second condition is read back from its field. -/
theorem readSecond_record (second : Option Condition) :
    readSecond ((second.map Condition.record).getD .null) =
      .ok second := by
  cases second with
  | none => rfl
  | some c =>
      exact
        readSecond_eq_ok_some_iff.mpr
          ⟨c.isTrue_record, c.ofJson_record⟩

/- A rule is read back from its record. -/
theorem ofJson_record (r : Rule) :
    Rule.ofJson r.record = .ok r := by
  rcases r.lookup_furtherFields with ⟨hAnd, hInfo, hEnables⟩
  have hAnd :
      r.record.field? "and" =
        r.secondCondition.map Condition.record :=
    hAnd
  have hInfo :
      r.record.field? "info" = (flag r.kind).lookup "info" :=
    hInfo
  have hEnables :
      r.record.field? "enables" =
        (flag r.kind).lookup "enables" :=
    hEnables
  rw [ofJson_eq_ok_iff]
  refine
    ⟨⟨_, rfl⟩, ?_, ?_, ⟨_, rfl, r.condition.ofJson_record⟩, ?_,
      rfl, r.validCodes.ofJson_members, rfl, rfl⟩
  · rw [hInfo, hEnables]
    exact flag_excludes r.kind
  · rw [hInfo, hEnables]
    exact kindOfFlags_flag r.kind
  · rw [hAnd]
    exact readSecond_record r.secondCondition

/- The codes of the conditions of a rule with texts are texts. -/
theorem IsTextual.condition
    {r : Rule}
    (hTexts : r.IsTextual)
    {c : Condition}
    (hc : c ∈ r.conditions) :
    c.codes.IsTextual :=
  hTexts (c.category, c.codes)
    (List.mem_append_left _
      (List.mem_map.mpr ⟨c, hc, rfl⟩))

/- The valid codes of a rule with texts are texts. -/
theorem IsTextual.validCodes
    {r : Rule}
    (hTexts : r.IsTextual) :
    r.validCodes.IsTextual :=
  hTexts (r.affects, r.validCodes)
    (List.mem_append_right _ (List.mem_singleton_self _))

/- A rule with texts is written as its record. -/
theorem toJson_eq
    {r : Rule}
    (hTexts : r.IsTextual) :
    r.toJson = .ok r.record := by
  have hCondition : r.condition.toJson = .ok r.condition.record :=
    Condition.toJson_eq (hTexts.condition List.mem_cons_self)
  have hSecond :
      (r.secondCondition.toList.mapM fun c => do
          return ("and", ← c.toJson)) =
        (.ok
          (r.secondCondition.toList.map fun c =>
            ("and", c.record)) : Except Defect _) := by
    apply Outcome.mapM_eq_ok_map
    intro c hc
    rw [Condition.toJson_eq
      (hTexts.condition (List.mem_cons_of_mem _ hc))]
    rfl
  simp only [toJson, hCondition, hTexts.validCodes.sorted_eq,
    hSecond, Outcome.bind_eq_ok_iff, Outcome.pure_eq_ok_iff]
  refine ⟨_, rfl, _, rfl, _, rfl, ?_⟩
  rw [List.append_assoc]
  rfl

/- A rule is only written as its record. -/
theorem eq_record_of_toJson
    {r : Rule}
    {v : Json}
    (hWritten : r.toJson = .ok v) :
    v = r.record := by
  simp only [toJson, Outcome.bind_eq_ok_iff,
    Outcome.pure_eq_ok_iff] at hWritten
  rcases hWritten with
    ⟨condition, hCondition, codes, hCodes, second, hSecond, rfl⟩
  have hField :
      second =
        r.secondCondition.toList.map fun c =>
          ("and", c.record) := by
    apply Outcome.eq_map_of_mapM_eq_ok hSecond
    intro c field hField
    rcases Outcome.bind_eq_ok_iff.mp hField with
      ⟨w, hWritten, hPure⟩
    rw [← Outcome.pure_eq_ok_iff.mp hPure,
      Condition.eq_record_of_toJson hWritten]
  rw [Condition.eq_record_of_toJson hCondition,
    CodeSet.eq_members_of_sorted hCodes, hField,
    List.append_assoc]
  rfl

/- A rule with texts is read back from what it is written as. -/
theorem exists_toJson
    {r : Rule}
    (hTexts : r.IsTextual) :
    ∃ w, r.toJson = .ok w ∧ Rule.ofJson w = .ok r :=
  ⟨r.record, toJson_eq hTexts, r.ofJson_record⟩

end Rule

------------------------------------------------------------
-- Records with texts
------------------------------------------------------------

/- The elements of a value are texts. -/
def Json.IsTexts (v : Json) : Prop :=
  ∀ x ∈ v.items, ∃ s, x = .str s

instance (v : Json) : Decidable v.IsTexts :=
  inferInstanceAs (Decidable (∀ x ∈ v.items, ∃ s, x = .str s))

/- A set that is read from texts holds texts. -/
theorem CodeSet.isTextual_of_ofJson
    {v : Json}
    {codes : CodeSet}
    (hTexts : v.IsTexts)
    (h : ofJson v = .ok codes) :
    codes.IsTextual := by
  simp only [ofJson, Outcome.bind_eq_ok_iff,
    Outcome.pure_eq_ok_iff] at h
  rcases h with ⟨items, hItems, cs, hKeys, rfl⟩
  rw [Json.IsTexts, Json.items_eq hItems] at hTexts
  intro c hc
  rcases Outcome.exists_of_mem_result hKeys
      (mem_of_mem_members_ofList hc) with
    ⟨x, hx, hKey⟩
  rcases hTexts x hx with ⟨s, rfl⟩
  rw [Json.key_eq_ok_iff, Json.scalar.injEq] at hKey
  exact ⟨s, hKey.symm⟩

/- The codes of the record of a condition are texts. -/
def Json.HasTextCodes (v : Json) : Prop :=
  ∀ codes ∈ v.field? "codes", codes.IsTexts

instance (v : Json) : Decidable v.HasTextCodes :=
  inferInstanceAs
    (Decidable (∀ codes ∈ v.field? "codes", codes.IsTexts))

/- A condition that is read from texts has texts. -/
theorem Condition.isTextual_of_ofJson
    {v : Json}
    {c : Condition}
    (hTexts : v.HasTextCodes)
    (h : Condition.ofJson v = .ok c) :
    c.codes.IsTextual := by
  rcases ofJson_eq_ok_iff.mp h with ⟨_, w, hw, hCodes⟩
  exact CodeSet.isTextual_of_ofJson (hTexts w hw) hCodes

/- All codes that the record of a rule names are texts. -/
structure Json.NamesTexts (v : Json) : Prop where
  conditions :
    ∀ name ∈ ["condition", "and"],
      ∀ w ∈ v.field? name, w.HasTextCodes
  validCodes : ∀ codes ∈ v.field? "valid_codes", codes.IsTexts

instance (v : Json) : Decidable v.NamesTexts :=
  decidable_of_iff
    ((∀ name ∈ ["condition", "and"],
        ∀ w ∈ v.field? name, w.HasTextCodes) ∧
      ∀ codes ∈ v.field? "valid_codes", codes.IsTexts)
    ⟨fun h => ⟨h.1, h.2⟩, fun h => ⟨h.1, h.2⟩⟩

/- A second condition that is read from texts has texts. -/
theorem Rule.isTextual_of_readSecond
    {v : Json}
    {second : Option Condition}
    (hTexts : v.HasTextCodes)
    (h : readSecond v = .ok second) :
    ∀ c ∈ second, c.codes.IsTextual := by
  rintro c rfl
  exact
    Condition.isTextual_of_ofJson hTexts
      (readSecond_eq_ok_some_iff.mp h).2

/- A rule that is read from texts has texts. -/
theorem Rule.isTextual_of_ofJson
    {v : Json}
    {r : Rule}
    (hTexts : v.NamesTexts)
    (h : Rule.ofJson v = .ok r) :
    r.IsTextual := by
  rw [ofJson_eq_ok_iff] at h
  have hCondition : r.condition.codes.IsTextual := by
    rcases h.condition with ⟨w, hw, hRead⟩
    exact
      Condition.isTextual_of_ofJson
        (hTexts.conditions "condition" (by simp) w hw) hRead
  have hSecond : ∀ c ∈ r.secondCondition, c.codes.IsTextual := by
    apply isTextual_of_readSecond ?_ h.second
    cases hField : v.field? "and" with
    | none =>
        intro codes hCodes
        cases hCodes
    | some w => exact hTexts.conditions "and" (by simp) w hField
  have hValidCodes : r.validCodes.IsTextual := by
    refine CodeSet.isTextual_of_ofJson ?_ h.validCodes
    cases hField : v.field? "valid_codes" with
    | none =>
        intro x hx
        cases hx
    | some codes => exact hTexts.validCodes codes hField
  intro reference hReference
  simp only [codeReferences, conditions, List.map_cons,
    List.mem_append, List.mem_cons, List.mem_map,
    List.not_mem_nil, or_false] at hReference
  rcases hReference with (rfl | ⟨c, hc, rfl⟩) | rfl
  · exact hCondition
  · exact hSecond c (by simpa using hc)
  · exact hValidCodes

end ModelNumber
