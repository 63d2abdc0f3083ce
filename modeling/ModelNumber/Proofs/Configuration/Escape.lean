import ModelNumber.Proofs.Configuration.Read

/-
  Which defects of the entries of a document are not reported
  as a problem of it. Most of them are. Those that are not end
  the reading: a value is taken for an object and is none, or
  a bound of a range is infinite.

  Main declarations:
    * `Outcome.Escapes`, `Outcome.escapes_bind_iff` and
      `Outcome.escapes_mapM_iff`
    * `Json.HasInfiniteBound`
    * `Configuration.not_escapes_readCategory`
    * `Configuration.escapes_readRanges_iff`
    * `Configuration.NeedsObject`
    * `Configuration.escapes_readList_iff`
-/

namespace ModelNumber

------------------------------------------------------------
-- Defects that are not reported
------------------------------------------------------------

namespace Outcome

variable {α β : Type}

/- A computation ends with a defect that is not reported. -/
def Escapes
    (x : Except Defect α)
    (d : Defect) : Prop :=
  x = .error d ∧ d.isOfEntry = false

/- A result has no defect. -/
theorem not_escapes_ok
    {a : α}
    {d : Defect} :
    ¬ Escapes (.ok a) d := by
  rintro ⟨h, _⟩
  cases h

/- A returned result has no defect. -/
theorem not_escapes_pure
    {a : α}
    {d : Defect} :
    ¬ Escapes (pure a) d :=
  not_escapes_ok

/- A defect of an entry is reported. -/
theorem not_escapes_error
    {e d : Defect}
    (hEntry : e.isOfEntry = true) :
    ¬ Escapes (.error e : Except Defect α) d := by
  rintro ⟨h, hOther⟩
  cases h
  rw [hEntry] at hOther
  cases hOther

/- Another defect is not. -/
theorem escapes_error_iff
    {e d : Defect}
    (hOther : e.isOfEntry = false) :
    Escapes (.error e : Except Defect α) d ↔ d = e := by
  constructor
  · rintro ⟨h, _⟩
    cases h
    rfl
  · rintro rfl
    exact ⟨rfl, hOther⟩

/- A defect of a sequence of two steps is that of one of them. -/
theorem escapes_bind_iff
    {x : Except Defect α}
    {f : α → Except Defect β}
    {d : Defect} :
    Escapes (x >>= f) d ↔
      Escapes x d ∨ ∃ a, x = .ok a ∧ Escapes (f a) d := by
  simp only [Escapes, bind_eq_error_iff, or_and_right,
    ← exists_and_right, and_assoc]

/- A defect of a list is that of its first unreadable element. -/
theorem escapes_mapM_iff
    {f : α → Except Defect β}
    {as : List α}
    {d : Defect} :
    Escapes (as.mapM f) d ↔
      ∃ before a after,
        as = before ++ a :: after ∧
          (∀ x ∈ before, ∃ b, f x = .ok b) ∧
            Escapes (f a) d := by
  simp only [Escapes, mapM_eq_error_iff, ← exists_and_right,
    and_assoc]

/- Where no element has such a defect, the list has none. -/
theorem not_escapes_mapM
    {f : α → Except Defect β}
    {as : List α}
    {d : Defect}
    (hNone : ∀ a, ¬ Escapes (f a) d) :
    ¬ Escapes (as.mapM f) d := by
  rw [escapes_mapM_iff]
  rintro ⟨_, a, _, _, _, ha⟩
  exact hNone a ha

/- What is not reported remains a defect of the document. -/
theorem mapError_ofEntry_eq_defect_iff
    {key : Json}
    {x : Except Defect α}
    {d : Defect} :
    Except.mapError (Fault.ofEntry key) x = .error (.defect d) ↔
      Escapes x d := by
  rw [mapError_eq_error_iff]
  constructor
  · rintro ⟨e, hx, hFault⟩
    rw [Fault.ofEntry] at hFault
    split at hFault
    · cases hFault
    · rename_i hEntry
      cases hFault
      exact ⟨hx, by simpa using hEntry⟩
  · rintro ⟨hx, hEntry⟩
    refine ⟨d, hx, ?_⟩
    rw [Fault.ofEntry, if_neg (by simp [hEntry])]

/- A defect of the document is not reported. -/
theorem mapError_defect_eq_defect_iff
    {x : Except Defect α}
    {d : Defect} :
    Except.mapError Fault.defect x = .error (.defect d) ↔
      x = .error d := by
  simp [mapError_eq_error_iff]

end Outcome

------------------------------------------------------------
-- Values
------------------------------------------------------------

namespace Json

open Outcome

variable {v : Json} {d : Defect}

/- A field that is required is reported if it is missing. -/
theorem not_escapes_required
    {name : String} :
    ¬ Escapes (v.required name) d := by
  rw [required.eq_def]
  split
  · split
    · exact not_escapes_ok
    · exact not_escapes_error rfl
  · exact not_escapes_error rfl

/- Nothing else can be asked for a field that may be missing. -/
theorem optionalField_of_not_obj
    (hOther : ¬ v.IsObject)
    {name : String}
    {default : Json} :
    v.optionalField name default = .error .unsupported := by
  cases v with
  | scalar s => rfl
  | arr items => rfl
  | obj fields => exact absurd ⟨fields, rfl⟩ hOther

/- An object has such a field or its default. -/
theorem optionalField_obj
    {fields : List (String × Json)}
    {name : String}
    {default : Json} :
    (Json.obj fields).optionalField name default =
      .ok (((Json.obj fields).field? name).getD default) :=
  rfl

/- An object can always be asked for such a field. -/
theorem not_escapes_optionalField
    {fields : List (String × Json)}
    {name : String}
    {default : Json} :
    ¬ Escapes ((Json.obj fields).optionalField name default) d :=
  not_escapes_ok

/- Nothing else can be asked for all of its fields. -/
theorem fields_eq_error_iff :
    v.fields = .error d ↔
      ¬ v.IsObject ∧ d = .unsupported := by
  cases v <;> simp [fields, IsObject, eq_comm]

/- A value without fields is not reported. -/
theorem escapes_fields_iff :
    Escapes v.fields d ↔
      ¬ v.IsObject ∧ d = .unsupported := by
  rw [Escapes, fields_eq_error_iff, and_iff_left_iff_imp]
  rintro ⟨_, rfl⟩
  rfl

/- What is no sequence has no elements. -/
theorem elements_eq_error_iff :
    v.elements = .error d ↔
      (¬ ∃ items, v.elements = .ok items) ∧ d = .mistyped := by
  cases hElements : v.elements with
  | ok items => simp
  | error e =>
      have hError : e = .mistyped := by
        rw [elements.eq_def] at hElements
        split at hElements <;> cases hElements
        rfl
      simp [hError, eq_comm]

/- What is no sequence is reported. -/
theorem not_escapes_elements : ¬ Escapes v.elements d := by
  rw [elements.eq_def]
  split
  · exact not_escapes_ok
  · exact not_escapes_ok
  · exact not_escapes_ok
  · exact not_escapes_error rfl

/- What is no key is reported. -/
theorem not_escapes_key : ¬ Escapes v.key d := by
  rw [key.eq_def]
  split
  · exact not_escapes_ok
  · exact not_escapes_error rfl

/- What is no pair is reported. -/
theorem not_escapes_pair : ¬ Escapes v.pair d := by
  rw [pair, escapes_bind_iff]
  rintro (hElements | ⟨items, _, hPair⟩)
  · exact not_escapes_elements hElements
  · split at hPair
    · exact not_escapes_pure hPair
    · exact not_escapes_error rfl hPair

/- What is no map is reported. -/
theorem not_escapes_toMap : ¬ Escapes v.toMap d := by
  by_cases hObject : v.IsObject
  · rcases hObject with ⟨fields, rfl⟩
    exact not_escapes_ok
  · have hOther : ∀ fields, v ≠ .obj fields :=
      not_exists.mp hObject
    rw [toMap_eq_foldlM hOther, escapes_bind_iff]
    rintro (hElements | ⟨items, _, hError, hEntry⟩)
    · exact not_escapes_elements hElements
    · rcases exists_of_foldlM_eq_error hError with
        ⟨m, w, _, hStep⟩
      have hEscapes := And.intro hStep hEntry
      change Escapes _ d at hEscapes
      rw [escapes_bind_iff] at hEscapes
      rcases hEscapes with hPair | ⟨⟨k, value⟩, _, hKey⟩
      · exact not_escapes_pair hPair
      · rcases escapes_bind_iff.mp hKey with
          hKey | ⟨_, _, hPure⟩
        · exact not_escapes_key hKey
        · exact not_escapes_pure hPure

/- A value is an infinite number. -/
def IsInfinite (v : Json) : Prop :=
  ∃ x negative,
    v = .float x ∧ FloatValue.ofFloat x = .infinite negative

/- A number is infinite when its value is. -/
theorem isInfinite_float_iff
    {x : Float} :
    IsInfinite (.float x) ↔
      ∃ negative, FloatValue.ofFloat x = .infinite negative := by
  constructor
  · rintro ⟨_, negative, hFloat, hValue⟩
    cases hFloat
    exact ⟨negative, hValue⟩
  · rintro ⟨negative, hValue⟩
    exact ⟨x, negative, rfl, hValue⟩

/- Only for an infinite number no whole number is reported. -/
theorem escapes_toInt_iff :
    Escapes v.toInt d ↔ v.IsInfinite ∧ d = .unbounded := by
  rw [toInt.eq_def]
  split
  · exact iff_of_false not_escapes_ok (by simp [IsInfinite])
  · exact iff_of_false not_escapes_ok (by simp [IsInfinite])
  · rw [isInfinite_float_iff]
    split
    · rename_i hNan
      exact
        iff_of_false (not_escapes_error rfl) (by simp [hNan])
    · rename_i negative hInfinite
      rw [escapes_error_iff rfl, iff_and_self]
      exact fun _ => ⟨negative, hInfinite⟩
    · rename_i hOther
      refine iff_of_false not_escapes_ok ?_
      rintro ⟨⟨negative, hInfinite⟩, _⟩
      exact hOther negative hInfinite
  · refine iff_of_false ?_ (by simp [IsInfinite])
    split
    · exact not_escapes_ok
    · exact not_escapes_error rfl
  · rename_i hFloat _
    refine iff_of_false (not_escapes_error rfl) ?_
    rintro ⟨⟨x, _, rfl, _⟩, _⟩
    exact hFloat x rfl

/- The value that the range of a category starts with. -/
def lowerBound? : Json → Option Json
| .obj fields => fields.lookup "start"
| .arr [start, _] => some start
| _ => none

/- The value that the range of a category stops with. -/
def upperBound? : Json → Option Json
| .obj fields => fields.lookup "end"
| .arr [_, stop] => some stop
| _ => none

/-
  The first bound of a range is infinite, or the second one is
  and the first one is a whole number.
-/
def HasInfiniteBound (v : Json) : Prop :=
  (∃ w, v.lowerBound? = some w ∧ w.IsInfinite) ∨
    ∃ u n w,
      v.lowerBound? = some u ∧ u.toInt = .ok n ∧
        v.upperBound? = some w ∧ w.IsInfinite

/- A pair is a sequence of two elements. -/
theorem pair_eq_ok_iff
    {a b : Json} :
    v.pair = .ok (a, b) ↔ v.elements = .ok [a, b] := by
  rw [pair, bind_eq_ok_iff]
  constructor
  · rintro ⟨items, hItems, hPair⟩
    split at hPair
    · cases hPair
      exact hItems
    · cases hPair
  · intro hItems
    exact ⟨[a, b], hItems, rfl⟩

/- Only an object has a field. -/
theorem exists_eq_obj_of_field?
    {name : String}
    {w : Json}
    (hField : v.field? name = some w) :
    ∃ fields, v = .obj fields := by
  cases v with
  | scalar s => cases hField
  | arr items => cases hField
  | obj fields => exact ⟨fields, rfl⟩

/- A range that is no object is a list of two bounds. -/
theorem exists_eq_arr_of_lowerBound?
    (hOther : ¬ v.IsObject)
    {a : Json}
    (hBound : v.lowerBound? = some a) :
    ∃ b, v = .arr [a, b] := by
  rw [lowerBound?.eq_def] at hBound
  split at hBound
  · exact absurd ⟨_, rfl⟩ hOther
  · cases hBound
    exact ⟨_, rfl⟩
  · cases hBound

/- Only a list has an infinite number among its elements. -/
theorem eq_arr_of_elements
    {items : List Json}
    (hItems : v.elements = .ok items)
    {w : Json}
    (hMem : w ∈ items)
    (hInfinite : w.IsInfinite) :
    v = .arr items := by
  rcases hInfinite with ⟨x, _, rfl, _⟩
  rw [elements.eq_def] at hItems
  split at hItems <;> cases hItems
  · rfl
  · simp at hMem
  · simp at hMem

end Json

------------------------------------------------------------
-- Entries
------------------------------------------------------------

namespace Configuration

open Outcome

variable {v : Json} {d : Defect}

/- What is wrong with a category is reported. -/
theorem not_escapes_readCategory :
    ¬ Escapes (readCategory v) d := by
  rw [readCategory, escapes_bind_iff]
  rintro (hRequired | ⟨id, hId, hRest⟩)
  · exact Json.not_escapes_required hRequired
  -- An id can only be read from an object.
  · rw [Json.required_eq_ok_iff] at hId
    rcases Json.exists_eq_obj_of_field? hId with ⟨fields, rfl⟩
    simp only [escapes_bind_iff, Json.not_escapes_required,
      Json.not_escapes_optionalField, Json.not_escapes_toMap,
      not_escapes_pure, and_false, exists_false, false_or]
      at hRest

/- An object with an infinite bound is not reported. -/
theorem escapes_readRange_obj_iff
    {category : String}
    {fields : List (String × Json)} :
    Escapes (readRange category (.obj fields)) d ↔
      (Json.obj fields).HasInfiniteBound ∧ d = .unbounded := by
  simp only [readRange, escapes_bind_iff,
    Json.not_escapes_required, Json.escapes_toInt_iff,
    Json.not_escapes_optionalField, Json.not_escapes_elements,
    not_escapes_pure, Json.required_eq_ok_iff, and_false,
    exists_false, false_or, or_false]
  constructor
  · rintro ⟨u, hu, ⟨hInfinite, rfl⟩ |
      ⟨n, hn, w, hw, hInfinite, rfl⟩⟩
    · exact ⟨.inl ⟨u, hu, hInfinite⟩, rfl⟩
    · exact ⟨.inr ⟨u, n, w, hu, hn, hw, hInfinite⟩, rfl⟩
  · rintro ⟨⟨u, hu, hInfinite⟩ |
      ⟨u, n, w, hu, hn, hw, hInfinite⟩, rfl⟩
    · exact ⟨u, hu, .inl ⟨hInfinite, rfl⟩⟩
    · exact ⟨u, hu, .inr ⟨n, hn, w, hw, hInfinite, rfl⟩⟩

/- A pair with an infinite bound is not reported. -/
theorem escapes_readRange_pair_iff
    {category : String}
    (hOther : ¬ v.IsObject) :
    Escapes (readRange category v) d ↔
      v.HasInfiniteBound ∧ d = .unbounded := by
  have hRead :
      readRange category v = (do
        let bounds ← v.pair
        let start ← bounds.1.toInt
        let stop ← bounds.2.toInt
        return {
          category := category
          start, stop
          sharedWith := [] }) := by
    cases v with
    | scalar s => rfl
    | arr items => rfl
    | obj fields => exact absurd ⟨fields, rfl⟩ hOther
  simp only [hRead, escapes_bind_iff, Json.not_escapes_pair,
    Json.escapes_toInt_iff, not_escapes_pure, Prod.exists,
    Json.pair_eq_ok_iff, and_false, exists_false, false_or,
    or_false]
  constructor
  · rintro ⟨a, b, hItems, ⟨hInfinite, rfl⟩ |
      ⟨n, hn, hInfinite, rfl⟩⟩
    · cases Json.eq_arr_of_elements hItems (by simp) hInfinite
      exact ⟨.inl ⟨a, rfl, hInfinite⟩, rfl⟩
    · cases Json.eq_arr_of_elements hItems (by simp) hInfinite
      exact ⟨.inr ⟨a, n, b, rfl, hn, rfl, hInfinite⟩, rfl⟩
  · rintro ⟨⟨a, ha, hInfinite⟩ |
      ⟨a, n, b, ha, hn, hb, hInfinite⟩, rfl⟩
    · rcases Json.exists_eq_arr_of_lowerBound? hOther ha with
        ⟨b, rfl⟩
      exact ⟨a, b, rfl, .inl ⟨hInfinite, rfl⟩⟩
    · rcases Json.exists_eq_arr_of_lowerBound? hOther ha with
        ⟨_, rfl⟩
      cases hb
      exact ⟨a, b, rfl, .inr ⟨n, hn, hInfinite, rfl⟩⟩

/- Of a range only an infinite bound is not reported. -/
theorem escapes_readRange_iff
    {category : String} :
    Escapes (readRange category v) d ↔
      v.HasInfiniteBound ∧ d = .unbounded := by
  by_cases hObject : v.IsObject
  · rcases hObject with ⟨fields, rfl⟩
    exact escapes_readRange_obj_iff
  · exact escapes_readRange_pair_iff hObject

/- Of the ranges only the first unreadable one counts. -/
theorem escapes_readRanges_iff :
    Escapes (readRanges v) d ↔
      ¬ v.IsObject ∧ d = .unsupported ∨
        ∃ before f after,
          v = .obj (before ++ f :: after) ∧
            (∀ g ∈ before, ∃ r, readRange g.1 g.2 = .ok r) ∧
              f.2.HasInfiniteBound ∧ d = .unbounded := by
  rw [readRanges, escapes_bind_iff, Json.escapes_fields_iff]
  simp only [escapes_mapM_iff, escapes_readRange_iff]
  constructor
  · rintro (hOther | ⟨fields, hFields, before, f, after, rfl,
      hBound⟩)
    · exact .inl hOther
    · cases v <;> cases hFields
      exact .inr ⟨before, f, after, rfl, hBound⟩
  · rintro (hOther | ⟨before, f, after, rfl, hBound⟩)
    · exact .inl hOther
    · exact .inr ⟨_, rfl, before, f, after, rfl, hBound⟩

/-
  A reader that takes its values for objects. What is wrong
  with an object is reported, but no other value is.
-/
structure NeedsObject
    {α : Type}
    (read : Json → Except Defect α) : Prop where
  objects : ∀ fields d, ¬ Escapes (read (.obj fields)) d
  others :
    ∀ v,
      ¬ v.IsObject →
        read v = .error .unsupported

/- Of what is read only that it is no object is not reported. -/
theorem NeedsObject.escapes_iff
    {α : Type}
    {read : Json → Except Defect α}
    (hRead : NeedsObject read) :
    Escapes (read v) d ↔
      ¬ v.IsObject ∧ d = .unsupported := by
  by_cases hObject : v.IsObject
  · rcases hObject with ⟨fields, rfl⟩
    refine iff_of_false (hRead.objects fields d) ?_
    exact fun hOther => hOther.1 (Json.isObject_obj fields)
  · rw [hRead.others v hObject, escapes_error_iff rfl]
    simp [hObject]

/- A grammar is taken for an object. -/
theorem needsObject_readGrammar : NeedsObject readGrammar where
  objects := by
    intro fields d
    simp only [readGrammar, escapes_bind_iff,
      Json.not_escapes_optionalField, Json.not_escapes_elements,
      not_escapes_pure, and_false, exists_false, false_or,
      not_false_eq_true]
  others := by
    intro v hOther
    rw [readGrammar, Json.optionalField_of_not_obj hOther]
    rfl

/- A line of the reference list is taken for an object. -/
theorem needsObject_readNavigation :
    NeedsObject readNavigation where
  objects := by
    intro fields d
    simp only [readNavigation, escapes_bind_iff,
      Json.not_escapes_optionalField, Json.not_escapes_required,
      not_escapes_pure, and_false, exists_false, false_or,
      not_false_eq_true]
  others := by
    intro v hOther
    rw [readNavigation, Json.optionalField_of_not_obj hOther]
    rfl

/- What is wrong with a set of codes is reported. -/
theorem not_escapes_codeSet :
    ¬ Escapes (CodeSet.ofJson v) d := by
  have hKeys :
      ∀ items : List Json, ¬ Escapes (items.mapM Json.key) d :=
    fun _ => not_escapes_mapM fun _ => Json.not_escapes_key
  simp only [CodeSet.ofJson, escapes_bind_iff, hKeys,
    Json.not_escapes_elements, not_escapes_pure, and_false,
    exists_false, false_or, not_false_eq_true]

/- What is wrong with a condition is reported. -/
theorem not_escapes_condition :
    ¬ Escapes (Condition.ofJson v) d := by
  simp only [Condition.ofJson, escapes_bind_iff,
    Json.not_escapes_required, not_escapes_codeSet,
    not_escapes_pure, and_false, exists_false, false_or,
    not_false_eq_true]

/- What is wrong with a second condition is reported. -/
theorem not_escapes_readSecond :
    ¬ Escapes (Rule.readSecond v) d := by
  rw [Rule.readSecond]
  split
  · simp only [escapes_bind_iff, not_escapes_condition,
      not_escapes_pure, and_false, exists_false, false_or,
      not_false_eq_true]
  · exact not_escapes_pure

/- A rule is taken for an object. -/
theorem needsObject_ofJson : NeedsObject Rule.ofJson where
  objects := by
    intro fields d
    simp only [Rule.ofJson, escapes_bind_iff,
      Json.not_escapes_optionalField, false_or]
    rintro ⟨info, _, enables, _, hRest⟩
    split at hRest
    · rcases escapes_bind_iff.mp hRest with
        hField | ⟨affects, _, hThrow⟩
      · exact Json.not_escapes_optionalField hField
      · exact not_escapes_error rfl hThrow
    · simp only [escapes_bind_iff, Json.not_escapes_required,
        Json.not_escapes_optionalField, not_escapes_condition,
        not_escapes_readSecond, not_escapes_codeSet,
        not_escapes_pure, and_false, exists_false, false_or]
        at hRest
  others := by
    intro v hOther
    rw [Rule.ofJson, Json.optionalField_of_not_obj hOther]
    rfl

/- Of a list only the first unreadable element counts. -/
theorem escapes_readList_iff
    {α : Type}
    {read : Json → Except Defect α}
    (hRead : NeedsObject read)
    {fields : List (String × Json)}
    {name : String} :
    Escapes (readList (.obj fields) name read) d ↔
      ∃ before w after,
        (((Json.obj fields).field? name).getD (.arr [])).elements =
            .ok (before ++ w :: after) ∧
          (∀ u ∈ before, ∃ a, read u = .ok a) ∧
            ¬ w.IsObject ∧
              d = .unsupported := by
  simp only [readList, escapes_bind_iff,
    Json.not_escapes_optionalField, Json.not_escapes_elements,
    Json.optionalField_eq_ok_iff, escapes_mapM_iff,
    hRead.escapes_iff, false_or]
  constructor
  · rintro ⟨_, ⟨_, rfl⟩, _, hItems, before, w, after, rfl,
      hEntry⟩
    exact ⟨before, w, after, hItems, hEntry⟩
  · rintro ⟨before, w, after, hItems, hEntry⟩
    exact
      ⟨_, ⟨⟨fields, rfl⟩, rfl⟩, _, hItems, before, w, after, rfl,
        hEntry⟩

end Configuration

end ModelNumber
