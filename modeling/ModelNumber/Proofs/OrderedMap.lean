import Mathlib.Data.List.Induction
import Mathlib.Data.List.Pairwise
import ModelNumber.OrderedMap

/-
  Lookup in an ordered map that was made of a list of entries:
  the last entry of a key decides.

  Main declarations:
    * `find?_eq_some_of_distinct`
    * `OrderedMap.mem_values_of_get?` and
      `OrderedMap.get?_of_mem_entries`
    * `OrderedMap.rel_of_get?`
    * `OrderedMap.get?_congr`
    * `OrderedMap.get?_insert` and `OrderedMap.contains_insert`
    * `OrderedMap.entries_ofList` and `OrderedMap.ofList_entries`
    * `OrderedMap.mapValues_ofList` and `OrderedMap.get?_mapValues`
    * `OrderedMap.get?_ofList_concat`
-/

namespace ModelNumber

/- Where no two keys are equal, what has a key is found by it. -/
theorem find?_eq_some_of_distinct
    {κ α : Type}
    [BEq κ]
    [EquivBEq κ]
    {key : α → κ}
    {as : List α}
    (hDistinct :
      as.Pairwise fun a b => (key a == key b) = false)
    {a : α}
    (ha : a ∈ as) :
    as.find? (key · == key a) = some a := by
  induction as with
  | nil => cases ha
  | cons b as ih =>
      rw [List.pairwise_cons] at hDistinct
      rcases List.mem_cons.mp ha with rfl | ha
      · exact List.find?_cons_of_pos BEq.rfl
      · rw [List.find?_cons_of_neg (by simp [hDistinct.1 a ha])]
        exact ih hDistinct.2 ha

namespace OrderedMap

variable {κ α : Type} [BEq κ] [EquivBEq κ]

/- A value that is found is one of the values. -/
theorem mem_values_of_get?
    {κ α : Type}
    [BEq κ]
    {m : OrderedMap κ α}
    {k : κ}
    {v : α}
    (h : m.get? k = some v) :
    v ∈ m.values := by
  unfold get? at h
  rcases Option.map_eq_some_iff.mp h with ⟨e, he, rfl⟩
  exact List.mem_map_of_mem (List.mem_of_find?_eq_some he)

/- The value of an entry is found by its key. -/
theorem get?_of_mem_entries
    {m : OrderedMap κ α}
    {e : κ × α}
    (he : e ∈ m.entries) :
    m.get? e.1 = some e.2 := by
  rw [get?, find?_eq_some_of_distinct m.distinct he,
    Option.map_some]

/-
  The values of two different keys stand in a relation in
  which all values stand to those behind them.
-/
theorem rel_of_get?
    {R : α → α → Prop}
    [Std.Symm R]
    {m : OrderedMap κ α}
    (hValues : m.values.Pairwise R)
    {k l : κ}
    (hkl : (k == l) = false)
    {v w : α}
    (hv : m.get? k = some v)
    (hw : m.get? l = some w) :
    R v w := by
  unfold get? at hv hw
  rcases Option.map_eq_some_iff.mp hv with ⟨d, hd, rfl⟩
  rcases Option.map_eq_some_iff.mp hw with ⟨e, he, rfl⟩
  have hFirst := List.find?_some hd
  have hSecond := List.find?_some he
  rw [values, List.pairwise_map] at hValues
  have : Std.Symm fun d e : κ × α => R d.2 e.2 :=
    ⟨fun _ _ h => Std.Symm.symm _ _ h⟩
  apply hValues.forall (List.mem_of_find?_eq_some hd)
    (List.mem_of_find?_eq_some he)
  rintro rfl
  rw [BEq.trans (BEq.symm hFirst) hSecond] at hkl
  cases hkl

/- Equal keys have the same value. -/
theorem get?_congr
    (m : OrderedMap κ α)
    {k l : κ}
    (hkl : (k == l) = true) :
    m.get? k = m.get? l := by
  have hTest :
      (fun e : κ × α => e.1 == k) = fun e => e.1 == l := by
    funext e
    cases hk : e.1 == k with
    | true => exact (BEq.trans hk hkl).symm
    | false =>
        cases hl : e.1 == l with
        | false => rfl
        | true =>
            have hTrue : (e.1 == k) = true :=
              BEq.trans hl (BEq.symm hkl)
            rw [hk] at hTrue
            cases hTrue
  rw [get?, get?, hTest]

/- The value of a key after any insertion. -/
theorem get?_insert
    (m : OrderedMap κ α)
    (k l : κ)
    (v : α) :
    (m.insert k v).get? l =
      if k == l then some v else m.get? l := by
  split
  · rename_i hkl
    rw [← get?_congr _ hkl]
    exact get?_insert_self m k v
  · rename_i hkl
    exact get?_insert_of_ne m (by simpa using hkl) v

/- A key is there when it was or has just come in. -/
theorem contains_insert
    (m : OrderedMap κ α)
    (k l : κ)
    (v : α) :
    (m.insert k v).contains l = (k == l || m.contains l) := by
  rw [contains_eq_isSome_get?, contains_eq_isSome_get?,
    get?_insert]
  split
  · rename_i hkl
    rw [hkl]
    rfl
  · rename_i hkl
    rw [Bool.not_eq_true] at hkl
    rw [hkl, Bool.false_or]

------------------------------------------------------------
-- Maps of lists
------------------------------------------------------------

/- An entry of the map of a list has been entered there. -/
theorem exists_of_mem_entries_ofList
    {es : List (κ × α)}
    {e : κ × α}
    (h : e ∈ (ofList es).entries) :
    ∃ d ∈ es, (e.1 == d.1) = true ∧ e.2 = d.2 := by
  induction es using List.reverseRecOn with
  | nil => cases h
  | append_singleton es d ih =>
      rw [ofList, List.foldl_append] at h
      rcases mem_entries_insert h with h | h
      · rcases ih h with ⟨c, hc, hSame⟩
        exact ⟨c, List.mem_append_left _ hc, hSame⟩
      · exact ⟨d, by simp, h⟩

/- Entries with different keys are entered as they are. -/
omit [EquivBEq κ] in
theorem entries_ofList
    {es : List (κ × α)}
    (hDistinct : es.Pairwise fun d e => (d.1 == e.1) = false) :
    (ofList es).entries = es := by
  induction es using List.reverseRecOn with
  | nil => rfl
  | append_singleton es e ih =>
      rw [List.pairwise_append] at hDistinct
      have hEntries : (ofList es).entries = es := ih hDistinct.1
      have hNew :
          ∀ d ∈ (ofList es).entries, (d.1 == e.1) = false := by
        rw [hEntries]
        intro d hd
        exact hDistinct.2.2 d hd e (List.mem_singleton_self e)
      rw [ofList, List.foldl_append]
      refine (entries_insert_of_new _ _ hNew).trans ?_
      rw [hEntries]

/- Maps with the same entries are the same. -/
omit [EquivBEq κ] in
theorem eq_of_entries_eq :
    ∀ {m n : OrderedMap κ α}, m.entries = n.entries → m = n
| ⟨_, _⟩, ⟨_, _⟩, rfl => rfl

/- A map is the map of its entries. -/
omit [EquivBEq κ] in
theorem ofList_entries (m : OrderedMap κ α) :
    ofList m.entries = m :=
  eq_of_entries_eq (entries_ofList m.distinct)

/- A changed map is the map of the changed list. -/
omit [EquivBEq κ] in
theorem mapValues_ofList
    {β : Type}
    (f : α → β)
    (es : List (κ × α)) :
    (ofList es).mapValues f =
      ofList (es.map fun e => (e.1, f e.2)) := by
  induction es using List.reverseRecOn with
  | nil => rfl
  | append_singleton es e ih =>
      rw [List.map_append, List.map_singleton, ofList, ofList,
        List.foldl_append, List.foldl_append, ← ofList, ← ofList,
        ← ih]
      exact eq_of_entries_eq (entries_mapValues_insert f _ _ _)

/- A key of a changed map has the changed value. -/
omit [EquivBEq κ] in
theorem get?_mapValues
    {β : Type}
    (f : α → β)
    (m : OrderedMap κ α)
    (k : κ) :
    (m.mapValues f).get? k = (m.get? k).map f := by
  rw [get?, get?, mapValues, List.find?_map, Option.map_map,
    Option.map_map]
  rfl

/- The last entry of a list decides for its key. -/
theorem get?_ofList_concat
    (es : List (κ × α))
    (e : κ × α)
    (k : κ) :
    (ofList (es ++ [e])).get? k =
      if e.1 == k then some e.2 else (ofList es).get? k := by
  rw [ofList, List.foldl_append]
  exact get?_insert _ _ _ _

end OrderedMap

end ModelNumber
