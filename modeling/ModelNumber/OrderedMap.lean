/-
  This file defines finite maps that keep the order in which
  their keys came in. A key that comes in again keeps its
  place and takes the new value.

  Key definitions include:
    * `OrderedMap`
    * `OrderedMap.get?`
    * `OrderedMap.contains`
    * `OrderedMap.insert`
    * `OrderedMap.ofList`
-/

namespace ModelNumber

/- A list of entries no two of which have equal keys. -/
structure OrderedMap
    (κ α : Type) [BEq κ] where
  entries : List (κ × α)
  distinct :
    entries.Pairwise (fun p q => (p.1 == q.1) = false)

namespace OrderedMap

variable {κ α β : Type} [BEq κ]

------------------------------------------------------------
-- Views
------------------------------------------------------------

/- The map without entries. -/
def empty : OrderedMap κ α where
  entries := []
  distinct := .nil

instance : EmptyCollection (OrderedMap κ α) :=
  ⟨empty⟩

instance : Inhabited (OrderedMap κ α) :=
  ⟨empty⟩

/- The keys, in order. -/
def keys (m : OrderedMap κ α) : List κ :=
  m.entries.map Prod.fst

/- The values, in the order of their keys. -/
def values (m : OrderedMap κ α) : List α :=
  m.entries.map Prod.snd

/- The number of entries. -/
def size (m : OrderedMap κ α) : Nat :=
  m.entries.length

/- The value of a key. -/
def get?
    (m : OrderedMap κ α)
    (k : κ) : Option α :=
  (m.entries.find? (·.1 == k)).map Prod.snd

/- A key has a value. -/
def contains
    (m : OrderedMap κ α)
    (k : κ) : Bool :=
  m.entries.any (·.1 == k)

/- A key is there when it can be looked up. -/
theorem contains_eq_isSome_get?
    (m : OrderedMap κ α)
    (k : κ) :
    m.contains k = (m.get? k).isSome := by
  unfold contains get?
  induction m.entries with
  | nil => rfl
  | cons e rest ih =>
      cases h : e.1 == k
      · simpa [h] using ih
      · simp [h]

------------------------------------------------------------
-- Insertion
------------------------------------------------------------

/- Give a key a value, in its own place or else at the end. -/
private def put
    (k : κ)
    (v : α) : List (κ × α) → List (κ × α)
| [] => [(k, v)]
| e :: rest =>
    if e.1 == k then
      (e.1, v) :: rest
    else
      e :: put k v rest

private theorem mem_put
    {k : κ}
    {v : α}
    {e : κ × α} :
    ∀ {es : List (κ × α)},
      e ∈ put k v es →
        e.1 = k ∨ ∃ d ∈ es, d.1 = e.1
| [], h => by
    simp only [put, List.mem_singleton] at h
    exact Or.inl (by rw [h])
| d :: rest, h => by
    unfold put at h
    split at h
    · rcases List.mem_cons.mp h with h | h
      · exact Or.inr ⟨d, by simp, by rw [h]⟩
      · exact Or.inr ⟨e, by simp [h], rfl⟩
    · rcases List.mem_cons.mp h with h | h
      · exact Or.inr ⟨d, by simp, by rw [h]⟩
      · rcases mem_put h with h | ⟨c, hc, hce⟩
        · exact Or.inl h
        · exact Or.inr ⟨c, by simp [hc], hce⟩

private theorem distinct_put
    {k : κ}
    {v : α} :
    ∀ {es : List (κ × α)},
      es.Pairwise (fun p q => (p.1 == q.1) = false) →
        (put k v es).Pairwise
          (fun p q => (p.1 == q.1) = false)
| [], _ => by simp [put]
| d :: rest, h => by
    rw [List.pairwise_cons] at h
    unfold put
    split
    · exact List.pairwise_cons.mpr ⟨h.1, h.2⟩
    · rename_i hne
      refine List.pairwise_cons.mpr
        ⟨fun e he => ?_, distinct_put h.2⟩
      rcases mem_put he with hk | ⟨c, hc, hce⟩
      · simpa [hk] using hne
      · rw [← hce]
        exact h.1 c hc

/- Give a key a value. -/
def insert
    (m : OrderedMap κ α)
    (k : κ)
    (v : α) : OrderedMap κ α where
  entries := put k v m.entries
  distinct := distinct_put m.distinct

/- The map of a list of entries, entered one by one. -/
def ofList (es : List (κ × α)) : OrderedMap κ α :=
  es.foldl (fun m e => m.insert e.1 e.2) empty

/- Change all values, keeping keys and order. -/
def mapValues
    (f : α → β)
    (m : OrderedMap κ α) : OrderedMap κ β where
  entries := m.entries.map fun e => (e.1, f e.2)
  distinct := by
    rw [List.pairwise_map]
    exact m.distinct

------------------------------------------------------------
-- Entries after insertion
------------------------------------------------------------

private theorem put_of_new
    {k : κ}
    (v : α) :
    ∀ {es : List (κ × α)},
      (∀ e ∈ es, (e.1 == k) = false) →
        put k v es = es ++ [(k, v)]
| [], _ => rfl
| d :: rest, h => by
    rw [List.forall_mem_cons] at h
    rw [put, if_neg (by simp [h.1]), put_of_new v h.2]
    rfl

/- A key that comes in for the first time comes last. -/
theorem entries_insert_of_new
    (m : OrderedMap κ α)
    {k : κ}
    (v : α)
    (hNew : ∀ e ∈ m.entries, (e.1 == k) = false) :
    (m.insert k v).entries = m.entries ++ [(k, v)] :=
  put_of_new v hNew

private theorem keys_put_of_any
    {k : κ}
    (v : α) :
    ∀ {es : List (κ × α)},
      es.any (·.1 == k) = true →
        (put k v es).map Prod.fst = es.map Prod.fst
| d :: rest, h => by
    unfold put
    split
    · rfl
    · rename_i hne
      rw [List.any_cons, Bool.or_eq_true] at h
      rw [List.map_cons, List.map_cons,
        keys_put_of_any v (h.resolve_left hne)]

/- A key that comes in again leaves the keys as they are. -/
theorem keys_insert_of_contains
    {m : OrderedMap κ α}
    {k : κ}
    (v : α)
    (h : m.contains k = true) :
    (m.insert k v).keys = m.keys :=
  keys_put_of_any v h

private theorem mem_or_eq_of_mem_put
    [ReflBEq κ]
    {k : κ}
    {v : α}
    {e : κ × α} :
    ∀ {es : List (κ × α)},
      e ∈ put k v es →
        e ∈ es ∨ (e.1 == k) = true ∧ e.2 = v
| [], h => by
    rw [put, List.mem_singleton] at h
    exact Or.inr (by rw [h]; exact ⟨BEq.rfl, rfl⟩)
| d :: rest, h => by
    unfold put at h
    split at h
    · rename_i hk
      rcases List.mem_cons.mp h with h | h
      · exact Or.inr (by rw [h]; exact ⟨hk, rfl⟩)
      · exact Or.inl (List.mem_cons_of_mem d h)
    · rcases List.mem_cons.mp h with h | h
      · exact Or.inl (by rw [h]; exact List.mem_cons_self)
      · rcases mem_or_eq_of_mem_put h with h | h
        · exact Or.inl (List.mem_cons_of_mem d h)
        · exact Or.inr h

/- An entry was there, or has an equal key and the new value. -/
theorem mem_entries_insert
    [ReflBEq κ]
    {m : OrderedMap κ α}
    {k : κ}
    {v : α}
    {e : κ × α}
    (h : e ∈ (m.insert k v).entries) :
    e ∈ m.entries ∨ (e.1 == k) = true ∧ e.2 = v :=
  mem_or_eq_of_mem_put h

private theorem map_put
    (f : α → β)
    (k : κ)
    (v : α) :
    ∀ es : List (κ × α),
      (put k v es).map (fun e => (e.1, f e.2)) =
        put k (f v) (es.map fun e => (e.1, f e.2))
| [] => rfl
| d :: rest => by
    rw [List.map_cons, put, put]
    split
    · rfl
    · rw [List.map_cons, map_put f k v rest]

/- Values can be changed before or after one comes in. -/
theorem entries_mapValues_insert
    (f : α → β)
    (m : OrderedMap κ α)
    (k : κ)
    (v : α) :
    ((m.insert k v).mapValues f).entries =
      ((m.mapValues f).insert k (f v)).entries :=
  map_put f k v m.entries

------------------------------------------------------------
-- Lookup after insertion
------------------------------------------------------------

private theorem find?_put_self
    [EquivBEq κ]
    (k : κ)
    (v : α) :
    ∀ es : List (κ × α),
      ((put k v es).find? (·.1 == k)).map Prod.snd = some v
| [] => by simp [put]
| d :: rest => by
    unfold put
    split
    · rename_i h
      simp [h]
    · rename_i h
      simp [h, find?_put_self k v rest]

private theorem find?_put_of_ne
    [EquivBEq κ]
    {k l : κ}
    (hkl : (k == l) = false)
    (v : α) :
    ∀ es : List (κ × α),
      ((put k v es).find? (·.1 == l)).map Prod.snd =
        (es.find? (·.1 == l)).map Prod.snd
| [] => by simp [put, hkl]
| d :: rest => by
    unfold put
    split
    · rename_i h
      have hd : (d.1 == l) = false := by
        cases hdl : d.1 == l with
        | false => rfl
        | true =>
            have hk : (k == l) = true :=
              BEq.trans (BEq.symm h) hdl
            simp [hkl] at hk
      simp [hd]
    · cases hdl : d.1 == l with
      | true => simp [hdl]
      | false =>
          simp [hdl, find?_put_of_ne hkl v rest]

/- An inserted key has its new value. -/
theorem get?_insert_self
    [EquivBEq κ]
    (m : OrderedMap κ α)
    (k : κ)
    (v : α) :
    (m.insert k v).get? k = some v :=
  find?_put_self k v m.entries

/- Insertion leaves the values of all other keys alone. -/
theorem get?_insert_of_ne
    [EquivBEq κ]
    (m : OrderedMap κ α)
    {k l : κ}
    (hkl : (k == l) = false)
    (v : α) :
    (m.insert k v).get? l = m.get? l :=
  find?_put_of_ne hkl v m.entries

end OrderedMap

end ModelNumber
