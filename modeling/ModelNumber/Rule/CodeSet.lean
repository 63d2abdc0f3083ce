import ModelNumber.Json.Convert

/-
  This file defines sets of codes. A set keeps its members in
  order and without repetition, so equal sets of texts are
  equal lists.

  Key definitions include:
    * `CodeSet`
    * `CodeSet.insert`
    * `CodeSet.ofList`
    * `CodeSet.contains`
    * `CodeSet.sorted`
-/

namespace ModelNumber

/- Scalars in strictly increasing order. -/
structure CodeSet where
  members : List Scalar
  ordered :
    members.Pairwise (fun a b => a.before b = true)
deriving DecidableEq

namespace CodeSet

/- The set without codes. -/
def empty : CodeSet where
  members := []
  ordered := .nil

instance : EmptyCollection CodeSet :=
  ⟨empty⟩

instance : Inhabited CodeSet :=
  ⟨empty⟩

/- A code is in a set. -/
def contains
    (codes : CodeSet)
    (c : Scalar) : Bool :=
  codes.members.any (· == c)

------------------------------------------------------------
-- Insertion
------------------------------------------------------------

/- Put a code in its place, unless an equal one is there. -/
private def place
    (c : Scalar) : List Scalar → List Scalar
| [] => [c]
| a :: rest =>
    if a == c then
      a :: rest
    else if c.before a then
      c :: a :: rest
    else
      a :: place c rest

private theorem mem_place
    {c a : Scalar} :
    ∀ {cs : List Scalar},
      a ∈ place c cs → a = c ∨ a ∈ cs
| [], h => by
    exact Or.inl (by simpa [place] using h)
| b :: rest, h => by
    unfold place at h
    split at h
    · exact Or.inr h
    · split at h
      · exact List.mem_cons.mp h
      · rcases List.mem_cons.mp h with h | h
        · exact Or.inr (by simp [h])
        · rcases mem_place h with h | h
          · exact Or.inl h
          · exact Or.inr (by simp [h])

private theorem ordered_place
    {c : Scalar} :
    ∀ {cs : List Scalar},
      cs.Pairwise (fun a b => a.before b = true) →
        (place c cs).Pairwise
          (fun a b => a.before b = true)
| [], _ => by simp [place]
| b :: rest, h => by
    have hParts := List.pairwise_cons.mp h
    unfold place
    split
    · exact h
    · rename_i hne
      split
      · rename_i hcb
        refine List.pairwise_cons.mpr ⟨?_, h⟩
        intro a ha
        rcases List.mem_cons.mp ha with ha | ha
        · simpa [ha] using hcb
        · exact Scalar.Meaning.before_trans hcb
            (hParts.1 a ha)
      · rename_i hcb
        refine List.pairwise_cons.mpr
          ⟨?_, ordered_place hParts.2⟩
        intro a ha
        rcases mem_place ha with ha | ha
        · subst ha
          have hMeaning : b.meaning ≠ a.meaning := by
            intro e
            exact hne (Scalar.beq_iff_meaning_eq.mpr e)
          rcases Scalar.Meaning.before_or_before hMeaning
            with hba | hab
          · exact hba
          · exact (hcb hab).elim
        · exact hParts.1 a ha

/- Add a code to a set. -/
def insert
    (codes : CodeSet)
    (c : Scalar) : CodeSet where
  members := place c codes.members
  ordered := ordered_place codes.ordered

/- The set of the codes in a list. -/
def ofList (cs : List Scalar) : CodeSet :=
  cs.foldl insert empty

/- A code of a larger set was there or is the new one. -/
theorem mem_members_insert
    {codes : CodeSet}
    {a c : Scalar}
    (h : a ∈ (codes.insert c).members) :
    a = c ∨ a ∈ codes.members :=
  mem_place h

private theorem place_of_after
    {c : Scalar} :
    ∀ {cs : List Scalar},
      (∀ a ∈ cs, a.before c = true) → place c cs = cs ++ [c]
| [], _ => rfl
| a :: rest, h => by
    rw [List.forall_mem_cons] at h
    have hOther : ¬ (a == c) = true := by
      intro hSame
      have hBefore := h.1
      rw [Scalar.before, Scalar.beq_iff_meaning_eq.mp hSame,
        Scalar.Meaning.before_irrefl] at hBefore
      cases hBefore
    have hBehind : ¬ c.before a = true := by
      intro hBack
      have hLoop : a.before a = true :=
        Scalar.Meaning.before_trans h.1 hBack
      rw [Scalar.before, Scalar.Meaning.before_irrefl] at hLoop
      cases hLoop
    rw [place, if_neg hOther, if_neg hBehind,
      place_of_after h.2]
    rfl

/- A code behind all others comes last. -/
theorem members_insert_of_after
    (codes : CodeSet)
    {c : Scalar}
    (hAfter : ∀ a ∈ codes.members, a.before c = true) :
    (codes.insert c).members = codes.members ++ [c] :=
  place_of_after hAfter

private theorem any_place
    (c d : Scalar) :
    ∀ cs : List Scalar,
      (place c cs).any (· == d) =
        (c == d || cs.any (· == d))
| [] => by simp [place]
| a :: rest => by
    unfold place
    split
    · rename_i h
      cases hcd : c == d with
      | false => simp
      | true =>
          have had : (a == d) = true := BEq.trans h hcd
          simp [had]
    · split
      · simp
      · simp [any_place c d rest, Bool.or_left_comm]

/-
  A set with one code more holds that code and what it held
  before.
-/
theorem contains_insert
    (codes : CodeSet)
    (c d : Scalar) :
    (codes.insert c).contains d =
      (c == d || codes.contains d) :=
  any_place c d codes.members

private theorem contains_foldl_insert
    (d : Scalar) :
    ∀ (cs : List Scalar) (codes : CodeSet),
      (cs.foldl insert codes).contains d =
        (cs.any (· == d) || codes.contains d)
| [], codes => by simp
| c :: rest, codes => by
    simp [contains_foldl_insert d rest (codes.insert c),
      contains_insert, Bool.or_left_comm, Bool.or_assoc]

/- The set of a list holds what the list holds. -/
theorem contains_ofList
    (cs : List Scalar)
    (d : Scalar) :
    (ofList cs).contains d = cs.any (· == d) := by
  rw [ofList, contains_foldl_insert]
  exact Bool.or_false _

------------------------------------------------------------
-- Reading and writing
------------------------------------------------------------

/- The set of the elements of a sequence. -/
def ofJson (v : Json) : Except Defect CodeSet := do
  return ofList (← (← v.elements).mapM Json.key)

/- Scalars in order, if they can be compared. -/
def sortedMembers
    (members : List Scalar) : Except Defect (List Scalar) :=
  if Scalar.comparable members then
    .ok members
  else
    .error .mistyped

/- The codes in order, if they can be compared. -/
def sorted (codes : CodeSet) : Except Defect (List Scalar) :=
  sortedMembers codes.members

/- The codes that are not among some others. -/
def without
    (codes : CodeSet)
    (others : List Scalar) : List Scalar :=
  codes.members.filter fun c => !others.any (· == c)

end CodeSet

end ModelNumber
