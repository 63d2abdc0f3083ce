import ModelNumber.Json.Defect

/-
  This file defines decoded attributes, and which attribute of
  a list speaks for a category: the last one.

  Key definitions include:
    * `Attribute`
    * `Attribute.last?`
    * `Attribute.byCategory`
    * `splitLast?`
-/

namespace ModelNumber

------------------------------------------------------------
-- The last element of a kind
------------------------------------------------------------

/-
  Split a list at the last element that satisfies a test, into
  what stands before it, the element, and what follows.
-/
def splitLast?
    {α : Type}
    (p : α → Bool) :
    List α → Option (List α × α × List α)
| [] => none
| a :: rest =>
    match splitLast? p rest with
    | some (before, found, after) =>
        some (a :: before, found, after)
    | none => if p a then some ([], a, rest) else none

/- Splitting keeps all elements and finds the last one. -/
theorem splitLast?_eq_some
    {α : Type}
    {p : α → Bool} :
    ∀ {as before after : List α} {a : α},
      splitLast? p as = some (before, a, after) →
        as = before ++ a :: after ∧ p a = true ∧
          ∀ b ∈ after, p b = false
| [], _, _, _, h => by simp [splitLast?] at h
| b :: rest, before, after, a, h => by
    unfold splitLast? at h
    split at h
    · rename_i before' found after' hRest
      simp only [Option.some.injEq, Prod.mk.injEq] at h
      rcases h with ⟨rfl, rfl, rfl⟩
      have hIh := splitLast?_eq_some hRest
      exact ⟨by simp [hIh.1], hIh.2⟩
    · rename_i hNone
      split at h
      · rename_i hp
        simp only [Option.some.injEq, Prod.mk.injEq] at h
        rcases h with ⟨rfl, rfl, rfl⟩
        refine ⟨by simp, hp, ?_⟩
        exact splitLast?_eq_none hNone
      · simp at h
where
  /- Without a split no element satisfies the test. -/
  splitLast?_eq_none :
      ∀ {as : List α},
        splitLast? p as = none → ∀ b ∈ as, p b = false
  | [], _ => by simp
  | c :: rest, h => by
      unfold splitLast? at h
      split at h
      · simp at h
      · rename_i hNone
        split at h
        · simp at h
        · rename_i hc
          intro b hb
          rcases List.mem_cons.mp hb with hb | hb
          · simpa [hb] using hc
          · exact splitLast?_eq_none hNone b hb

------------------------------------------------------------
-- Attributes
------------------------------------------------------------

/-
  A decoded segment: its category and code, what they are
  shown as, and where the segment stands in the normalized
  text.
-/
structure Attribute where
  category : Scalar
  code : String
  name : Json
  position : Json
  description : Json
  start : Int
  stop : Int

namespace Attribute

/- The attribute that speaks for a category. -/
def last?
    (attributes : List Attribute)
    (category : Scalar) : Option Attribute :=
  (splitLast? (·.category == category) attributes).map
    fun parts => parts.2.1

/- The attribute that speaks for each category. -/
def byCategory
    (attributes : List Attribute) :
    OrderedMap Scalar Attribute :=
  .ofList (attributes.map fun a => (a.category, a))

end Attribute

end ModelNumber
