import ModelNumber.Enhancement.Builtin
import ModelNumber.Proofs.Catalog
import ModelNumber.Proofs.Outcome

/-
  Enhancers and their names: an enhancer is found by its own
  name only, and where all names of a list are names of
  enhancers, none of them is passed over.

  Main declarations:
    * `Enhancer.eq_name_of_find?`
    * `Enhancer.eq_airflow_or_eq_heatingCapacity`
    * `Enhancer.exists_named`
-/

namespace ModelNumber

namespace Enhancer

/- An enhancer is found by its own name. -/
theorem eq_name_of_find?
    {key : Scalar}
    {e : Enhancer}
    (h : find? key = some e) :
    key = .str e.name := by
  have hTest : (Scalar.str e.name == key) = true :=
    List.find?_some
      (p := fun e : Enhancer => Scalar.str e.name == key) h
  exact Scalar.eq_str_of_beq hTest

/- There are two built-in enhancers. -/
theorem eq_airflow_or_eq_heatingCapacity
    {key : Scalar}
    {e : Enhancer}
    (h : find? key = some e) :
    e = .airflow ∨ e = .heatingCapacity := by
  have hMem := List.mem_of_find?_eq_some h
  simpa [builtin] using hMem

/- The name of an enhancer adds it to those that are named. -/
theorem named_cons
    {key : Scalar}
    {e : Enhancer}
    (hFind : find? key = some e)
    {names : List Json}
    {es : List Enhancer}
    (hNamed : named names = .ok es) :
    named (.scalar key :: names) = .ok (e :: es) := by
  unfold named at hNamed ⊢
  rcases Outcome.bind_eq_ok_iff.mp hNamed with
    ⟨keys, hKeys, hFound⟩
  rw [Outcome.pure_eq_ok_iff] at hFound
  rw [List.mapM_cons, hKeys, ← hFound]
  simp only [Json.key, bind, Except.bind, pure, Except.pure,
    List.filterMap_cons_some hFind]

/- Where each name is one of an enhancer, each is found. -/
theorem exists_named
    {P : Enhancer → Prop}
    {names : List Json}
    (hNames :
      ∀ name ∈ names,
        ∃ key e, name = .scalar key ∧ find? key = some e ∧ P e) :
    ∃ es,
      named names = .ok es ∧
        names = es.map (fun e => Json.str e.name) ∧
        ∀ e ∈ es, P e := by
  induction names with
  | nil => exact ⟨[], rfl, rfl, by simp⟩
  | cons name names ih =>
      rw [List.forall_mem_cons] at hNames
      rcases ih hNames.2 with ⟨es, hNamed, hMap, hAll⟩
      rcases hNames.1 with ⟨key, e, rfl, hFind, he⟩
      refine
        ⟨e :: es, named_cons hFind hNamed, ?_,
          List.forall_mem_cons.mpr ⟨he, hAll⟩⟩
      rw [List.map_cons, ← hMap, eq_name_of_find? hFind]

end Enhancer

end ModelNumber
