import Mathlib.Data.Nat.Bitwise
import ModelNumber.Text.Blank
import ModelNumber.Text.UpperCase

/-
  What the upper-case table does to single characters: it
  moves a character once and for all, and it neither touches
  nor produces blanks, dashes and colons.

  The table has more than a thousand characters, so sets of
  code points are compared as the bits of one number.

  Main declarations:
    * `CaseMap.domain` and `CaseMap.outputs`
    * `CaseMap.upperCase_image_of_mem_image`
    * `CaseMap.upperCase_image_of_mark`
    * `CaseMap.eq_of_mark_mem_upperCase_image`
-/

namespace ModelNumber

------------------------------------------------------------
-- Sets of code points as bits
------------------------------------------------------------

/- The number whose bits say what a list holds. -/
def Text.bits (points : List Nat) : Nat :=
  points.foldr (fun n rest => rest ||| 1 <<< n) 0

/- A bit is set when its number is in the list. -/
theorem Text.testBit_bits
    (points : List Nat)
    (n : Nat) :
    (Text.bits points).testBit n = true ↔ n ∈ points := by
  induction points with
  | nil => simp [Text.bits]
  | cons m points ih =>
      have hBits :
          Text.bits (m :: points) =
            Text.bits points ||| 2 ^ m := by
        simp [Text.bits, Nat.one_shiftLeft]
      rw [hBits, Nat.testBit_or, Bool.or_eq_true, ih,
        Nat.testBit_two_pow, List.mem_cons]
      simp only [decide_eq_true_eq]
      tauto

/- Lists without a common bit have no common member. -/
theorem Text.not_mem_of_bits
    {points others : List Nat}
    (hBits : Text.bits points &&& Text.bits others = 0)
    {n : Nat}
    (hn : n ∈ points) :
    n ∉ others := by
  intro hOther
  have hBit :
      (Text.bits points &&& Text.bits others).testBit n =
        true := by
    rw [Nat.testBit_and, Bool.and_eq_true]
    exact
      ⟨(Text.testBit_bits points n).mpr hn,
        (Text.testBit_bits others n).mpr hOther⟩
  rw [hBits, Nat.zero_testBit] at hBit
  cases hBit

------------------------------------------------------------
-- The characters of a mapping
------------------------------------------------------------

/- The code points of a run. -/
def CaseRun.points (r : CaseRun) : List Nat :=
  (List.range ((r.last - r.first) / r.step + 1)).map
    fun i => r.first + i * r.step

/- A run lists all code points that belong to it. -/
theorem CaseRun.mem_points_of_contains
    {r : CaseRun}
    {n : Nat}
    (h : r.contains n = true) :
    n ∈ r.points := by
  simp only [CaseRun.contains, Bool.and_eq_true,
    decide_eq_true_eq, beq_iff_eq] at h
  rcases h with ⟨⟨hFirst, hLast⟩, hStep⟩
  have hDvd : r.step ∣ n - r.first :=
    Nat.dvd_of_mod_eq_zero hStep
  refine List.mem_map.mpr ⟨(n - r.first) / r.step, ?_, ?_⟩
  · rw [List.mem_range, Nat.lt_succ_iff]
    exact Nat.div_le_div_right (by omega)
  · rw [Nat.div_mul_cancel hDvd]
    omega

namespace CaseMap

/- The code points that a mapping moves. -/
def domain (m : CaseMap) : List Nat :=
  m.runs.flatMap CaseRun.points ++ m.expansions.map Prod.fst

/- The code points that a mapping moves others to. -/
def outputs (m : CaseMap) : List Nat :=
  m.runs.flatMap (fun r => r.points.map r.shifted)
    ++ m.expansions.flatMap Prod.snd

/- A character is its own image, or it is moved to outputs. -/
theorem image_eq_self_or_outputs
    (m : CaseMap)
    (c : Char) :
    m.image c = [c] ∨
      (c.toNat ∈ m.domain ∧
        ∀ d ∈ m.image c, ∃ n ∈ m.outputs, d = Char.ofNat n) := by
  unfold image
  split
  · rename_i points hLookup
    have hMem : (c.toNat, points) ∈ m.expansions := by
      rw [List.lookup_eq_some_iff] at hLookup
      rcases hLookup with ⟨before, after, hAll, _⟩
      rw [hAll]
      simp
    refine Or.inr ⟨?_, ?_⟩
    · exact List.mem_append_right _
        (List.mem_map_of_mem (f := Prod.fst) hMem)
    · intro d hd
      rcases List.mem_map.mp hd with ⟨n, hn, rfl⟩
      refine ⟨n, ?_, rfl⟩
      exact List.mem_append_right _
        (List.mem_flatMap.mpr ⟨_, hMem, hn⟩)
  · split
    · rename_i run hFind
      have hRun : run ∈ m.runs := List.mem_of_find?_eq_some hFind
      have hContains : run.contains c.toNat = true := by
        simpa using List.find?_some hFind
      have hPoint : c.toNat ∈ run.points :=
        CaseRun.mem_points_of_contains hContains
      refine Or.inr ⟨?_, ?_⟩
      · exact List.mem_append_left _
          (List.mem_flatMap.mpr ⟨run, hRun, hPoint⟩)
      · intro d hd
        rw [List.mem_singleton] at hd
        refine ⟨run.shifted c.toNat, ?_, hd⟩
        exact List.mem_append_left _
          (List.mem_flatMap.mpr
            ⟨run, hRun, List.mem_map_of_mem hPoint⟩)
    · exact Or.inl rfl

/- A character that is not in the domain stays. -/
theorem image_eq_self
    {m : CaseMap}
    {c : Char}
    (hc : c.toNat ∉ m.domain) :
    m.image c = [c] := by
  rcases m.image_eq_self_or_outputs c with hSelf | ⟨hDomain, _⟩
  · exact hSelf
  · exact (hc hDomain).elim

/- No character is lost if no expansion is empty. -/
theorem image_ne_nil
    {m : CaseMap}
    (hExpansions : ∀ e ∈ m.expansions, e.2 ≠ [])
    (c : Char) :
    m.image c ≠ [] := by
  unfold image
  split
  · rename_i points hLookup
    rw [List.lookup_eq_some_iff] at hLookup
    rcases hLookup with ⟨before, after, hAll, _⟩
    have hPoints : points ≠ [] :=
      hExpansions (c.toNat, points) (by rw [hAll]; simp)
    simpa using hPoints
  · split <;> simp

------------------------------------------------------------
-- The upper-case table
------------------------------------------------------------

/- The code points of blanks, of colons and of all dashes. -/
def marks : List Nat :=
  Text.blankRanges.flatMap
      (fun r => List.range' r.1 (r.2 + 1 - r.1))
    ++ [0x2D, 0x3A, 0x2010, 0x2011, 0x2013, 0x2014, 0x2212]

/- Every blank is a mark. -/
theorem mem_marks_of_isBlank
    {c : Char}
    (hc : Text.isBlank c = true) :
    c.toNat ∈ marks := by
  rcases List.any_eq_true.mp hc with ⟨r, hRange, hBounds⟩
  simp only [Bool.and_eq_true, decide_eq_true_eq] at hBounds
  refine List.mem_append_left _
    (List.mem_flatMap.mpr ⟨r, hRange, ?_⟩)
  rw [List.mem_range'_1]
  omega

private theorem upperCase_outputs_settled :
    Text.bits upperCase.outputs &&&
      Text.bits (upperCase.domain ++ marks) = 0 := by
  decide +kernel

private theorem upperCase_domain_unmarked :
    Text.bits upperCase.domain &&& Text.bits marks = 0 := by
  decide +kernel

private theorem upperCase_outputs_valid :
    ∀ n ∈ upperCase.outputs, n.isValidChar := by
  decide +kernel

/- Upper-casing loses no character. -/
theorem upperCase_image_ne_nil (c : Char) :
    upperCase.image c ≠ [] :=
  image_ne_nil (by decide +kernel) c

/- A mark is its own capital. -/
theorem upperCase_image_of_mark
    {c : Char}
    (hc : c.toNat ∈ marks) :
    upperCase.image c = [c] := by
  apply image_eq_self
  intro hDomain
  exact Text.not_mem_of_bits upperCase_domain_unmarked
    hDomain hc

/- What upper-casing moves a character to is settled. -/
private theorem toNat_not_mem_of_output
    {d : Char}
    (hd : ∃ n ∈ upperCase.outputs, d = Char.ofNat n) :
    d.toNat ∉ upperCase.domain ++ marks := by
  rcases hd with ⟨n, hn, rfl⟩
  have hPoint : (Char.ofNat n).toNat = n := by
    unfold Char.ofNat
    rw [dif_pos (upperCase_outputs_valid n hn)]
    rfl
  rw [hPoint]
  exact Text.not_mem_of_bits upperCase_outputs_settled hn

/- Only a mark has that mark in its image. -/
theorem eq_of_mark_mem_upperCase_image
    {c d : Char}
    (hd : d ∈ upperCase.image c)
    (hMark : d.toNat ∈ marks) :
    d = c := by
  rcases upperCase.image_eq_self_or_outputs c with
    hSelf | ⟨_, hOutputs⟩
  · rw [hSelf] at hd
    exact List.mem_singleton.mp hd
  · exact
      (toNat_not_mem_of_output (hOutputs d hd)
        (List.mem_append_right _ hMark)).elim

/- Capitals are their own capitals. -/
theorem upperCase_image_of_mem_image
    {c d : Char}
    (hd : d ∈ upperCase.image c) :
    upperCase.image d = [d] := by
  rcases upperCase.image_eq_self_or_outputs c with
    hSelf | ⟨_, hOutputs⟩
  · rw [hSelf] at hd
    rw [List.mem_singleton.mp hd]
    exact hSelf
  · apply image_eq_self
    intro hDomain
    exact toNat_not_mem_of_output (hOutputs d hd)
      (List.mem_append_left _ hDomain)

end CaseMap

end ModelNumber
