/-
  This file defines elementary operations on texts. A text is
  a sequence of code points, and all lengths and positions
  count code points.

  Key definitions include:
    * `Text.before`
    * `Text.occursIn`
    * `Text.chunks`
    * `Text.slice`
    * `Text.padRight`
    * `Text.hex`
-/

namespace ModelNumber

namespace Text

------------------------------------------------------------
-- Order
------------------------------------------------------------

/-
  One text comes before another one: at the first place where
  they differ, it ends or has the smaller code point.
-/
def before : List Char → List Char → Bool
| _, [] => false
| [], _ :: _ => true
| a :: s, b :: t =>
    if a.toNat = b.toNat then
      before s t
    else
      decide (a.toNat < b.toNat)

/- No text comes before itself. -/
theorem not_before_self :
    ∀ s : List Char, before s s = false
| [] => rfl
| a :: s => by
    rw [before, if_pos rfl]
    exact not_before_self s

/- The order of texts is transitive. -/
theorem before_of_before_of_before :
    ∀ {s t u : List Char},
      before s t = true →
        before t u = true → before s u = true
| _, [], _, hst, _ => by
    simp [before] at hst
| _, _ :: _, [], _, htu => by
    simp [before] at htu
| [], _ :: _, _ :: _, _, _ => rfl
| a :: s, b :: t, c :: u, hst, htu => by
    unfold before at hst htu ⊢
    split at hst
    · rename_i hab
      rw [hab]
      split at htu
      · rename_i hbc
        rw [if_pos hbc]
        exact before_of_before_of_before hst htu
      · rename_i hbc
        rw [if_neg hbc]
        exact htu
    · have hab := of_decide_eq_true hst
      split at htu
      · rename_i hbc
        rw [← hbc, if_neg (by omega)]
        exact hst
      · have hbc := of_decide_eq_true htu
        rw [if_neg (by omega)]
        exact decide_eq_true (by omega)

/- Of two different texts one comes before the other. -/
theorem before_or_before_of_ne :
    ∀ {s t : List Char},
      s ≠ t → before s t = true ∨ before t s = true
| [], [], h => (h rfl).elim
| [], _ :: _, _ => Or.inl rfl
| _ :: _, [], _ => Or.inr rfl
| a :: s, b :: t, h => by
    unfold before
    by_cases hab : a.toNat = b.toNat
    · rw [if_pos hab, if_pos hab.symm]
      have hChar : a = b := by
        rw [← Char.ofNat_toNat a, ← Char.ofNat_toNat b, hab]
      refine before_or_before_of_ne ?_
      intro e
      exact h (by rw [hChar, e])
    · rw [if_neg hab, if_neg (Ne.symm hab)]
      rcases Nat.lt_or_gt_of_ne hab with hlt | hgt
      · exact Or.inl (decide_eq_true hlt)
      · exact Or.inr (decide_eq_true hgt)

------------------------------------------------------------
-- Searching and splitting
------------------------------------------------------------

/- A text occurs somewhere in another one. -/
def occursIn
    (needle : List Char) : List Char → Bool
| [] => needle.isEmpty
| c :: rest =>
    needle.isPrefixOf (c :: rest) || occursIn needle rest

/-
  The chunks between separators. There is one chunk more than
  there are separators, and a chunk may be empty.
-/
def chunks
    (isSeparator : Char → Bool) :
    List Char → List (List Char)
| [] => [[]]
| c :: rest =>
    if isSeparator c then
      [] :: chunks isSeparator rest
    else
      match chunks isSeparator rest with
      | [] => [[c]]
      | chunk :: others => (c :: chunk) :: others

------------------------------------------------------------
-- Slices
------------------------------------------------------------

/-
  Turn a bound into a place in a text of the given length. A
  negative bound counts from the end, and a bound beyond the
  text is moved to its edge.
-/
def place
    (length : Nat)
    (bound : Int) : Nat :=
  if bound < 0 then
    (bound + length).toNat
  else
    min bound.toNat length

/- The characters from a start bound up to an end bound. -/
def slice
    (s : List Char)
    (start stop : Int) : List Char :=
  let first := place s.length start
  let past := place s.length stop
  (s.take past).drop first

------------------------------------------------------------
-- Writing
------------------------------------------------------------

/- Fill a text up to a width with spaces on its right. -/
def padRight
    (width : Nat)
    (s : String) : String :=
  s ++ String.ofList (List.replicate (width - s.length) ' ')

/- The hexadecimal digits of a number, in lower case. -/
def hex
    (width n : Nat) : String :=
  let digits := Nat.toDigits 16 n
  String.ofList
    (List.replicate (width - digits.length) '0' ++ digits)

end Text

end ModelNumber
