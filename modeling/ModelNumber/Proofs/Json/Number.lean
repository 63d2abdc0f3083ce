import ModelNumber.Json.Printer
import ModelNumber.Json.Reader

/-
  Whole numbers are read as they were written, unless they
  have more digits than the reader takes, and provided that
  nothing follows which would go on with the number.

  Main declarations:
    * `Json.IsShort`
    * `Json.Reader.Stops`
    * `Json.Reader.unsigned_toDigits`
    * `Json.Reader.atom_toString`
-/

namespace ModelNumber

namespace Json

/- A whole number has no more digits than the reader takes. -/
def IsShort (n : Int) : Prop :=
  (Nat.toDigits 10 n.natAbs).length ≤ Numeral.digitLimit

instance (n : Int) : Decidable (IsShort n) :=
  inferInstanceAs
    (Decidable
      ((Nat.toDigits 10 n.natAbs).length ≤ Numeral.digitLimit))

namespace Reader

------------------------------------------------------------
-- Digits
------------------------------------------------------------

/- What is a digit and what is none are different. -/
theorem ne_of_isDigit
    {c d : Char}
    (hDigit : c.isDigit = true)
    (hOther : d.isDigit = false) :
    d ≠ c := by
  rintro rfl
  rw [hDigit] at hOther
  cases hOther

/- Digits are read as the number they were written for. -/
theorem ofDigits_toDigits (n : Nat) :
    Numeral.ofDigits (digitValues (Nat.toDigits 10 n)) = n := by
  rw [Numeral.ofDigits, digitValues, List.foldl_map,
    ← Nat.ofDigitChars_eq_foldl, Nat.ofDigitChars_ten_toDigits]

/- Written digits are digits. -/
theorem isDigit_of_mem_toDigits
    {n : Nat}
    {c : Char}
    (hc : c ∈ Nat.toDigits 10 n) :
    c.isDigit = true :=
  Nat.isDigit_of_mem_toDigits (by decide) (Nat.le_refl 10) hc

/- The digits of a number start with a digit. -/
theorem exists_toDigits_eq_cons (n : Nat) :
    ∃ c cs,
      Nat.toDigits 10 n = c :: cs ∧ c.isDigit = true := by
  rcases List.exists_cons_of_ne_nil
      (Nat.toDigits_ne_nil (n := n) (b := 10)) with
    ⟨c, cs, hCons⟩
  refine ⟨c, cs, hCons, isDigit_of_mem_toDigits (n := n) ?_⟩
  rw [hCons]
  exact List.mem_cons_self

/- What follows digits does not change the first one. -/
theorem head?_toDigits_append
    (n : Nat)
    (s : List Char) :
    (Nat.toDigits 10 n ++ s).head? =
      (Nat.toDigits 10 n).head? := by
  rcases exists_toDigits_eq_cons n with ⟨c, cs, hCons, _⟩
  rw [hCons]
  rfl

/- No number but zero is written with a zero in front. -/
theorem head?_toDigits_ne_zero
    {n : Nat}
    (hn : 0 < n) :
    (Nat.toDigits 10 n).head? ≠ some '0' := by
  induction n using Nat.strongRecOn with
  | ind n ih =>
      by_cases hSmall : n < 10
      · have hDigits :
            ∀ d < 10, 0 < d → [Nat.digitChar d].head? ≠ some '0' := by
          decide
        rw [Nat.toDigits_of_lt_base hSmall]
        exact hDigits n hSmall hn
      · rw [Nat.toDigits_of_base_le (by decide)
            (Nat.le_of_not_lt hSmall),
          head?_toDigits_append]
        exact ih (n / 10) (by omega) (by omega)

------------------------------------------------------------
-- Ends of numbers
------------------------------------------------------------

/- What follows does not go on with a number. -/
def Stops (s : List Char) : Prop :=
  ∀ c,
    s.head? = some c →
      c.isDigit = false ∧ c ≠ '.' ∧ c ≠ 'e' ∧ c ≠ 'E'

/- Nothing goes on with no number. -/
theorem stops_nil : Stops [] := by
  intro c hc
  cases hc

/- A character that goes on with no number ends numbers. -/
theorem stops_cons
    {c : Char}
    (hc : c.isDigit = false ∧ c ≠ '.' ∧ c ≠ 'e' ∧ c ≠ 'E')
    (s : List Char) :
    Stops (c :: s) := by
  intro d hd
  cases hd
  exact hc

variable {rest : List Char}

/- Digits are taken up to where they stop. -/
theorem takeWhile_isDigit_append
    (hStops : Stops rest)
    {ds : List Char}
    (hDigits : ∀ c ∈ ds, c.isDigit = true) :
    (ds ++ rest).takeWhile Char.isDigit = ds := by
  have hRest : rest.takeWhile Char.isDigit = [] := by
    cases rest with
    | nil => rfl
    | cons c cs =>
        rw [List.takeWhile_cons, (hStops c rfl).1]
        rfl
  rw [List.takeWhile_append_of_pos hDigits, hRest,
    List.append_nil]

/- All digits of a number are read. -/
theorem wholeDigits_toDigits_append
    (hStops : Stops rest)
    (n : Nat) :
    wholeDigits (Nat.toDigits 10 n ++ rest) =
      Nat.toDigits 10 n := by
  by_cases hn : n = 0
  · subst hn
    rfl
  · unfold wholeDigits
    split
    · rename_i hZero
      have hHead := congrArg List.head? hZero
      rw [head?_toDigits_append] at hHead
      exact absurd hHead
        (head?_toDigits_ne_zero (Nat.pos_of_ne_zero hn))
    · exact takeWhile_isDigit_append hStops
        fun c hc => isDigit_of_mem_toDigits hc

/- There is no fraction where a number stops. -/
theorem fractionDigits_eq_none
    (hStops : Stops rest) :
    fractionDigits rest = none := by
  unfold fractionDigits
  split
  · exact absurd rfl (hStops '.' rfl).2.1
  · rfl

/- There is no exponent where a number stops. -/
theorem exponentPart_eq_none
    (hStops : Stops rest) :
    exponentPart rest = none := by
  cases rest with
  | nil => rfl
  | cons c cs =>
      rcases (hStops c rfl).2.2 with ⟨hSmall, hLarge⟩
      rw [exponentPart, beq_false_of_ne hSmall,
        beq_false_of_ne hLarge]
      rfl

------------------------------------------------------------
-- Whole numbers
------------------------------------------------------------

/- Digits are read as the number that they write. -/
theorem unsigned_toDigits
    (hStops : Stops rest)
    {n : Nat}
    (hShort : (Nat.toDigits 10 n).length ≤ Numeral.digitLimit)
    (negative : Bool) :
    unsigned negative (Nat.toDigits 10 n ++ rest) =
      .ok (.int (if negative then -n else n), rest) := by
  have hSome : (Nat.toDigits 10 n).isEmpty = false :=
    List.isEmpty_eq_false_iff.mpr Nat.toDigits_ne_nil
  unfold unsigned
  simp only [wholeDigits_toDigits_append hStops,
    List.drop_left, hSome, fractionDigits_eq_none hStops,
    exponentPart_eq_none hStops, Option.getD_none,
    Option.isSome_none, Bool.or_self, Bool.false_eq_true,
    if_false, if_neg (Nat.not_lt.mpr hShort), ofDigits_toDigits]

/- What starts with a digit is read as a number without sign. -/
theorem number_cons
    {c : Char}
    (hDigit : c.isDigit = true)
    (s : List Char) :
    number (c :: s) = unsigned false (c :: s) := by
  unfold number
  split
  · rename_i hSame
    cases hSame
    cases hDigit
  · rfl

/- A written whole number: its digits, after a sign or none. -/
theorem toString_cases (n : Int) :
    (toString n).toList = Nat.toDigits 10 n.natAbs ∧
        n = n.natAbs ∨
      (toString n).toList = '-' :: Nat.toDigits 10 n.natAbs ∧
        n = -n.natAbs := by
  cases n with
  | ofNat n =>
      refine Or.inl ⟨?_, rfl⟩
      change (Nat.repr n).toList = _
      rw [Nat.repr_eq_ofList_toDigits, String.toList_ofList]
      rfl
  | negSucc n =>
      refine Or.inr ⟨?_, rfl⟩
      change ("-" ++ Nat.repr (n + 1)).toList = _
      rw [String.toList_append, Nat.repr_eq_ofList_toDigits]
      exact congrArg (['-'] ++ ·) String.toList_ofList

/- A short whole number is read back. -/
theorem number_toString
    (hStops : Stops rest)
    {n : Int}
    (hShort : IsShort n) :
    number ((toString n).toList ++ rest) = .ok (.int n, rest) := by
  have hRead := unsigned_toDigits hStops hShort
  rcases toString_cases n with ⟨hDigits, hSame⟩ | ⟨hDigits, hSame⟩
  · have hPlain := hRead false
    rcases exists_toDigits_eq_cons n.natAbs with
      ⟨c, cs, hCons, hDigit⟩
    rw [hCons] at hDigits hPlain
    rw [hDigits, List.cons_append, number_cons hDigit]
    rw [List.cons_append] at hPlain
    rw [hPlain, if_neg Bool.false_ne_true, ← hSame]
  · have hNegative := hRead true
    rw [if_pos rfl, ← hSame] at hNegative
    rw [hDigits]
    exact hNegative

------------------------------------------------------------
-- Numbers among words
------------------------------------------------------------

/- No word starts with a digit. -/
theorem atom_cons
    {c : Char}
    (hDigit : c.isDigit = true)
    (s : List Char) :
    atom (c :: s) = number (c :: s) := by
  have hOther :
      ∀ d : Char, d.isDigit = false → (d == c) = false := by
    intro d hd
    exact beq_false_of_ne (ne_of_isDigit hDigit hd)
  unfold atom afterWord?
  simp [List.findSome?, List.isPrefixOf, hOther]

/- No word is a minus sign in front of a digit. -/
theorem atom_minus
    {c : Char}
    (hDigit : c.isDigit = true)
    (s : List Char) :
    atom ('-' :: c :: s) = number ('-' :: c :: s) := by
  have hOther : ('I' == c) = false :=
    beq_false_of_ne (ne_of_isDigit hDigit rfl)
  unfold atom afterWord?
  simp [List.findSome?, List.isPrefixOf, hOther]

/- A short whole number is read back where a value stands. -/
theorem atom_toString
    (hStops : Stops rest)
    {n : Int}
    (hShort : IsShort n) :
    atom ((toString n).toList ++ rest) = .ok (.int n, rest) := by
  rw [← number_toString hStops hShort]
  rcases exists_toDigits_eq_cons n.natAbs with
    ⟨c, cs, hCons, hDigit⟩
  rcases toString_cases n with ⟨hDigits, _⟩ | ⟨hDigits, _⟩
  · rw [hDigits, hCons]
    exact atom_cons hDigit _
  · rw [hDigits, hCons]
    exact atom_minus hDigit _

end Reader

end Json

end ModelNumber
