import ModelNumber.Number.Binary
import ModelNumber.Text.Basic

/-
  This file defines scalar values: the values that can be a
  key or a member of a set. Two scalars are equal when they
  mean the same, so numbers are compared by value and `1`,
  `1.0` and `true` are one key.

  Key definitions include:
    * `Scalar`
    * `Scalar.Meaning`
    * `Scalar.meaning`
    * `Scalar.before`
    * `Scalar.comparable`
-/

namespace ModelNumber

/- A value without parts. -/
inductive Scalar where
| null
| bool (b : Bool)
| int (n : Int)
| float (x : Float)
| str (s : String)
deriving DecidableEq, Repr

namespace Scalar

instance : Inhabited Scalar :=
  ⟨.null⟩

instance : Coe String Scalar :=
  ⟨.str⟩

------------------------------------------------------------
-- Meaning
------------------------------------------------------------

/- What decides the equality of scalars. -/
inductive Meaning where
| null
| below
| number (q : Rat)
| above
| nan
| text (s : String)
deriving DecidableEq

/- The meaning of a scalar. -/
def meaning : Scalar → Meaning
| .null => .null
| .bool b => .number (if b then 1 else 0)
| .int n => .number n
| .float x =>
    let value := FloatValue.ofFloat x
    match value with
    | .nan => .nan
    | .infinite true => .below
    | .infinite false => .above
    | .finite .. => .number (value.toRat?.getD 0)
| .str s => .text s

instance : BEq Scalar :=
  ⟨fun a b => a.meaning == b.meaning⟩

/- Equality of scalars is equality of their meanings. -/
theorem beq_iff_meaning_eq {a b : Scalar} :
    (a == b) = true ↔ a.meaning = b.meaning := by
  change (a.meaning == b.meaning) = true ↔ _
  exact beq_iff_eq

instance : EquivBEq Scalar where
  rfl := beq_iff_meaning_eq.mpr rfl
  symm h :=
    beq_iff_meaning_eq.mpr (beq_iff_meaning_eq.mp h).symm
  trans h₁ h₂ :=
    beq_iff_meaning_eq.mpr
      ((beq_iff_meaning_eq.mp h₁).trans
        (beq_iff_meaning_eq.mp h₂))

/- Texts are equal scalars when they are the same text. -/
@[simp]
theorem str_beq_str (s t : String) :
    ((Scalar.str s) == (Scalar.str t)) = (s == t) := by
  rw [Bool.eq_iff_iff, beq_iff_meaning_eq]
  simp [meaning]

------------------------------------------------------------
-- Order
------------------------------------------------------------

namespace Meaning

/- The place of a meaning among the kinds of meanings. -/
private def rank : Meaning → Nat
| .null => 0
| .below => 1
| .number _ => 2
| .above => 3
| .nan => 4
| .text _ => 5

/-
  Numbers are ordered by value and texts by code points, and
  meanings of different kinds by kind.
-/
def before : Meaning → Meaning → Bool
| .number q, .number r => q < r
| .text s, .text t => Text.before s.toList t.toList
| a, b => a.rank < b.rank

/- No meaning comes before itself. -/
theorem before_irrefl (a : Meaning) :
    a.before a = false := by
  cases a
  case number q =>
    exact decide_eq_false Rat.lt_irrefl
  case text s =>
    exact Text.not_before_self s.toList
  all_goals rfl

private theorem rat_lt_trans
    {p q r : Rat}
    (hpq : p < q)
    (hqr : q < r) : p < r := by
  rw [Rat.lt_iff_le_and_ne] at hpq hqr ⊢
  refine ⟨Rat.le_trans hpq.1 hqr.1, ?_⟩
  intro h
  subst h
  exact hpq.2 (Rat.le_antisymm hpq.1 hqr.1)

/- The order is transitive. -/
theorem before_trans
    {a b c : Meaning}
    (hab : a.before b = true)
    (hbc : b.before c = true) :
    a.before c = true := by
  cases a <;> cases b <;> cases c <;>
    first
    | rfl
    | exact decide_eq_true
        (rat_lt_trans (of_decide_eq_true hab)
          (of_decide_eq_true hbc))
    | exact Text.before_of_before_of_before hab hbc
    | exact absurd hab Bool.false_ne_true
    | exact absurd hbc Bool.false_ne_true

/- Of two different meanings one comes before the other. -/
theorem before_or_before
    {a b : Meaning}
    (hab : a ≠ b) :
    a.before b = true ∨ b.before a = true := by
  cases a <;> cases b <;>
    first
    | exact Or.inl rfl
    | exact Or.inr rfl
    | exact (hab rfl).elim
    | skip
  case number.number q r =>
    have hne : q ≠ r := fun e => hab (by rw [e])
    rcases Rat.le_total (a := q) (b := r) with h | h
    · exact Or.inl (decide_eq_true
        (Rat.lt_iff_le_and_ne.mpr ⟨h, hne⟩))
    · exact Or.inr (decide_eq_true
        (Rat.lt_iff_le_and_ne.mpr ⟨h, hne.symm⟩))
  case text.text s t =>
    refine Text.before_or_before_of_ne ?_
    intro e
    exact hab (by rw [String.toList_injective e])

end Meaning

/- A scalar comes before another one by its meaning. -/
def before (a b : Scalar) : Bool :=
  a.meaning.before b.meaning

/- A scalar is a number. Truth values count as numbers. -/
def isNumber : Scalar → Bool
| .bool _ => true
| .int _ => true
| .float _ => true
| _ => false

/- A scalar is a text. -/
def isText : Scalar → Bool
| .str _ => true
| _ => false

/-
  Scalars can be put in order when there is at most one of
  them, or when all are numbers or all are texts.
-/
def comparable (scalars : List Scalar) : Bool :=
  scalars.length ≤ 1
    || scalars.all isNumber
    || scalars.all isText

end Scalar

end ModelNumber
