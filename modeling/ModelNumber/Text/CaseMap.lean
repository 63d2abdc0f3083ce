/-
  This file defines letter-case mappings as tables. A mapping
  gives every character an image of its own, so it works on a
  text character by character and distributes over joining
  texts.

  Key definitions include:
    * `CaseRun`
    * `CaseMap`
    * `CaseMap.image`
    * `CaseMap.apply`
-/

namespace ModelNumber

------------------------------------------------------------
-- Runs
------------------------------------------------------------

/-
  A run of evenly spaced code points that are all moved by the
  same distance.
-/
structure CaseRun where
  first : Nat
  last : Nat
  step : Nat
  shift : Int
deriving DecidableEq, Repr

namespace CaseRun

/- A code point belongs to a run. -/
def contains
    (r : CaseRun)
    (n : Nat) : Bool :=
  r.first ≤ n && n ≤ r.last && (n - r.first) % r.step == 0

/- The code point that a run gives for one of its own. -/
def shifted
    (r : CaseRun)
    (n : Nat) : Nat :=
  ((n : Int) + r.shift).toNat

end CaseRun

------------------------------------------------------------
-- Mappings
------------------------------------------------------------

/-
  A letter-case mapping: runs for the characters with a
  one-character image, and a list for those whose image has
  several characters. All other characters stay.
-/
structure CaseMap where
  runs : List CaseRun
  expansions : List (Nat × List Nat)
deriving DecidableEq, Repr

namespace CaseMap

/- The image of one character. -/
def image
    (m : CaseMap)
    (c : Char) : List Char :=
  match m.expansions.lookup c.toNat with
  | some points => points.map Char.ofNat
  | none =>
      match m.runs.find? (·.contains c.toNat) with
      | some run => [Char.ofNat (run.shifted c.toNat)]
      | none => [c]

/- The image of a text. -/
def apply
    (m : CaseMap)
    (s : List Char) : List Char :=
  s.flatMap m.image

/- Nothing maps to nothing. -/
@[simp]
theorem apply_nil (m : CaseMap) :
    m.apply [] = [] :=
  rfl

/- A mapping distributes over joining texts. -/
@[simp]
theorem apply_append
    (m : CaseMap)
    (s t : List Char) :
    m.apply (s ++ t) = m.apply s ++ m.apply t := by
  simp [apply]

end CaseMap

end ModelNumber
