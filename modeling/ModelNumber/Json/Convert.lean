import ModelNumber.Json.Defect
import ModelNumber.Number.Numeral

/-
  This file defines what values are taken for where an entry
  of a document is read: as an object, as a sequence, as a set
  of pairs, as a key, or as a number.

  Key definitions include:
    * `Json.fields`
    * `Json.required`
    * `Json.optionalField`
    * `Json.elements`
    * `Json.toMap`
    * `Json.key`
    * `Json.toInt`
    * `Json.toFloat`
-/

namespace ModelNumber

namespace Json

------------------------------------------------------------
-- Objects
------------------------------------------------------------

/- The fields of a value that has to be an object. -/
def fields : Json → Except Defect (List (String × Json))
| .obj fields => .ok fields
| _ => .error .unsupported

/-
  Whether a name is among the fields of an object, the items
  of a list, or the parts of a text.
-/
def mentions
    (v : Json)
    (name : String) : Except Defect Bool :=
  match v with
  | .obj fields => .ok (fields.lookup name).isSome
  | .arr items => .ok (items.any (same (.str name)))
  | .str s => .ok (Text.occursIn name.toList s.toList)
  | _ => .error .mistyped

/- A field that an entry must have. -/
def required
    (v : Json)
    (name : String) : Except Defect Json :=
  match v with
  | .obj fields =>
      match fields.lookup name with
      | some value => .ok value
      | none => .error (.missingField name)
  | _ => .error .mistyped

/- A field with a value to take in its absence. -/
def optionalField
    (v : Json)
    (name : String)
    (default : Json) : Except Defect Json :=
  match v with
  | .obj fields => .ok ((fields.lookup name).getD default)
  | _ => .error .unsupported

------------------------------------------------------------
-- Sequences
------------------------------------------------------------

/-
  The elements of a sequence. A text is the sequence of its
  characters and an object that of its field names.
-/
def elements : Json → Except Defect (List Json)
| .arr items => .ok items
| .obj fields => .ok (fields.map fun f => .str f.1)
| .str s => .ok (s.toList.map fun c => .str (String.singleton c))
| _ => .error .mistyped

/- The two elements of a sequence of length two. -/
def pair (v : Json) : Except Defect (Json × Json) := do
  match ← v.elements with
  | [a, b] => return (a, b)
  | _ => throw .invalid

------------------------------------------------------------
-- Keys and maps
------------------------------------------------------------

/- A value that can be a key. -/
def key : Json → Except Defect Scalar
| .scalar s => .ok s
| _ => .error .mistyped

/- Enter a sequence of length two into a map. -/
private def enterPair
    (m : OrderedMap Scalar Json)
    (v : Json) : Except Defect (OrderedMap Scalar Json) := do
  let (k, value) ← v.pair
  return m.insert (← k.key) value

/-
  A map with scalar keys, from an object or from a sequence of
  pairs.
-/
def toMap : Json → Except Defect (OrderedMap Scalar Json)
| .obj fields =>
    .ok (.ofList (fields.map fun f => (.str f.1, f.2)))
| v => do (← v.elements).foldlM enterPair ∅

/- What is no object is taken for a map pair by pair. -/
theorem toMap_eq_foldlM
    {v : Json}
    (hOther : ∀ fields, v ≠ .obj fields) :
    v.toMap = (do
      (← v.elements).foldlM
        (fun (m : OrderedMap Scalar Json) w => do
          let (k, value) ← w.pair
          return m.insert (← k.key) value)
        ∅) := by
  cases v with
  | scalar s => rfl
  | arr items => rfl
  | obj fields => exact absurd rfl (hOther fields)

------------------------------------------------------------
-- Numbers
------------------------------------------------------------

/-
  A whole number. A fraction is cut off, and a text is read as
  a numeral.
-/
def toInt : Json → Except Defect Int
| .bool b => .ok (if b then 1 else 0)
| .int n => .ok n
| .float x =>
    match FloatValue.ofFloat x with
    | .nan => .error .invalid
    | .infinite _ => .error .unbounded
    | value => .ok (value.truncated?.getD 0)
| .str s =>
    match Numeral.int? s with
    | some n => .ok n
    | none => .error .invalid
| _ => .error .mistyped

/- A whole number as a floating-point number. -/
private def floatOfInt (n : Int) : Except Defect Float :=
  let x := Numeral.negateIf (n < 0) (Numeral.scaled n.natAbs 0)
  match FloatValue.ofFloat x with
  | .infinite _ => .error .unbounded
  | _ => .ok x

/- A floating-point number. A text is read as a numeral. -/
def toFloat : Json → Except Defect Float
| .bool b => .ok (if b then 1.0 else 0.0)
| .int n => floatOfInt n
| .float x => .ok x
| .str s =>
    match Numeral.float? s with
    | some x => .ok x
    | none => .error .invalid
| _ => .error .mistyped

end Json

end ModelNumber
