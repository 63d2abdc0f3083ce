import ModelNumber.Json.Scalar
import ModelNumber.OrderedMap

/-
  This file defines document values: scalars, lists, and
  objects whose fields keep their order.

  Key definitions include:
    * `Json`
    * `Json.ofFields`
    * `Json.field?`
    * `Json.same`
    * `Json.decEq`
    * `Json.isTrue`
-/

namespace ModelNumber

/- A document value. -/
inductive Json where
| scalar (s : Scalar)
| arr (items : List Json)
| obj (fields : List (String × Json))

namespace Json

instance : Inhabited Json :=
  ⟨.scalar .null⟩

------------------------------------------------------------
-- Scalars as values
------------------------------------------------------------

/- The absent value. -/
@[match_pattern]
abbrev null : Json :=
  .scalar .null

/- A truth value. -/
@[match_pattern]
abbrev bool (b : Bool) : Json :=
  .scalar (.bool b)

/- A whole number. -/
@[match_pattern]
abbrev int (n : Int) : Json :=
  .scalar (.int n)

/- A floating-point number. -/
@[match_pattern]
abbrev float (x : Float) : Json :=
  .scalar (.float x)

/- A text. -/
@[match_pattern]
abbrev str (s : String) : Json :=
  .scalar (.str s)

instance : Coe Scalar Json :=
  ⟨.scalar⟩

instance : Coe String Json :=
  ⟨.str⟩

/- A value that may be absent. -/
def optional : Option Json → Json
| some v => v
| none => .null

------------------------------------------------------------
-- Objects
------------------------------------------------------------

/-
  An object from fields read one by one: a name that comes
  again keeps its place and takes the new value.
-/
def ofFields (fields : List (String × Json)) : Json :=
  .obj (OrderedMap.ofList fields).entries

/- The value of a field of an object. -/
def field?
    (v : Json)
    (name : String) : Option Json :=
  match v with
  | .obj fields => fields.lookup name
  | _ => none

------------------------------------------------------------
-- Equality of values
------------------------------------------------------------

mutual

/-
  Values are the same when they have the same meaning: scalars
  as scalars, lists item by item, and objects field by field
  in any order.
-/
def same : Json → Json → Bool
| .scalar a, .scalar b => a == b
| .arr as, .arr bs => sameItems as bs
| .obj as, .obj bs =>
    as.length == bs.length && sameFields as bs
| _, _ => false
termination_by structural a => a

/- Lists are the same item by item. -/
def sameItems : List Json → List Json → Bool
| [], [] => true
| a :: as, b :: bs => same a b && sameItems as bs
| _, _ => false
termination_by structural as => as

/- Each field has the same value in another object. -/
def sameFields :
    List (String × Json) → List (String × Json) → Bool
| [], _ => true
| (name, a) :: as, bs =>
    let found :=
      match bs.lookup name with
      | some b => same a b
      | none => false
    found && sameFields as bs
termination_by structural as => as

end

------------------------------------------------------------
-- Identity of values
------------------------------------------------------------

mutual

/-
  Test if values are the very same tree. Unlike values of the
  same meaning, they also agree in the types of numbers and in
  the order of fields.
-/
def decEq : (a b : Json) → Decidable (a = b)
| .scalar a, .scalar b => decidable_of_iff (a = b) (by simp)
| .arr as, .arr bs =>
    match decEqItems as bs with
    | .isTrue h => .isTrue (by rw [h])
    | .isFalse h => .isFalse (by simpa using h)
| .obj as, .obj bs =>
    match decEqFields as bs with
    | .isTrue h => .isTrue (by rw [h])
    | .isFalse h => .isFalse (by simpa using h)
| .scalar _, .arr _ => .isFalse (by simp)
| .scalar _, .obj _ => .isFalse (by simp)
| .arr _, .scalar _ => .isFalse (by simp)
| .arr _, .obj _ => .isFalse (by simp)
| .obj _, .scalar _ => .isFalse (by simp)
| .obj _, .arr _ => .isFalse (by simp)
termination_by structural a => a

/- Test lists item by item. -/
def decEqItems : (as bs : List Json) → Decidable (as = bs)
| [], [] => .isTrue rfl
| [], _ :: _ => .isFalse (by simp)
| _ :: _, [] => .isFalse (by simp)
| a :: as, b :: bs =>
    match decEq a b, decEqItems as bs with
    | .isTrue h, .isTrue hs => .isTrue (by rw [h, hs])
    | .isFalse h, _ => .isFalse (by simp [h])
    | _, .isFalse hs => .isFalse (by simp [hs])
termination_by structural as => as

/- Test objects field by field. -/
def decEqFields :
    (as bs : List (String × Json)) → Decidable (as = bs)
| [], [] => .isTrue rfl
| [], _ :: _ => .isFalse (by simp)
| _ :: _, [] => .isFalse (by simp)
| (m, a) :: as, (n, b) :: bs =>
    if hn : m = n then
      match decEq a b, decEqFields as bs with
      | .isTrue h, .isTrue hs => .isTrue (by rw [hn, h, hs])
      | .isFalse h, _ => .isFalse (by simp [h])
      | _, .isFalse hs => .isFalse (by simp [hs])
    else
      .isFalse (by simp [hn])
termination_by structural as => as

end

instance : DecidableEq Json :=
  decEq

------------------------------------------------------------
-- Truth
------------------------------------------------------------

/-
  A value counts as true unless it is absent, a false truth
  value, a zero, or empty.
-/
def isTrue : Json → Bool
| .null => false
| .scalar (.str s) => !s.isEmpty
| .scalar s => !(s == .int 0)
| .arr items => !items.isEmpty
| .obj fields => !fields.isEmpty

end Json

end ModelNumber
