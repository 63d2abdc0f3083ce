import ModelNumber.Json.Basic

/-
  This file defines the code catalog of a model type: its
  categories in document order, each with the codes that may
  stand in its place and what they mean.

  Key definitions include:
    * `Category`
    * `Category.describe?`
    * `Catalog`
    * `Catalog.get?`
    * `Catalog.add`
    * `Resolution`
    * `Catalog.resolve`
-/

namespace ModelNumber

------------------------------------------------------------
-- Categories
------------------------------------------------------------

/-
  One slot of a model number. The position is the label shown
  beside the name, and the codes map each code to its
  description.
-/
structure Category where
  id : Scalar
  name : Json
  position : Json
  group : Json
  codes : OrderedMap Scalar Json

namespace Category

/- What a code means, if the catalog says. -/
def describe?
    (c : Category)
    (code : String) : Option Json :=
  match c.codes.get? (.str code) with
  | some .null => none
  | found => found

end Category

------------------------------------------------------------
-- Catalogs
------------------------------------------------------------

/- Categories in document order, no two with the same id. -/
structure Catalog where
  categories : List Category
  distinct :
    categories.Pairwise (fun a b => (a.id == b.id) = false)

namespace Catalog

/- The catalog without categories. -/
def empty : Catalog where
  categories := []
  distinct := .nil

instance : EmptyCollection Catalog :=
  ⟨empty⟩

instance : Inhabited Catalog :=
  ⟨empty⟩

/- The category with an id. -/
def get?
    (catalog : Catalog)
    (id : Scalar) : Option Category :=
  catalog.categories.find? (·.id == id)

/- A category with an id is there. -/
def contains
    (catalog : Catalog)
    (id : Scalar) : Bool :=
  catalog.categories.any (·.id == id)

/- The number of categories. -/
def size (catalog : Catalog) : Nat :=
  catalog.categories.length

/- An id is there when it can be looked up. -/
theorem contains_eq_isSome_get?
    (catalog : Catalog)
    (id : Scalar) :
    catalog.contains id = (catalog.get? id).isSome := by
  unfold contains get?
  induction catalog.categories with
  | nil => rfl
  | cons c rest ih =>
      cases h : c.id == id <;> simp [h, ih]

private theorem distinct_append
    {catalog : Catalog}
    {c : Category}
    (h : catalog.contains c.id = false) :
    (catalog.categories ++ [c]).Pairwise
      (fun a b => (a.id == b.id) = false) := by
  rw [List.pairwise_append]
  refine ⟨catalog.distinct, by simp, ?_⟩
  intro a ha b hb
  rw [List.mem_singleton] at hb
  subst hb
  have hAll := List.any_eq_false.mp h a ha
  simpa using hAll

/-
  Add a category at the end. A second category with the same
  id is refused with that id.
-/
def add
    (catalog : Catalog)
    (c : Category) : Except Scalar Catalog :=
  if h : catalog.contains c.id = false then
    .ok
      { categories := catalog.categories ++ [c]
        distinct := distinct_append h }
  else
    .error c.id

/- An added category is found by its id. -/
theorem get?_add_self
    {catalog larger : Catalog}
    {c : Category}
    (h : catalog.add c = .ok larger) :
    larger.get? c.id = some c := by
  unfold add at h
  split at h
  · rename_i hNew
    cases h
    have hNone : catalog.get? c.id = none := by
      rw [contains_eq_isSome_get?] at hNew
      simpa using hNew
    unfold get? at hNone ⊢
    simp [List.find?_append, hNone]
  · cases h

/- An added category changes no other lookup. -/
theorem get?_add_of_ne
    {catalog larger : Catalog}
    {c : Category}
    {id : Scalar}
    (h : catalog.add c = .ok larger)
    (hId : (c.id == id) = false) :
    larger.get? id = catalog.get? id := by
  unfold add at h
  split at h
  · cases h
    simp [get?, List.find?_append, hId]
  · cases h

/- The catalog of a list of categories, added one by one. -/
def ofList (cs : List Category) : Except Scalar Catalog :=
  cs.foldlM add empty

end Catalog

------------------------------------------------------------
-- Resolution
------------------------------------------------------------

/- How a code in a category is shown. -/
structure Resolution where
  name : Json
  position : Json
  description : Json
  knownCategory : Bool
  knownCode : Bool

namespace Catalog

/-
  Look up a code. An unknown category keeps its id as the
  position, and an unknown code keeps the name and position of
  its category.
-/
def resolve
    (catalog : Catalog)
    (category : Scalar)
    (code : String) : Resolution :=
  match catalog.get? category with
  | none =>
      { name := "Unknown"
        position := category
        description := "Unknown category"
        knownCategory := false
        knownCode := false }
  | some c =>
      match c.describe? code with
      | none =>
          { name := c.name
            position := c.position
            description := "Unknown code"
            knownCategory := true
            knownCode := false }
      | some description =>
          { name := c.name
            position := c.position
            description := description
            knownCategory := true
            knownCode := true }

end Catalog

end ModelNumber
