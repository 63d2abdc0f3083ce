import ModelNumber.Catalog
import ModelNumber.Proofs.OrderedMap

/-
  What the resolution of a code says about the catalog: which
  categories and which codes are known.

  Main declarations:
    * `Catalog.get?_of_mem`
    * `Catalog.resolve_knownCategory`
    * `Catalog.resolve_knownCode_eq_true_iff`
    * `Catalog.resolve_name` and `Catalog.resolve_position`
    * `Catalog.resolve_of_describe?`
    * `Catalog.HasTextIds`, `Catalog.HasTextNames` and
      `Catalog.HasTextDescriptions`
    * `Catalog.exists_resolve_description`
-/

namespace ModelNumber

/- Only a text means the same as a text. -/
theorem Scalar.eq_str_of_beq
    {s : String}
    {k : Scalar}
    (h : (Scalar.str s == k) = true) :
    k = .str s := by
  have hMeaning : Meaning.text s = k.meaning :=
    beq_iff_meaning_eq.mp h
  cases k with
  | null => cases hMeaning
  | bool b => cases hMeaning
  | int n => cases hMeaning
  | float x =>
      unfold meaning at hMeaning
      simp only at hMeaning
      split at hMeaning <;> cases hMeaning
  | str t =>
      cases hMeaning
      rfl

/- It can be tested whether a scalar is a text. -/
instance (k : Scalar) : Decidable (∃ s, k = .str s) :=
  match k with
  | .str s => isTrue ⟨s, rfl⟩
  | .null => isFalse (by simp)
  | .bool _ => isFalse (by simp)
  | .int _ => isFalse (by simp)
  | .float _ => isFalse (by simp)

/- It can be tested whether a value is a text. -/
instance (v : Json) : Decidable (∃ s, v = .str s) :=
  match v with
  | .scalar k =>
      decidable_of_iff (∃ s, k = .str s) (by simp)
  | .arr _ => isFalse (by simp)
  | .obj _ => isFalse (by simp)

namespace Catalog

variable {catalog : Catalog} {category : Scalar} {code : String}

/- A category of a catalog is found by its id. -/
theorem get?_of_mem
    {c : Category}
    (hc : c ∈ catalog.categories) :
    catalog.get? c.id = some c :=
  find?_eq_some_of_distinct catalog.distinct hc

/- Of two equal ids both are there or none is. -/
theorem contains_congr
    (catalog : Catalog)
    {id other : Scalar}
    (hSame : (id == other) = true) :
    catalog.contains id = catalog.contains other := by
  simp only [contains, BEq.congr_right hSame]

/- A category is known when the catalog has it. -/
theorem resolve_knownCategory :
    (catalog.resolve category code).knownCategory =
      catalog.contains category := by
  rw [contains_eq_isSome_get?]
  unfold resolve
  cases catalog.get? category with
  | none => rfl
  | some c =>
      cases hCode : c.describe? code <;> simp [hCode]

/- A code is known when the category describes it. -/
theorem resolve_knownCode_eq_true_iff :
    (catalog.resolve category code).knownCode = true ↔
      ∃ c description,
        catalog.get? category = some c ∧
          c.describe? code = some description := by
  unfold resolve
  cases catalog.get? category with
  | none => simp
  | some c =>
      cases hCode : c.describe? code <;> simp [hCode]

/- Any code of a category is shown with its name. -/
theorem resolve_name
    {c : Category}
    (hGet : catalog.get? category = some c) :
    (catalog.resolve category code).name = c.name := by
  unfold resolve
  rw [hGet]
  cases hCode : c.describe? code <;> simp [hCode]

/- Any code of a category is shown with its position. -/
theorem resolve_position
    {c : Category}
    (hGet : catalog.get? category = some c) :
    (catalog.resolve category code).position = c.position := by
  unfold resolve
  rw [hGet]
  cases hCode : c.describe? code <;> simp [hCode]

/- A code that its category describes is shown as it says. -/
theorem resolve_of_describe?
    {c : Category}
    {description : Json}
    (hGet : catalog.get? category = some c)
    (hCode : c.describe? code = some description) :
    catalog.resolve category code =
      { name := c.name
        position := c.position
        description := description
        knownCategory := true
        knownCode := true } := by
  unfold resolve
  rw [hGet]
  simp [hCode]

------------------------------------------------------------
-- Texts in a catalog
------------------------------------------------------------

/- All ids in a catalog are texts. -/
def HasTextIds (catalog : Catalog) : Prop :=
  ∀ c ∈ catalog.categories, ∃ id, c.id = .str id

instance (catalog : Catalog) : Decidable catalog.HasTextIds :=
  inferInstanceAs
    (Decidable (∀ c ∈ catalog.categories, ∃ id, c.id = .str id))

/- Where all ids are texts, so is the key of a category. -/
theorem exists_of_contains
    (hIds : catalog.HasTextIds)
    (h : catalog.contains category = true) :
    ∃ id, category = .str id := by
  rcases List.any_eq_true.mp h with ⟨c, hc, hId⟩
  rcases hIds c hc with ⟨id, hText⟩
  rw [hText] at hId
  exact ⟨id, Scalar.eq_str_of_beq hId⟩

/- All names in a catalog are texts. -/
def HasTextNames (catalog : Catalog) : Prop :=
  ∀ c ∈ catalog.categories, ∃ name, c.name = .str name

instance (catalog : Catalog) : Decidable catalog.HasTextNames :=
  inferInstanceAs
    (Decidable
      (∀ c ∈ catalog.categories, ∃ name, c.name = .str name))

/- All descriptions in a catalog are texts. -/
def HasTextDescriptions (catalog : Catalog) : Prop :=
  ∀ c ∈ catalog.categories, ∀ v ∈ c.codes.values,
    ∃ description, v = .str description

instance (catalog : Catalog) :
    Decidable catalog.HasTextDescriptions :=
  inferInstanceAs
    (Decidable (∀ c ∈ catalog.categories, ∀ v ∈ c.codes.values,
      ∃ description, v = .str description))

/- A code is described as its category says. -/
theorem mem_values_of_describe?
    {c : Category}
    {description : Json}
    (h : c.describe? code = some description) :
    description ∈ c.codes.values := by
  unfold Category.describe? at h
  split at h
  · cases h
  · exact OrderedMap.mem_values_of_get? h

/- Where all descriptions are texts, so is that of any code. -/
theorem exists_resolve_description
    (hText : catalog.HasTextDescriptions)
    (category : Scalar)
    (code : String) :
    ∃ description,
      (catalog.resolve category code).description =
        .str description := by
  unfold resolve
  cases hCategory : catalog.get? category with
  | none => exact ⟨_, rfl⟩
  | some c =>
      cases hCode : c.describe? code with
      | none => exact ⟨"Unknown code", by simp [hCode]⟩
      | some description =>
          have hMem : c ∈ catalog.categories :=
            List.mem_of_find?_eq_some hCategory
          rcases hText c hMem description
            (mem_values_of_describe? hCode) with ⟨text, rfl⟩
          exact ⟨text, by simp [hCode]⟩

/- Where all descriptions are texts, a code that is there is known. -/
theorem resolve_knownCode_of_contains
    (hText : catalog.HasTextDescriptions)
    {c : Category}
    (hGet : catalog.get? category = some c)
    (hCode : c.codes.contains (.str code) = true) :
    (catalog.resolve category code).knownCode = true := by
  rw [OrderedMap.contains_eq_isSome_get?,
    Option.isSome_iff_exists] at hCode
  rcases hCode with ⟨v, hv⟩
  rcases hText c (List.mem_of_find?_eq_some hGet) v
      (OrderedMap.mem_values_of_get? hv) with
    ⟨description, rfl⟩
  refine resolve_knownCode_eq_true_iff.mpr
    ⟨c, .str description, hGet, ?_⟩
  rw [Category.describe?, hv]

end Catalog

end ModelNumber
