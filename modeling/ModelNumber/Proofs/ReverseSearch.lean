import ModelNumber.Library.Entry
import ModelNumber.Proofs.Catalog
import ModelNumber.Proofs.Outcome
import ModelNumber.Proofs.Text.Trim
import ModelNumber.Proofs.Text.UpperCase
import ModelNumber.ReverseSearch

/-
  A search keeps, of all codes in the order of the catalog,
  those whose description or whose category name contains the
  folded query. Folding works character by character and loses
  none, so fragments of a text are found in it, and a longer
  query finds less.

  Main declarations:
    * `Text.occursIn_eq_true_iff`
    * `CaseMap.apply_isInfix`
    * `Catalog.needle_isInfix` and `Catalog.needle_ne_nil`
    * `Catalog.listing` and `Match.Answers`
    * `Catalog.search_eq_ok`
    * `Catalog.Inverts` and `Catalog.exists_search_inverts`
    * `Catalog.exists_search_sublist`
-/

namespace ModelNumber

------------------------------------------------------------
-- Folded fragments
------------------------------------------------------------

/- A text occurs in another one as a fragment of it. -/
theorem Text.occursIn_eq_true_iff
    {needle s : List Char} :
    occursIn needle s = true ↔ needle <:+: s := by
  induction s with
  | nil => rw [occursIn, List.isEmpty_iff, List.infix_nil]
  | cons c s ih =>
      rw [occursIn, Bool.or_eq_true, ih,
        List.isPrefixOf_iff_prefix, List.infix_cons_iff]

namespace CaseMap

/- The image of a fragment is a fragment of the image. -/
theorem apply_isInfix
    (m : CaseMap)
    {s t : List Char}
    (hInfix : s <:+: t) :
    m.apply s <:+: m.apply t := by
  rcases hInfix with ⟨before, after, rfl⟩
  rw [apply_append, apply_append]
  exact ⟨_, _, rfl⟩

/- Folding loses no character. -/
theorem caseFold_image_ne_nil (c : Char) :
    caseFold.image c ≠ [] :=
  image_ne_nil (by decide +kernel) c

/- Only the empty text is folded to nothing. -/
theorem caseFold_apply_eq_nil_iff {s : List Char} :
    caseFold.apply s = [] ↔ s = [] := by
  rw [apply, List.flatMap_eq_nil_iff]
  constructor
  · intro hNone
    exact List.eq_nil_iff_forall_not_mem.mpr fun c hc =>
      caseFold_image_ne_nil c (hNone c hc)
  · rintro rfl c hc
    cases hc

end CaseMap

namespace Catalog

/- A query with a character that is no blank looks for something. -/
theorem needle_ne_nil
    {query : String}
    (hQuery : ∃ c ∈ query.toList, Text.isBlank c = false) :
    needle query ≠ [] := by
  rw [needle, ne_eq, CaseMap.caseFold_apply_eq_nil_iff,
    Text.trim_eq_nil_iff]
  rcases hQuery with ⟨c, hc, hBlank⟩
  intro hAll
  rw [hAll c hc] at hBlank
  cases hBlank

/- What a query looks for is a fragment of any folded text around it. -/
theorem needle_isInfix
    {query : String}
    {s : List Char}
    (hInfix : query.toList <:+: s) :
    needle query <:+: CaseMap.caseFold.apply s :=
  CaseMap.caseFold.apply_isInfix
    ((Text.trim_isInfix _).trans hInfix)

/- A longer query looks for a longer text. -/
theorem needle_isInfix_needle
    {query longer : String}
    (hInfix : query.toList <:+: longer.toList) :
    needle query <:+: needle longer :=
  CaseMap.caseFold.apply_isInfix (Text.trim_isInfix_trim hInfix)

end Catalog

------------------------------------------------------------
-- Answers
------------------------------------------------------------

/- A value is a text whose folded form contains a needle. -/
def Json.ContainsFolded
    (v : Json)
    (needle : List Char) : Prop :=
  ∃ s, v = .str s ∧ needle <:+: CaseMap.caseFold.apply s.toList

/- The folded form of a text decides what it contains. -/
theorem Json.containsFolded_str_iff
    {s : String}
    {needle : List Char} :
    Json.ContainsFolded (.str s) needle ↔
      needle <:+: CaseMap.caseFold.apply s.toList := by
  simp [ContainsFolded]

instance
    (v : Json)
    (needle : List Char) :
    Decidable (v.ContainsFolded needle) :=
  match v with
  | .scalar (.str s) =>
      decidable_of_iff
        (Text.occursIn needle (CaseMap.caseFold.apply s.toList) =
          true)
        (Text.occursIn_eq_true_iff.trans
          Json.containsFolded_str_iff.symm)
  | .scalar .null => isFalse fun ⟨_, hText, _⟩ => nomatch hText
  | .scalar (.bool _) => isFalse fun ⟨_, hText, _⟩ => nomatch hText
  | .scalar (.int _) => isFalse fun ⟨_, hText, _⟩ => nomatch hText
  | .scalar (.float _) => isFalse fun ⟨_, hText, _⟩ => nomatch hText
  | .arr _ => isFalse fun ⟨_, hText, _⟩ => nomatch hText
  | .obj _ => isFalse fun ⟨_, hText, _⟩ => nomatch hText

/- A value is a text with a fragment. -/
def Json.HasFragment
    (v : Json)
    (fragment : String) : Prop :=
  ∃ s, v = .str s ∧ fragment.toList <:+: s.toList

/- A fragment is found when it is looked for. -/
theorem Json.HasFragment.containsFolded
    {v : Json}
    {fragment : String}
    (hFragment : v.HasFragment fragment) :
    v.ContainsFolded (Catalog.needle fragment) := by
  rcases hFragment with ⟨s, hText, hInfix⟩
  exact ⟨s, hText, Catalog.needle_isInfix hInfix⟩

/- A code answers a needle by its category or by what it means. -/
def Match.Answers
    (m : Match)
    (needle : List Char) : Prop :=
  m.name.ContainsFolded needle ∨
    m.description.ContainsFolded needle

instance
    (m : Match)
    (needle : List Char) :
    Decidable (m.Answers needle) :=
  inferInstanceAs
    (Decidable (m.name.ContainsFolded needle ∨
      m.description.ContainsFolded needle))

/- A code that answers a longer needle answers a fragment of it. -/
theorem Match.Answers.of_isInfix
    {m : Match}
    {needle longer : List Char}
    (hInfix : needle <:+: longer)
    (hAnswers : m.Answers longer) :
    m.Answers needle := by
  rcases hAnswers with ⟨s, hName, hIn⟩ | ⟨s, hDescription, hIn⟩
  · exact Or.inl ⟨s, hName, hInfix.trans hIn⟩
  · exact Or.inr ⟨s, hDescription, hInfix.trans hIn⟩

/- What a code answers is found in one of two texts. -/
theorem Match.answers_iff
    {m : Match}
    {name description : String}
    (hName : m.name = .str name)
    (hDescription : m.description = .str description)
    {needle : List Char} :
    m.Answers needle ↔
      Text.occursIn needle
          (CaseMap.caseFold.apply name.toList) = true ∨
        Text.occursIn needle
          (CaseMap.caseFold.apply description.toList) =
            true := by
  rw [Answers, hName, hDescription, Json.containsFolded_str_iff,
    Json.containsFolded_str_iff, Text.occursIn_eq_true_iff,
    Text.occursIn_eq_true_iff]

------------------------------------------------------------
-- Searching a catalog
------------------------------------------------------------

/- One code of a category of texts is found if it answers. -/
theorem Category.searchCode_eq_ok
    {c : Category}
    {code : Scalar × Json}
    {name description : String}
    (hName : c.name = .str name)
    (hDescription : code.2 = .str description)
    (needle : List Char) :
    (if Text.occursIn needle
          (CaseMap.caseFold.apply name.toList) = true then
        return [c.matchOf code]
      else do
        if Text.occursIn needle (← foldedText code.2) then
          return [c.matchOf code]
        else
          return [] : Except Defect (List Match)) =
      .ok ([c.matchOf code].filter (·.Answers needle)) := by
  have hAnswers : (c.matchOf code).Answers needle ↔ _ :=
    Match.answers_iff hName hDescription
  have hText :
      foldedText code.2 =
        .ok (CaseMap.caseFold.apply description.toList) := by
    rw [hDescription]
    rfl
  rw [hText]
  by_cases hFound : (c.matchOf code).Answers needle
  · rw [List.filter_cons_of_pos (by simpa using hFound)]
    split
    · rfl
    · rename_i hByName
      have hByText := (hAnswers.mp hFound).resolve_left hByName
      exact (if_pos hByText).trans rfl
  · rw [List.filter_cons_of_neg (by simpa using hFound)]
    rw [hAnswers, not_or] at hFound
    rw [if_neg hFound.1]
    exact (if_neg hFound.2).trans rfl

/- A category of texts is searched code by code. -/
theorem Category.search_eq_ok
    {c : Category}
    (hName : ∃ name, c.name = .str name)
    (hDescriptions :
      ∀ v ∈ c.codes.values, ∃ description, v = .str description)
    (needle : List Char) :
    c.search needle =
      .ok ((c.codes.entries.map c.matchOf).filter
        (·.Answers needle)) := by
  rcases hName with ⟨name, hName⟩
  have hFolded :
      foldedText c.name =
        .ok (CaseMap.caseFold.apply name.toList) := by
    rw [hName]
    rfl
  have hFilter :
      (c.codes.entries.map fun code =>
          [c.matchOf code].filter (·.Answers needle)).flatten =
        (c.codes.entries.map c.matchOf).filter
          (·.Answers needle) := by
    rw [← List.flatMap_def, ← List.filter_flatMap,
      ← List.map_eq_flatMap]
  unfold search
  rw [hFolded]
  refine Outcome.bind_eq_ok_iff.mpr ⟨_, rfl, ?_⟩
  refine Outcome.bind_eq_ok_iff.mpr
    ⟨_, Outcome.mapM_eq_ok_map ?_, congrArg Except.ok hFilter⟩
  intro code hCode
  rcases hDescriptions code.2 (List.mem_map_of_mem hCode) with
    ⟨description, hDescription⟩
  exact searchCode_eq_ok hName hDescription needle

namespace Catalog

variable {catalog : Catalog} {query longer : String}

/- All codes of a catalog, in its order. -/
def listing (catalog : Catalog) : List Match :=
  catalog.categories.flatMap fun c =>
    c.codes.entries.map c.matchOf

/- A catalog of texts is searched code by code. -/
theorem search_eq_ok
    (hNames : catalog.HasTextNames)
    (hDescriptions : catalog.HasTextDescriptions)
    (hQuery : needle query ≠ []) :
    catalog.search query =
      .ok (catalog.listing.filter (·.Answers (needle query))) := by
  unfold search
  dsimp only
  rw [if_neg (by simpa using hQuery), listing,
    List.filter_flatMap]
  refine Outcome.bind_eq_ok_iff.mpr
    ⟨_, Outcome.mapM_eq_ok_map ?_, rfl⟩
  intro c hc
  exact Category.search_eq_ok (hNames c hc) (hDescriptions c hc) _

/- A catalog of texts can be searched. -/
theorem exists_search
    (hNames : catalog.HasTextNames)
    (hDescriptions : catalog.HasTextDescriptions)
    (query : String) :
    ∃ found, catalog.search query = .ok found := by
  by_cases hQuery : needle query = []
  · refine ⟨[], ?_⟩
    unfold search
    dsimp only
    rw [if_pos (by simpa using hQuery)]
    rfl
  · exact ⟨_, search_eq_ok hNames hDescriptions hQuery⟩

end Catalog

------------------------------------------------------------
-- Pairs of categories and codes
------------------------------------------------------------

/- The category and the code of a match. -/
def Match.pair (m : Match) : Scalar × Scalar :=
  (m.category, m.code)

/- A match, shown as a known code is. -/
def Match.resolution (m : Match) : Resolution where
  name := m.name
  position := m.position
  description := m.description
  knownCategory := true
  knownCode := true

namespace Catalog

variable {catalog : Catalog} {query longer : String} {m : Match}

/- Each category with each of its codes, in document order. -/
def pairs (catalog : Catalog) : List (Scalar × Scalar) :=
  catalog.categories.flatMap fun c =>
    c.codes.keys.map fun code => (c.id, code)

/- The codes of a catalog are listed pair by pair. -/
theorem listing_map_pair (catalog : Catalog) :
    catalog.listing.map Match.pair = catalog.pairs := by
  simp only [listing, pairs, List.map_flatMap,
    OrderedMap.keys, List.map_map]
  rfl

/- Each code of a category is listed once. -/
theorem pairs_pairwise (catalog : Catalog) :
    catalog.pairs.Pairwise fun p q =>
      (p.1 == q.1 && p.2 == q.2) = false := by
  rw [pairs, List.pairwise_flatMap]
  constructor
  · intro c _
    rw [OrderedMap.keys, List.map_map, List.pairwise_map]
    refine c.codes.distinct.imp ?_
    intro d e hOther
    rw [Bool.and_eq_false_iff]
    exact Or.inr hOther
  · refine catalog.distinct.imp ?_
    intro c d hOther p hp q hq
    rcases List.mem_map.mp hp with ⟨_, _, rfl⟩
    rcases List.mem_map.mp hq with ⟨_, _, rfl⟩
    rw [Bool.and_eq_false_iff]
    exact Or.inl hOther

/- What is listed is a code of a category. -/
theorem mem_listing_iff :
    m ∈ catalog.listing ↔
      ∃ c ∈ catalog.categories, ∃ code ∈ c.codes.entries,
        c.matchOf code = m := by
  simp [listing]

/- A category of the catalog describes the code of a match. -/
def Describes
    (catalog : Catalog)
    (m : Match) : Prop :=
  ∃ c,
    catalog.get? m.category = some c ∧
      c.codes.get? m.code = some m.description ∧
      c.name = m.name ∧ c.position = m.position

/- What is listed is described. -/
theorem describes_of_mem_listing
    (hm : m ∈ catalog.listing) :
    catalog.Describes m := by
  rcases mem_listing_iff.mp hm with ⟨c, hc, code, hCode, rfl⟩
  exact
    ⟨c, get?_of_mem hc, OrderedMap.get?_of_mem_entries hCode,
      rfl, rfl⟩

/- A pair is described in one way. -/
theorem eq_of_describes
    {n : Match}
    (hm : catalog.Describes m)
    (hn : catalog.Describes n)
    (hPair : m.pair = n.pair) :
    m = n := by
  rcases m with ⟨category, code, position, name, description⟩
  rcases n with ⟨other, codeToo, positionToo, nameToo, text⟩
  rcases hm with ⟨c, hGet, hCode, hName, hPosition⟩
  rcases hn with ⟨d, hGetToo, hCodeToo, hNameToo, hPositionToo⟩
  cases hPair
  cases hGet.symm.trans hGetToo
  cases hCode.symm.trans hCodeToo
  cases hName.symm.trans hNameToo
  cases hPosition.symm.trans hPositionToo
  rfl

/- A described code with a text is shown as it is described. -/
theorem resolve_of_describes
    (hDescriptions : catalog.HasTextDescriptions)
    (hm : catalog.Describes m)
    {code : String}
    (hCode : m.code = .str code) :
    catalog.resolve m.category code = m.resolution := by
  rcases hm with ⟨c, hGet, hDescription, hName, hPosition⟩
  rcases hDescriptions c (List.mem_of_find?_eq_some hGet) _
      (OrderedMap.mem_values_of_get? hDescription) with
    ⟨text, hText⟩
  have hDescribed : c.describe? code = some m.description := by
    rw [Category.describe?, ← hCode, hDescription, hText]
  rw [resolve_of_describe? hGet hDescribed, hName, hPosition]
  rfl

------------------------------------------------------------
-- What a search finds
------------------------------------------------------------

/-
  What a search finds are pairs of a category and a code, in
  document order and each of them once, shown as they are
  resolved. A pair is missing exactly if neither the folded
  name of the category nor the folded description of the code
  contains the trimmed and folded query. So a code is found by
  any fragment of the two.
-/
structure Inverts
    (catalog : Catalog)
    (query : String)
    (found : List Match) : Prop where
  inOrder : (found.map Match.pair).Sublist catalog.pairs
  distinct :
    (found.map Match.pair).Pairwise fun p q =>
      (p.1 == q.1 && p.2 == q.2) = false
  describes : ∀ m ∈ found, catalog.Describes m
  resolves : ∀ m ∈ found, ∀ code,
    m.code = .str code →
      catalog.resolve m.category code = m.resolution
  missing : ∀ c ∈ catalog.categories, ∀ code ∈ c.codes.entries,
    (c.id, code.1) ∉ found.map Match.pair ↔
      ¬c.name.ContainsFolded (needle query) ∧
        ¬code.2.ContainsFolded (needle query)
  fragments : ∀ c ∈ catalog.categories, ∀ code ∈ c.codes.entries,
    c.name.HasFragment query ∨ code.2.HasFragment query →
      c.matchOf code ∈ found

/- A listed pair is found exactly if the code answers. -/
theorem pair_mem_filter_listing_iff
    {keep : Match → Bool}
    (hm : m ∈ catalog.listing) :
    m.pair ∈ (catalog.listing.filter keep).map Match.pair ↔
      keep m = true := by
  rw [List.mem_map]
  constructor
  · rintro ⟨n, hn, hPair⟩
    rcases List.mem_filter.mp hn with ⟨hListed, hKeep⟩
    rw [← eq_of_describes (describes_of_mem_listing hListed)
      (describes_of_mem_listing hm) hPair]
    exact hKeep
  · intro hKeep
    exact ⟨m, List.mem_filter.mpr ⟨hm, hKeep⟩, rfl⟩

/- A search finds what resolves to texts with the query. -/
theorem exists_search_inverts
    (hNames : catalog.HasTextNames)
    (hDescriptions : catalog.HasTextDescriptions)
    (hQuery : ∃ c ∈ query.toList, Text.isBlank c = false) :
    ∃ found,
      catalog.search query = .ok found ∧
        catalog.Inverts query found := by
  refine
    ⟨_, search_eq_ok hNames hDescriptions (needle_ne_nil hQuery),
      ?_⟩
  have hDescribes :
      ∀ m ∈ catalog.listing.filter (·.Answers (needle query)),
        catalog.Describes m :=
    fun m hm =>
      describes_of_mem_listing (List.mem_of_mem_filter hm)
  have hInOrder :
      ((catalog.listing.filter (·.Answers (needle query))).map
        Match.pair).Sublist catalog.pairs := by
    rw [← listing_map_pair]
    exact List.filter_sublist.map _
  constructor
  · exact hInOrder
  · exact catalog.pairs_pairwise.sublist hInOrder
  · exact hDescribes
  · intro m hm code hCode
    exact resolve_of_describes hDescriptions (hDescribes m hm) hCode
  · intro c hc code hCode
    have hListed : c.matchOf code ∈ catalog.listing :=
      mem_listing_iff.mpr ⟨c, hc, code, hCode, rfl⟩
    rw [← not_or]
    refine not_congr ?_
    exact (pair_mem_filter_listing_iff hListed).trans
      decide_eq_true_iff
  · intro c hc code hCode hFragment
    rw [List.mem_filter, decide_eq_true_iff]
    refine
      ⟨mem_listing_iff.mpr ⟨c, hc, code, hCode, rfl⟩,
        hFragment.imp ?_ ?_⟩
    · exact Json.HasFragment.containsFolded
    · exact Json.HasFragment.containsFolded

/- Filters and racks, one of them written with a ligature. -/
def filters : Catalog where
  categories :=
    [.ofCodes "FILTER" "Air \uFB01lter" "F" "feature"
        [("0", "None"), ("A", "Pleated")],
      .ofCodes "RACK" "Rack" "R" "feature"
        [("2", "2 in. FILTER rack"), ("0", "None")]]
  distinct := by decide

/- A ligature is found by the letters that it is folded to. -/
theorem exists_search_inverts_filters :
    filters.HasTextNames ∧ filters.HasTextDescriptions ∧
      (∃ c ∈ " Filter".toList, Text.isBlank c = false) ∧
      ∃ found,
        filters.search " Filter" = .ok found ∧
          found.map Match.pair =
            [(.str "FILTER", .str "0"), (.str "FILTER", .str "A"),
              (.str "RACK", .str "2")] ∧
          filters.Inverts " Filter" found := by
  have hNames : filters.HasTextNames := by decide
  have hDescriptions : filters.HasTextDescriptions := by decide
  have hQuery :
      ∃ c ∈ " Filter".toList, Text.isBlank c = false :=
    ⟨'F', by decide, by decide⟩
  have hPairs :
      (filters.search " Filter").toOption.map
          (·.map Match.pair) =
        some
          [(.str "FILTER", .str "0"), (.str "FILTER", .str "A"),
            (.str "RACK", .str "2")] := by
    decide +kernel
  rcases exists_search_inverts hNames hDescriptions hQuery with
    ⟨found, hFound, hInverts⟩
  rw [hFound] at hPairs
  exact
    ⟨hNames, hDescriptions, hQuery, found, hFound,
      Option.some.inj hPairs, hInverts⟩

/- A longer query finds some of what the query finds. -/
theorem exists_search_sublist
    (hNames : catalog.HasTextNames)
    (hDescriptions : catalog.HasTextDescriptions)
    (hQuery : ∃ c ∈ query.toList, Text.isBlank c = false)
    (hInfix : query.toList <:+: longer.toList) :
    ∃ found fewer,
      catalog.search query = .ok found ∧
        catalog.search longer = .ok fewer ∧
        fewer.Sublist found := by
  have hLonger :
      ∃ c ∈ longer.toList, Text.isBlank c = false := by
    rcases hQuery with ⟨c, hc, hBlank⟩
    exact ⟨c, hInfix.subset hc, hBlank⟩
  refine
    ⟨_, _, search_eq_ok hNames hDescriptions (needle_ne_nil hQuery),
      search_eq_ok hNames hDescriptions (needle_ne_nil hLonger),
      List.monotone_filter_right _ ?_⟩
  intro m hAnswers
  rw [decide_eq_true_iff] at hAnswers ⊢
  exact hAnswers.of_isInfix (needle_isInfix_needle hInfix)

/- A blank at the end of a query matters in a longer one. -/
theorem exists_search_sublist_filters :
    filters.HasTextNames ∧ filters.HasTextDescriptions ∧
      (∃ c ∈ "FILTER ".toList, Text.isBlank c = false) ∧
      "FILTER ".toList <:+: " 2 in. FILTER rack".toList ∧
      ∃ found fewer,
        filters.search "FILTER " = .ok found ∧
          filters.search " 2 in. FILTER rack" = .ok fewer ∧
          found.length = 3 ∧ fewer.length = 1 ∧
          fewer.Sublist found := by
  have hNames : filters.HasTextNames := by decide
  have hDescriptions : filters.HasTextDescriptions := by decide
  have hQuery :
      ∃ c ∈ "FILTER ".toList, Text.isBlank c = false :=
    ⟨'F', by decide, by decide⟩
  have hInfix :
      "FILTER ".toList <:+: " 2 in. FILTER rack".toList :=
    ⟨" 2 in. ".toList, "rack".toList, rfl⟩
  have hMany :
      (filters.search "FILTER ").toOption.map List.length =
        some 3 := by
    decide +kernel
  have hOne :
      (filters.search " 2 in. FILTER rack").toOption.map
          List.length =
        some 1 := by
    decide +kernel
  rcases exists_search_sublist hNames hDescriptions hQuery hInfix
    with ⟨found, fewer, hFound, hFewer, hSublist⟩
  rw [hFound] at hMany
  rw [hFewer] at hOne
  exact
    ⟨hNames, hDescriptions, hQuery, hInfix, found, fewer, hFound,
      hFewer, Option.some.inj hMany, Option.some.inj hOne,
      hSublist⟩

end Catalog

end ModelNumber
