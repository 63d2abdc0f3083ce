import ModelNumber.Proofs.Decoding.Continuation
import ModelNumber.Proofs.Segment.Pattern

/-
  What the segments of a text are, without a scanner: the
  chunks between separators, trimmed, blank ones dropped. The
  slots of each part take the first ones, so a decode is
  complete exactly when each part by itself has enough of
  them, and then its attributes have the categories of the
  grammar.

  Main declarations:
    * `Split.mapped_categories_ofNormal`
    * `Split.Reads`
    * `Decoding.Completes`
    * `Configuration.reads_and_completes`
-/

namespace ModelNumber

------------------------------------------------------------
-- Categories
------------------------------------------------------------

/- A slot that is not absent is a category. -/
theorem slotCategory_of_ne_null
    {slot : Json}
    (hSlot : slot ≠ .null) :
    slotCategory slot = some slot := by
  unfold slotCategory
  split
  · exact (hSlot rfl).elim
  · rfl

/- The first slots of a part are given to its tokens. -/
theorem Part.filterMap_category_segments
    (part : Part)
    {slots : List Json}
    (hSlots : Json.null ∉ slots)
    (tokens : List Token) :
    (part.segments slots tokens).filterMap Segment.category =
      slots.take tokens.length := by
  induction tokens generalizing slots with
  | nil => cases slots <;> rfl
  | cons t tokens ih =>
      cases slots with
      | nil =>
          rw [List.take_nil]
          have hRest := ih hSlots
          rwa [List.take_nil] at hRest
      | cons slot slots =>
          rw [List.mem_cons, not_or] at hSlots
          rw [segments, List.filterMap_cons, segmentOfToken,
            slotCategory_of_ne_null (Ne.symm hSlots.1)]
          exact congrArg (List.cons slot) (ih hSlots.2)

namespace Split

/- There is a code for each token of a part. -/
theorem length_codes_ofNormal
    (g : Grammar)
    (s : List Char)
    (part : Part) :
    ((ofNormal g s).codes part).length =
      (part.tokens s).length := by
  rw [codes, ofPart_ofNormal, Part.segments_map_code,
    List.length_map]

/-
  The mapped categories are the first slots of each part, as
  many as it has codes.
-/
theorem mapped_categories_ofNormal
    {g : Grammar}
    (hSlots : Json.null ∉ g.categories)
    (s : List Char) :
    (ofNormal g s).pairs.map Prod.fst =
      g.modelPart.take ((ofNormal g s).codes .model).length
        ++ g.featurePart.take
          ((ofNormal g s).codes .feature).length := by
  rw [Grammar.categories, List.mem_append, not_or] at hSlots
  rw [pairs_map_fst, ofNormal_segments, List.filterMap_append,
    Part.filterMap_category_segments _ hSlots.1,
    Part.filterMap_category_segments _ hSlots.2,
    length_codes_ofNormal, length_codes_ofNormal]

/-
  How a split reads a normal form. The segments of each part
  are the matches of its pattern, and their codes the chunks
  between separators, trimmed, without blank ones: hyphens
  before the first colon, hyphens and colons behind it. The
  slots of each part are filled from the first one on.
-/
structure Reads
    (split : Split)
    (g : Grammar)
    (n : String) : Prop where
  normalized : split.normalized = n
  found : ∀ part : Part,
    (split.ofPart part).map Segment.token =
      part.pattern.findAll (part.offset n.toList)
        (part.text n.toList)
  stops : ∀ s ∈ split.segments, s.stop = s.token.stop
  model :
    split.codes .model =
      (Token.codes (· == '-') (Text.modelPart n.toList)).map
        String.ofList
  feature :
    split.codes .feature =
      ((Text.featurePart? n.toList).elim []
        (Token.codes fun c => c == '-' || c == ':')).map
        String.ofList
  categories :
    split.pairs.map Prod.fst =
      g.modelPart.take (split.codes .model).length
        ++ g.featurePart.take (split.codes .feature).length

/- A split by a grammar of categories reads its normal form. -/
theorem reads_ofNormal
    {g : Grammar}
    (hSlots : Json.null ∉ g.categories)
    (n : String) :
    (ofNormal g n.toList).Reads g n where
  normalized := by rw [ofNormal_normalized, String.ofList_toList]
  found part := by
    rw [ofPart_ofNormal, Part.segments_map_token,
      Part.findAll_pattern]
    rfl
  stops s hs := (token_of_mem_segments hs).2
  model := codes_ofNormal g n.toList .model
  feature := by
    rw [codes_ofNormal, Part.text]
    cases Text.featurePart? n.toList <;> rfl
  categories := mapped_categories_ofNormal hSlots n.toList

end Split

------------------------------------------------------------
-- Completeness
------------------------------------------------------------

/-
  A decode is complete exactly when each part has a code for
  each of its slots, and exactly when the attributes have the
  categories of the grammar, in order.
-/
structure Decoding.Completes
    (d : Decoding)
    (g : Grammar)
    (split : Split) : Prop where
  parts :
    d.isComplete = true ↔
      ∀ part : Part,
        (g.slots part).length ≤ (split.codes part).length
  categories :
    d.isComplete = true ↔
      (d.attributes.map fun a => Json.scalar a.category) =
        g.categories

/-
  Lists that are cut off are as long as they are together only
  if none of them is cut off.
-/
theorem length_append_le_take_iff
    {α : Type}
    {as bs : List α}
    {m n : Nat} :
    (as ++ bs).length ≤ (as.take m ++ bs.take n).length ↔
      as.length ≤ m ∧ bs.length ≤ n := by
  simp only [List.length_append, List.length_take]
  omega

namespace Configuration

/- The attributes of a decode have the categories of its pairs. -/
theorem Steps.attributes_categories
    {config : Configuration}
    {options : Options}
    {text : String}
    {split : Split}
    {keyed : List (Scalar × Segment)}
    {d : Decoding}
    (hSteps : config.Steps options text split keyed d) :
    (d.attributes.map fun a => Json.scalar a.category) =
      split.pairs.map Prod.fst := by
  rw [← hSteps.attributes_pairs, List.map_map]
  rfl

/- When a decode of a normal form is complete. -/
theorem Steps.completes
    {config : Configuration}
    {options : Options}
    {text : String}
    {s : List Char}
    {keyed : List (Scalar × Segment)}
    {d : Decoding}
    (hSteps :
      config.Steps options text (.ofNormal config.grammar s)
        keyed d)
    (hSlots : Json.null ∉ config.grammar.categories) :
    d.Completes config.grammar (.ofNormal config.grammar s) := by
  have hCategories := Split.mapped_categories_ofNormal hSlots s
  have hComplete :
      d.isComplete = true ↔
        config.grammar.modelPart.length ≤
            ((Split.ofNormal config.grammar s).codes
              .model).length ∧
          config.grammar.featurePart.length ≤
            ((Split.ofNormal config.grammar s).codes
              .feature).length := by
    rw [hSteps.isComplete_iff, ← length_append_le_take_iff,
      ← hCategories, List.length_map]
    rfl
  constructor
  · rw [hComplete]
    constructor
    · rintro ⟨hModel, hFeature⟩ part
      cases part with
      | model => exact hModel
      | feature => exact hFeature
    · intro hParts
      exact ⟨hParts .model, hParts .feature⟩
  · rw [hSteps.attributes_categories, hCategories, hComplete]
    constructor
    · rintro ⟨hModel, hFeature⟩
      rw [List.take_of_length_le hModel,
        List.take_of_length_le hFeature]
      rfl
    · intro hSame
      rw [← length_append_le_take_iff, hSame]
      exact Nat.le_refl _

/-
  A text is split into the trimmed chunks of its normal form,
  and its decode is complete exactly when both parts have
  enough of them. The absent value is no category.
-/
theorem reads_and_completes
    {options : Options}
    {text n : String}
    (hNormal : options.normalize text = .ok n)
    {g : Grammar}
    (hSlots : Json.null ∉ g.categories) :
    ∃ split,
      Split.ofText options g text = .ok split ∧
        split.Reads g n ∧
        ∀ config : Configuration, config.grammar = g →
          ∀ d, config.decode options text = .ok d →
            d.Completes g split := by
  have hSplit :
      Split.ofText options g text =
        .ok (.ofNormal g n.toList) := by
    rw [Split.ofText, hNormal]
    rfl
  refine ⟨_, hSplit, Split.reads_ofNormal hSlots n, ?_⟩
  rintro config rfl d hd
  rcases decode_eq_ok_iff.mp hd with ⟨_, keyed, hSteps⟩
  have hSame := hSteps.splits
  rw [hSplit] at hSame
  cases hSame
  exact hSteps.completes hSlots

/-
  As many segments as slots, but not enough of them in the
  model part.
-/
theorem reads_and_completes_rn :
    ({} : Options).normalize
          " rn-025: a-3-a-0-1-b-c-d-e-f-g-h-i" =
        .ok "RN-025: A-3-A-0-1-B-C-D-E-F-G-H-I" ∧
      Json.null ∉ Library.rn.grammar.categories ∧
      ∃ split d,
        Split.ofText {} Library.rn.grammar
            " rn-025: a-3-a-0-1-b-c-d-e-f-g-h-i" =
          .ok split ∧
        split.Reads Library.rn.grammar
          "RN-025: A-3-A-0-1-B-C-D-E-F-G-H-I" ∧
        Library.rn.decode {}
            " rn-025: a-3-a-0-1-b-c-d-e-f-g-h-i" =
          .ok d ∧
        d.Completes Library.rn.grammar split ∧
        d.isComplete = false := by
  have hNormal :
      ({} : Options).normalize
          " rn-025: a-3-a-0-1-b-c-d-e-f-g-h-i" =
        .ok "RN-025: A-3-A-0-1-B-C-D-E-F-G-H-I" :=
    rfl
  have hSlots : Json.null ∉ Library.rn.grammar.categories := by
    decide +kernel
  have hDecoded :
      ((Library.rn.decode {}
        " rn-025: a-3-a-0-1-b-c-d-e-f-g-h-i").map
          Decoding.isComplete).toOption =
        some false := by
    decide +kernel
  rcases reads_and_completes hNormal hSlots with
    ⟨split, hSplit, hReads, hCompletes⟩
  refine ⟨hNormal, hSlots, split, ?_⟩
  cases hd :
      Library.rn.decode {}
        " rn-025: a-3-a-0-1-b-c-d-e-f-g-h-i" with
  | error defect =>
      rw [hd] at hDecoded
      cases hDecoded
  | ok d =>
      rw [hd] at hDecoded
      exact
        ⟨d, hSplit, hReads, rfl,
          hCompletes Library.rn rfl d hd,
          Option.some.inj hDecoded⟩

end Configuration

end ModelNumber
