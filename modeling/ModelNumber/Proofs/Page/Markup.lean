import Mathlib.Data.List.Infix
import ModelNumber.Page.Markup

/-
  Marked characters stay text in markup, whatever they are. A
  reader who knows nothing of marks finds one box, one span for
  each mark, in order and in the style of its kind, and no tag
  besides. Outside of the tags there are no brackets, and each
  ampersand starts an entity, so that the characters can be
  read back: it does not matter what stands next to them.

  Main declarations:
    * `Markup.read` and `Markup.flatMap_spelled_read`
    * `Markup.unescape`
    * `Markup.Spells`, `Markup.spelling` and
      `Markup.toList_escape`
    * `Markup.Displays`
    * `Markup.displays_render`
    * `Markup.render_eq_render_iff`
-/

namespace ModelNumber

namespace Markup

------------------------------------------------------------
-- Reading of tags
------------------------------------------------------------

/- A piece of markup: a tag with its brackets, or text. -/
inductive Piece where
| tag (spelled : List Char)
| text (spelled : List Char)
deriving DecidableEq, Repr

namespace Piece

/- The characters of a piece. -/
def spelled : Piece → List Char
| .tag s => s
| .text s => s

/- A tag is spelled by its characters. -/
theorem spelled_tag
    (s : List Char) :
    (Piece.tag s).spelled = s :=
  rfl

/- Text is spelled by its characters. -/
theorem spelled_text
    (s : List Char) :
    (Piece.text s).spelled = s :=
  rfl

/- The characters of a piece, if it is no tag. -/
def untagged : Piece → List Char
| .tag _ => []
| .text s => s

end Piece

/- Text that has been read. No text is no piece. -/
def textOf : List Char → List Piece
| [] => []
| c :: s => [.text (c :: s)]

/-
  Read on, in a tag or in text, of which the given characters
  have been read. A tag starts with an opening bracket and
  stops with the next closing one, or else with the markup.
-/
def readFrom
    (inTag : Bool)
    (seen : List Char) : List Char → List Piece
| [] => if inTag then [.tag seen] else textOf seen
| c :: s =>
    if inTag then
      if c = '>' then
        .tag (seen ++ [c]) :: readFrom false [] s
      else
        readFrom true (seen ++ [c]) s
    else if c = '<' then
      textOf seen ++ readFrom true [c] s
    else
      readFrom false (seen ++ [c]) s

/- The tags of markup, and the texts between them. -/
def read (s : List Char) : List Piece :=
  readFrom false [] s

/- What remains of markup when the tags are removed. -/
def untagged (s : List Char) : List Char :=
  (read s).flatMap Piece.untagged

/- The text that has been read is spelled by its piece. -/
theorem flatMap_spelled_textOf
    (s : List Char) :
    (textOf s).flatMap Piece.spelled = s := by
  cases s with
  | nil => rfl
  | cons c s => exact List.flatMap_singleton _ _

/- No character gets lost when a reader goes on. -/
theorem flatMap_spelled_readFrom
    (inTag : Bool)
    (seen s : List Char) :
    (readFrom inTag seen s).flatMap Piece.spelled =
      seen ++ s := by
  -- Each character either joins what has been seen or ends it.
  induction s generalizing inTag seen with
  | nil =>
      cases inTag with
      | true => simp [readFrom, Piece.spelled]
      | false => simp [readFrom, flatMap_spelled_textOf]
  | cons c s ih =>
      cases inTag with
      | true =>
          by_cases hClose : c = '>'
          · simp [readFrom, hClose, Piece.spelled, ih]
          · simp [readFrom, hClose, ih]
      | false =>
          by_cases hOpen : c = '<'
          · simp [readFrom, hOpen, flatMap_spelled_textOf, ih]
          · simp [readFrom, hOpen, ih]

/- Markup is made up of the pieces that are read in it. -/
theorem flatMap_spelled_read
    (s : List Char) :
    (read s).flatMap Piece.spelled = s :=
  flatMap_spelled_readFrom false [] s

/- A tag goes on up to a closing bracket. -/
theorem readFrom_tag
    {inner : List Char}
    (hInner : '>' ∉ inner)
    (seen rest : List Char) :
    readFrom true seen (inner ++ '>' :: rest) =
      .tag (seen ++ (inner ++ ['>'])) :: read rest := by
  induction inner generalizing seen with
  | nil => simp [readFrom, read]
  | cons c inner ih =>
      rw [List.mem_cons, not_or] at hInner
      rw [List.cons_append, readFrom, if_pos rfl,
        if_neg (Ne.symm hInner.1), ih hInner.2,
        List.append_assoc]
      rfl

/- Text goes on up to an opening bracket. -/
theorem readFrom_text
    {s : List Char}
    (hText : '<' ∉ s)
    (seen rest : List Char) :
    readFrom false seen (s ++ rest) =
      readFrom false (seen ++ s) rest := by
  induction s generalizing seen with
  | nil => rw [List.nil_append, List.append_nil]
  | cons c s ih =>
      rw [List.mem_cons, not_or] at hText
      rw [List.cons_append, readFrom, if_neg Bool.false_ne_true,
        if_neg (Ne.symm hText.1), ih hText.2,
        List.append_assoc]
      rfl

/- A tag has brackets around it, and no others. -/
def IsTag (s : List Char) : Prop :=
  ∃ inner,
    s = '<' :: (inner ++ ['>']) ∧ '<' ∉ inner ∧ '>' ∉ inner

/- A tag is read after a text. -/
theorem readFrom_text_tag
    {t : List Char}
    (hTag : IsTag t)
    (seen rest : List Char) :
    readFrom false seen (t ++ rest) =
      textOf seen ++ .tag t :: read rest := by
  rcases hTag with ⟨inner, rfl, _, hClosed⟩
  rw [List.cons_append, List.append_assoc, List.singleton_append,
    readFrom, if_neg Bool.false_ne_true, if_pos rfl,
    readFrom_tag hClosed]
  rfl

/- A tag is read, and then the rest. -/
theorem read_tag
    {t : List Char}
    (hTag : IsTag t)
    (rest : List Char) :
    read (t ++ rest) = .tag t :: read rest :=
  readFrom_text_tag hTag [] rest

/- A text is read up to a tag, and then the rest. -/
theorem read_text_tag
    {s t : List Char}
    (hSome : s ≠ [])
    (hText : '<' ∉ s)
    (hTag : IsTag t)
    (rest : List Char) :
    read (s ++ (t ++ rest)) = .text s :: .tag t :: read rest := by
  rw [read, readFrom_text hText, List.nil_append,
    readFrom_text_tag hTag]
  cases s with
  | nil => exact absurd rfl hSome
  | cons c s => rfl

------------------------------------------------------------
-- Entities
------------------------------------------------------------

/- The entities, and the characters that they stand for. -/
def entities : List (List Char × Char) :=
  [(['&', 'a', 'm', 'p', ';'], '&'),
    (['&', 'l', 't', ';'], '<'),
    (['&', 'g', 't', ';'], '>'),
    (['&', 'q', 'u', 'o', 't', ';'], '"'),
    (['&', '#', 'x', '2', '7', ';'], '\'')]

/- Undo the escapes: an entity counts as its character. -/
def unescape : List Char → List Char
| [] => []
| c :: s =>
    match entities.find? fun e => e.1.isPrefixOf (c :: s) with
    | some e => e.2 :: unescape (s.drop (e.1.length - 1))
    | none => c :: unescape s
termination_by s => s.length
decreasing_by
  all_goals
    simp only [List.length_cons, List.length_drop]
    omega

/- An entity in front is undone, whatever comes after it. -/
theorem unescape_entity
    {e : List Char × Char}
    (he : e ∈ entities)
    (rest : List Char) :
    unescape (e.1 ++ rest) = e.2 :: unescape rest := by
  simp only [entities, List.mem_cons, List.not_mem_nil, or_false]
    at he
  rcases he with rfl | rfl | rfl | rfl | rfl <;>
    simp [unescape, entities, List.isPrefixOf]

/- A character in front stays if it starts no entity. -/
theorem unescape_cons_of_ne
    {c : Char}
    (hc : c ≠ '&')
    (rest : List Char) :
    unescape (c :: rest) = c :: unescape rest := by
  have hNone :
      (entities.find? fun e => e.1.isPrefixOf (c :: rest)) =
        none := by
    simp [entities, List.isPrefixOf, Ne.symm hc]
  rw [unescape, hNone]

/- Each ampersand of a text starts an entity. -/
def StartsEntities (s : List Char) : Prop :=
  ∀ rest,
    '&' :: rest <:+ s → ∃ e ∈ entities, e.1 <+: '&' :: rest

/- Without ampersands there is nothing to start an entity. -/
theorem startsEntities_of_not_mem
    {s : List Char}
    (hNone : '&' ∉ s) :
    StartsEntities s := by
  intro rest hRest
  exact absurd (hRest.subset List.mem_cons_self) hNone

/- Entities go on in a longer text, and in a text behind it. -/
theorem StartsEntities.append
    {s t : List Char}
    (hs : StartsEntities s)
    (ht : StartsEntities t) :
    StartsEntities (s ++ t) := by
  intro rest hRest
  induction s with
  | nil => exact ht rest hRest
  | cons c s ih =>
      rcases List.suffix_cons_iff.mp hRest with hHere | hLater
      · -- The ampersand is `c`, and its entity lies in `c :: s`.
        rcases List.cons.inj hHere with ⟨rfl, rfl⟩
        rcases hs s List.suffix_rfl with ⟨e, he, hStarts⟩
        exact ⟨e, he, hStarts.trans (List.prefix_append _ t)⟩
      · have hTail : StartsEntities s := fun r hr =>
          hs r (hr.trans (List.suffix_cons c s))
        exact ih hTail hLater

/- Texts whose ampersands start entities do so together. -/
theorem StartsEntities.flatMap
    {α : Type}
    {f : α → List Char}
    {as : List α}
    (hAll : ∀ a ∈ as, StartsEntities (f a)) :
    StartsEntities (as.flatMap f) := by
  induction as with
  | nil => exact startsEntities_of_not_mem List.not_mem_nil
  | cons a as ih =>
      rw [List.forall_mem_cons] at hAll
      rw [List.flatMap_cons]
      exact hAll.1.append (ih hAll.2)

/- The ampersand of an entity starts it. -/
theorem startsEntities_entity
    {e : List Char × Char}
    (he : e ∈ entities) :
    StartsEntities e.1 := by
  have hShape :
      ∀ e ∈ entities, e.1.head? = some '&' ∧ '&' ∉ e.1.tail := by
    decide
  rcases hShape e he with ⟨hHead, hTail⟩
  have hCons : e.1 = '&' :: e.1.tail :=
    List.eq_cons_of_mem_head? hHead
  intro rest hRest
  rw [hCons] at hRest
  rcases List.suffix_cons_iff.mp hRest with hWhole | hLater
  · exact ⟨e, he, by rw [hWhole, ← hCons]⟩
  · exact absurd (hLater.subset List.mem_cons_self) hTail

------------------------------------------------------------
-- Characters in markup
------------------------------------------------------------

/-
  Text spells a character: it is the entity that stands for
  it, or the character itself if there is no entity for it.
-/
def Spells
    (s : List Char)
    (c : Char) : Prop :=
  (s, c) ∈ entities ∨ s = [c] ∧ c ∉ entities.map Prod.snd

/- How a character is spelled in markup. -/
def spelling (c : Char) : List Char :=
  match entities.find? fun e => e.2 == c with
  | some e => e.1
  | none => [c]

/- The spelling of a character spells it. -/
theorem spells_spelling
    (c : Char) :
    Spells (spelling c) c := by
  rw [spelling]
  cases hFind : entities.find? fun e => e.2 == c with
  | some e =>
      have hTest := List.find?_some hFind
      rw [← eq_of_beq hTest]
      exact .inl (List.mem_of_find?_eq_some hFind)
  | none =>
      refine .inr ⟨rfl, ?_⟩
      intro hMem
      rcases List.mem_map.mp hMem with ⟨e, he, rfl⟩
      exact List.find?_eq_none.mp hFind e he BEq.rfl

/- An escaped character is the spelling of the character. -/
theorem toList_escape
    (c : Char) :
    (escape c).toList = spelling c := by
  by_cases hSpecial : c ∈ entities.map Prod.snd
  · have hAll :
        ∀ e ∈ entities, (escape e.2).toList = spelling e.2 := by
      decide +kernel
    rcases List.mem_map.mp hSpecial with ⟨e, he, rfl⟩
    exact hAll e he
  · have hNone : (entities.find? fun e => e.2 == c) = none := by
      rw [List.find?_eq_none]
      intro e he hTest
      exact hSpecial (List.mem_map.mpr ⟨e, he, eq_of_beq hTest⟩)
    simp only [entities, List.map_cons, List.map_nil,
      List.mem_cons, List.not_mem_nil, or_false, not_or]
      at hSpecial
    rcases hSpecial with
      ⟨hAmpersand, hLess, hGreater, hQuote, hApostrophe⟩
    rw [spelling, hNone, escape, if_neg hAmpersand, if_neg hLess,
      if_neg hGreater, if_neg hQuote, if_neg hApostrophe]
    exact String.toList_singleton c

namespace Spells

variable {s : List Char} {c : Char}

/- A character is not spelled by nothing. -/
theorem ne_nil
    (hSpells : Spells s c) :
    s ≠ [] := by
  rcases hSpells with hEntity | ⟨rfl, _⟩
  · have hSome : ∀ e ∈ entities, e.1 ≠ [] := by decide
    exact hSome _ hEntity
  · exact List.cons_ne_nil c []

/- A character is spelled without brackets. -/
theorem brackets_not_mem
    (hSpells : Spells s c) :
    '<' ∉ s ∧ '>' ∉ s := by
  rcases hSpells with hEntity | ⟨rfl, hPlain⟩
  · have hNone : ∀ e ∈ entities, '<' ∉ e.1 ∧ '>' ∉ e.1 := by
      decide
    exact hNone _ hEntity
  · constructor <;>
      · rw [List.mem_singleton]
        rintro rfl
        exact hPlain (by decide)

/- A character is spelled with an ampersand only in an entity. -/
theorem startsEntities
    (hSpells : Spells s c) :
    StartsEntities s := by
  rcases hSpells with hEntity | ⟨rfl, hPlain⟩
  · exact startsEntities_entity hEntity
  · apply startsEntities_of_not_mem
    rw [List.mem_singleton]
    rintro rfl
    exact hPlain (by decide)

/- What spells a character is undone, whatever comes after it. -/
theorem unescape_append
    (hSpells : Spells s c)
    (rest : List Char) :
    unescape (s ++ rest) = c :: unescape rest := by
  rcases hSpells with hEntity | ⟨rfl, hPlain⟩
  · exact unescape_entity hEntity rest
  · apply unescape_cons_of_ne
    rintro rfl
    exact hPlain (by decide)

end Spells

/- Spelled characters can be told apart, whatever they are. -/
theorem unescape_flatMap_spelling
    (cs : List Char) :
    unescape (cs.flatMap spelling) = cs := by
  induction cs with
  | nil => rw [List.flatMap_nil, unescape]
  | cons c cs ih =>
      rw [List.flatMap_cons, (spells_spelling c).unescape_append,
        ih]

------------------------------------------------------------
-- Tags of marks
------------------------------------------------------------

/- The start of the span of a mark. -/
def spanStart (k : MarkKind) : List Char :=
  ("<span style=\"" ++ style k ++ "\">").toList

/- The end of the span of a mark. -/
def spanEnd : List Char :=
  "</span>".toList

/- The tags around marks. -/
def tags : List (List Char) :=
  [boxStart.toList, boxEnd.toList, spanEnd,
    spanStart .highlighted, spanStart .separator,
    spanStart .plain]

/- The start of the box is one of the tags. -/
theorem boxStart_mem_tags :
    boxStart.toList ∈ tags :=
  .head _

/- The end of the box is one of the tags. -/
theorem boxEnd_mem_tags :
    boxEnd.toList ∈ tags :=
  .tail _ (.head _)

/- The end of a span is one of the tags. -/
theorem spanEnd_mem_tags :
    spanEnd ∈ tags :=
  .tail _ (.tail _ (.head _))

/- The start of a span is one of the tags. -/
theorem spanStart_mem_tags
    (k : MarkKind) :
    spanStart k ∈ tags := by
  refine .tail _ (.tail _ (.tail _ ?_))
  cases k with
  | highlighted => exact .head _
  | separator => exact .tail _ (.head _)
  | plain => exact .tail _ (.tail _ (.head _))

/- The tags around marks are tags, and have no ampersands. -/
theorem isTag_of_mem_tags
    {t : List Char}
    (ht : t ∈ tags) :
    IsTag t ∧ '&' ∉ t := by
  have hShape :
      ∀ t ∈ tags,
        (t = '<' :: (t.tail.dropLast ++ ['>']) ∧
            '<' ∉ t.tail.dropLast ∧ '>' ∉ t.tail.dropLast) ∧
          '&' ∉ t := by
    decide +kernel
  rcases hShape t ht with ⟨hTag, hAmpersand⟩
  exact ⟨⟨t.tail.dropLast, hTag⟩, hAmpersand⟩

/- Spans of different kinds start in different ways. -/
theorem spanStart_injective :
    Function.Injective spanStart := by
  intro k l hSame
  have hStyle : style k = style l :=
    (String.append_right_inj _).mp
      ((String.append_left_inj _).mp (String.toList_inj.mp hSame))
  revert hStyle
  cases k <;> cases l <;> simp [style]

/- The span of a mark, in pieces. -/
def element (m : Mark) : List Piece :=
  [Piece.tag (spanStart m.kind), Piece.text (spelling m.char),
    Piece.tag spanEnd]

/- The spans of marks in the box, in pieces. -/
def boxed (ms : List Mark) : List Piece :=
  Piece.tag boxStart.toList ::
    (ms.flatMap element ++ [Piece.tag boxEnd.toList])

/- A piece of boxed marks is a tag, or it spells a character. -/
theorem mem_boxed_cases
    {ms : List Mark}
    {p : Piece}
    (hp : p ∈ boxed ms) :
    (∃ t ∈ tags, p = .tag t) ∨
      ∃ s c, Spells s c ∧ p = .text s := by
  simp only [boxed, element, List.mem_cons, List.mem_append,
    List.mem_flatMap, List.not_mem_nil, or_false] at hp
  rcases hp with rfl | ⟨m, _, rfl | rfl | rfl⟩ | rfl
  · exact .inl ⟨_, boxStart_mem_tags, rfl⟩
  · exact .inl ⟨_, spanStart_mem_tags m.kind, rfl⟩
  · exact .inr ⟨_, m.char, spells_spelling m.char, rfl⟩
  · exact .inl ⟨_, spanEnd_mem_tags, rfl⟩
  · exact .inl ⟨_, boxEnd_mem_tags, rfl⟩

------------------------------------------------------------
-- Display of marks
------------------------------------------------------------

/- A span is written as its pieces. -/
theorem flatMap_spelled_element
    (m : Mark) :
    (element m).flatMap Piece.spelled =
      spanStart m.kind ++ (spelling m.char ++ spanEnd) := by
  rw [element, List.flatMap_cons, List.flatMap_cons,
    List.flatMap_singleton, Piece.spelled_tag,
    Piece.spelled_text, Piece.spelled_tag]

/- The box is written around its spans. -/
theorem flatMap_spelled_boxed
    (ms : List Mark) :
    (boxed ms).flatMap Piece.spelled =
      boxStart.toList ++
        ((ms.flatMap element).flatMap Piece.spelled
          ++ boxEnd.toList) := by
  rw [boxed, List.flatMap_cons, List.flatMap_append,
    List.flatMap_singleton, Piece.spelled_tag,
    Piece.spelled_tag]

/- A span is the text of its pieces. -/
theorem toList_span
    (m : Mark) :
    (span m).toList = (element m).flatMap Piece.spelled := by
  rw [flatMap_spelled_element]
  unfold span spanStart spanEnd
  rw [String.toList_append,
    String.toList_append (t := escape m.char), toList_escape,
    List.append_assoc]

/- Marks in a box are the text of their pieces. -/
theorem toList_render
    (ms : List Mark) :
    (render ms).toList = (boxed ms).flatMap Piece.spelled := by
  rw [flatMap_spelled_boxed, List.flatMap_assoc, render,
    String.toList_append, String.toList_append,
    String.toList_join, List.flatMap_map, List.append_assoc]
  simp only [toList_span]

/- The span of a mark is read in front of other markup. -/
theorem read_element
    (m : Mark)
    (rest : List Char) :
    read ((element m).flatMap Piece.spelled ++ rest) =
      element m ++ read rest := by
  have hStart := (isTag_of_mem_tags (spanStart_mem_tags m.kind)).1
  have hEnd := (isTag_of_mem_tags spanEnd_mem_tags).1
  have hSpells := spells_spelling m.char
  rw [flatMap_spelled_element, List.append_assoc,
    List.append_assoc, read_tag hStart,
    read_text_tag hSpells.ne_nil hSpells.brackets_not_mem.1 hEnd]
  rfl

/- The spans of marks are read in front of other markup. -/
theorem read_elements
    (ms : List Mark)
    (rest : List Char) :
    read ((ms.flatMap element).flatMap Piece.spelled ++ rest) =
      ms.flatMap element ++ read rest := by
  induction ms with
  | nil => rfl
  | cons m ms ih =>
      rw [List.flatMap_cons, List.flatMap_append,
        List.append_assoc, read_element, ih, List.append_assoc]

/- A reader finds the pieces of boxed marks. -/
theorem read_boxed
    (ms : List Mark) :
    read ((boxed ms).flatMap Piece.spelled) = boxed ms := by
  have hStart := (isTag_of_mem_tags boxStart_mem_tags).1
  have hEnd := (isTag_of_mem_tags boxEnd_mem_tags).1
  have hLast : read boxEnd.toList = [.tag boxEnd.toList] := by
    have hRead := read_tag hEnd []
    rwa [List.append_nil] at hRead
  rw [flatMap_spelled_boxed, read_tag hStart, read_elements,
    hLast, boxed]

/- What remains of boxed marks is the spelling of characters. -/
theorem flatMap_untagged_boxed
    (ms : List Mark) :
    (boxed ms).flatMap Piece.untagged =
      (ms.map Mark.char).flatMap spelling := by
  simp [boxed, element, Piece.untagged, List.flatMap_assoc,
    List.flatMap_map]

/-
  Markup displays marks. It is written as the box with one span
  for each mark, and a reader finds just that. Every bracket
  belongs to one of the tags, every ampersand starts an entity,
  and what remains without tags and escapes is the characters.
-/
structure Displays
    (ms : List Mark)
    (shown : List Char) : Prop where
  written : shown = (boxed ms).flatMap Piece.spelled
  found : read shown = boxed ms
  brackets :
    ∀ p ∈ read shown,
      '<' ∈ p.spelled ∨ '>' ∈ p.spelled →
        ∃ t ∈ tags, p = .tag t
  ampersands : StartsEntities shown
  characters : unescape (untagged shown) = ms.map Mark.char

/- Marks of any characters are displayed. -/
theorem displays_render
    (ms : List Mark) :
    Displays ms (render ms).toList := by
  have hFound : read (render ms).toList = boxed ms := by
    rw [toList_render, read_boxed]
  refine ⟨?_, hFound, ?_, ?_, ?_⟩
  · rw [← hFound, flatMap_spelled_read]
  · intro p hp hBracket
    rw [hFound] at hp
    rcases mem_boxed_cases hp with hTag | ⟨s, c, hSpells, rfl⟩
    · exact hTag
    · rcases hSpells.brackets_not_mem with ⟨hOpen, hClose⟩
      exact (hBracket.elim hOpen hClose).elim
  · rw [toList_render]
    apply StartsEntities.flatMap
    intro p hp
    rcases mem_boxed_cases hp with
      ⟨t, ht, rfl⟩ | ⟨s, c, hSpells, rfl⟩
    · exact startsEntities_of_not_mem (isTag_of_mem_tags ht).2
    · exact hSpells.startsEntities
  · rw [untagged, hFound, flatMap_untagged_boxed,
      unescape_flatMap_spelling]

/- Equal spans belong to marks of equal kinds. -/
theorem map_kind_of_flatMap_element
    {ms ns : List Mark}
    (hSame : ms.flatMap element = ns.flatMap element) :
    ms.map Mark.kind = ns.map Mark.kind := by
  induction ms generalizing ns with
  | nil =>
      cases ns with
      | nil => rfl
      | cons n ns => exact absurd hSame (by simp [element])
  | cons m ms ih =>
      cases ns with
      | nil => exact absurd hSame (by simp [element])
      | cons n ns =>
          rw [List.flatMap_cons, List.flatMap_cons] at hSame
          rcases List.append_inj hSame rfl with ⟨hHead, hTail⟩
          have hStart := Piece.tag.inj (List.cons.inj hHead).1
          rw [List.map_cons, List.map_cons, ih hTail,
            spanStart_injective hStart]

/- What is shown of marks is their characters and kinds. -/
theorem render_congr
    {ms ns : List Mark}
    (hChars : ms.map Mark.char = ns.map Mark.char)
    (hKinds : ms.map Mark.kind = ns.map Mark.kind) :
    render ms = render ns := by
  have hSpans :
      ∀ ms : List Mark,
        ms.map span =
          List.zipWith (fun c k => span ⟨0, c, k⟩)
            (ms.map Mark.char) (ms.map Mark.kind) := by
    intro ms
    rw [List.zipWith_map, List.zipWith_self]
    rfl
  rw [render, render, hSpans ms, hSpans ns, hChars, hKinds]

/- Marks are told apart by their characters and kinds. -/
theorem render_eq_render_iff
    {ms ns : List Mark} :
    render ms = render ns ↔
      ms.map Mark.char = ns.map Mark.char ∧
        ms.map Mark.kind = ns.map Mark.kind := by
  constructor
  · intro hSame
    have hMs := displays_render ms
    have hNs := displays_render ns
    rw [hSame] at hMs
    refine ⟨hMs.characters.symm.trans hNs.characters, ?_⟩
    have hBoxed : boxed ms = boxed ns :=
      hMs.found.symm.trans hNs.found
    exact
      map_kind_of_flatMap_element
        (List.append_cancel_right (List.cons.inj hBoxed).2)
  · rintro ⟨hChars, hKinds⟩
    exact render_congr hChars hKinds

end Markup

end ModelNumber
