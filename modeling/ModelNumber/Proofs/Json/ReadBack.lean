import Mathlib.Data.List.Forall2
import ModelNumber.Proofs.Json.Number
import ModelNumber.Proofs.Json.Text
import ModelNumber.Proofs.OrderedMap

/-
  Reading a document undoes writing it. The values are those
  without floating-point numbers and without numbers that are
  too long, in which no object has two fields of one name. In
  any form with the usual separators, the reader takes just
  the text of a value and gives the value back.

  Main declarations:
    * `Json.IsReadable` and `Json.Form.IsReadable`
    * `Json.Spells`
    * `Json.Reader.items_intercalate`
    * `Json.Reader.members_intercalate`
    * `Json.spells_printAt`
    * `Json.parse_print`
-/

namespace ModelNumber

------------------------------------------------------------
-- Values that can be read back
------------------------------------------------------------

/- A scalar is no floating-point number and not too long. -/
def Scalar.IsReadable : Scalar → Prop
| .int n => Json.IsShort n
| .float _ => False
| _ => True

namespace Json

/-
  All scalars of a value can be read back, and the fields of
  its objects have different names.
-/
inductive IsReadable : Json → Prop
| scalar
    {s : Scalar}
    (h : s.IsReadable) : IsReadable (.scalar s)
| arr
    {items : List Json}
    (h : ∀ v ∈ items, IsReadable v) : IsReadable (.arr items)
| obj
    {fields : List (String × Json)}
    (hNames : (fields.map Prod.fst).Nodup)
    (h : ∀ f ∈ fields, IsReadable f.2) :
    IsReadable (.obj fields)

/- A separator is a mark with a gap behind it, or without. -/
def IsSeparator
    (mark : Char)
    (separator : String) : Prop :=
  ∃ gap,
    separator.toList = mark :: gap ∧
      ∀ c ∈ gap, Reader.isGap c = true

/- The separators of a form are those that are read. -/
structure Form.IsReadable (form : Form) : Prop where
  items : IsSeparator ',' form.itemSeparator
  names : IsSeparator ':' form.nameSeparator

/-
  A text spells a value: it starts with what can start one,
  and the reader takes it, and no more, for the value.
-/
structure Spells
    (s : List Char)
    (v : Json) : Prop where
  starts :
    ∃ c, s.head? = some c ∧ Reader.isGap c = false ∧ c ≠ ']'
  value :
    ∀ fuel rest,
      2 * s.length ≤ fuel → Reader.Stops rest →
        Reader.value fuel (s ++ rest) = .ok (v, rest)

namespace Reader

------------------------------------------------------------
-- Gaps
------------------------------------------------------------

section Gaps

variable {gap s : List Char}

/- Nothing is skipped where there is no gap. -/
theorem skipGap_eq_self
    {c : Char}
    (hHead : s.head? = some c)
    (hc : isGap c = false) :
    skipGap s = s := by
  cases s with
  | nil => rfl
  | cons d s =>
      cases hHead
      rw [skipGap, List.dropWhile_cons, hc]
      rfl

/- A gap is skipped up to what is no gap. -/
theorem skipGap_append
    (hGap : ∀ c ∈ gap, isGap c = true)
    {c : Char}
    (hHead : s.head? = some c)
    (hc : isGap c = false) :
    skipGap (gap ++ s) = s := by
  rw [skipGap, List.dropWhile_append_of_pos hGap]
  exact skipGap_eq_self hHead hc

/- A gap goes on with no number. -/
theorem stops_append
    (hGap : ∀ c ∈ gap, isGap c = true)
    (hStops : Stops s) :
    Stops (gap ++ s) := by
  cases gap with
  | nil => exact hStops
  | cons c gap =>
      refine stops_cons ?_ _
      have hc := hGap c List.mem_cons_self
      simp only [isGap, Bool.or_eq_true, beq_iff_eq] at hc
      rcases hc with ((rfl | rfl) | rfl) | rfl <;> decide

end Gaps

------------------------------------------------------------
-- Items and fields
------------------------------------------------------------

section Parts

variable {fuel : Nat} {s r tail rest : List Char} {v : Json}

/- A value in front of a closing bracket is the last item. -/
theorem items_last
    (hValue : value fuel s = .ok (v, r))
    (hEnd : skipGap r = ']' :: rest) :
    items (fuel + 1) s = .ok ([v], rest) := by
  rw [items, hValue]
  simp only [bind, Except.bind, hEnd]
  rfl

/- A value in front of a comma is followed by other items. -/
theorem items_more
    {vs : List Json}
    (hValue : value fuel s = .ok (v, r))
    (hComma : skipGap r = ',' :: tail)
    (hMore : items fuel (skipGap tail) = .ok (vs, rest)) :
    items (fuel + 1) s = .ok (v :: vs, rest) := by
  rw [items, hValue]
  simp only [bind, Except.bind, hComma, hMore]
  rfl

variable {name : String} {named : List Char}

/- A field in front of a closing brace is the last one. -/
theorem members_last
    (hName : text s = .ok (name, named))
    (hColon : skipGap named = ':' :: tail)
    (hValue : value fuel (skipGap tail) = .ok (v, r))
    (hEnd : skipGap r = '\x7d' :: rest) :
    members (fuel + 1) ('"' :: s) = .ok ([(name, v)], rest) := by
  rw [members]
  simp only [bind, Except.bind, hName, hColon, hValue, hEnd]
  rfl

/- A field in front of a comma is followed by other fields. -/
theorem members_more
    {fs : List (String × Json)}
    {next : List Char}
    (hName : text s = .ok (name, named))
    (hColon : skipGap named = ':' :: tail)
    (hValue : value fuel (skipGap tail) = .ok (v, r))
    (hComma : skipGap r = ',' :: next)
    (hMore : members fuel (skipGap next) = .ok (fs, rest)) :
    members (fuel + 1) ('"' :: s) =
      .ok ((name, v) :: fs, rest) := by
  rw [members]
  simp only [bind, Except.bind, hName, hColon, hValue, hComma,
    hMore]
  rfl

/- Joined texts start as the first one does. -/
theorem head?_intercalate
    {c : Char}
    {t : List Char}
    (hHead : t.head? = some c)
    (separator : List Char)
    (texts : List (List Char))
    (s : List Char) :
    (separator.intercalate (t :: texts) ++ s).head? = some c := by
  cases t with
  | nil => cases hHead
  | cons d t =>
      cases hHead
      cases texts <;> rfl

variable {gap close : List Char}

/- The items of a list are read up to its closing bracket. -/
theorem items_intercalate
    (hGap : ∀ c ∈ gap, isGap c = true)
    (hClose : ∀ c ∈ close, isGap c = true)
    {texts : List (List Char)}
    {vs : List Json}
    (hSpells : List.Forall₂ Spells texts vs)
    (hSome : texts ≠ [])
    {fuel : Nat}
    (hFuel :
      2 * ((',' :: gap).intercalate texts).length + 1 ≤ fuel) :
    items fuel
        ((',' :: gap).intercalate texts ++ (close ++ ']' :: rest)) =
      .ok (vs, rest) := by
  induction hSpells generalizing fuel with
  | nil => exact absurd rfl hSome
  | @cons t v texts vs hFirst hSpells ih =>
      cases fuel with
      | zero => exact absurd hFuel (Nat.not_succ_le_zero _)
      | succ fuel =>
          cases hSpells with
          | nil =>
              rw [List.intercalate_singleton] at hFuel ⊢
              refine items_last
                (hFirst.value fuel _ (by omega) ?_)
                (skipGap_append hClose rfl rfl)
              exact stops_append hClose
                (stops_cons (by decide) rest)
          | @cons u w texts vs hSecond hSpells =>
              rw [List.intercalate_cons_cons] at hFuel ⊢
              rw [List.length_append, List.length_append,
                List.length_cons] at hFuel
              rw [List.append_assoc, List.append_assoc,
                List.cons_append]
              rcases hSecond.starts with ⟨c, hHead, hc, _⟩
              refine items_more
                (hFirst.value fuel _ (by omega)
                  (stops_cons (by decide) _)) rfl ?_
              rw [skipGap_append hGap
                (head?_intercalate hHead _ _ _) hc]
              exact ih (List.cons_ne_nil _ _) (by omega)

/- The text of a field: its name, a colon, and its value. -/
def SpellsField
    (form : Form)
    (s : List Char)
    (field : String × Json) : Prop :=
  ∃ gap t,
    s = (printText form field.1).toList ++ ':' :: (gap ++ t) ∧
      (∀ c ∈ gap, isGap c = true) ∧ Spells t field.2

/- The text of a field is read name first and value last. -/
theorem SpellsField.exists_reads
    {form : Form}
    {field : String × Json}
    (hField : SpellsField form s field)
    (hFuel : 2 * s.length ≤ fuel)
    (hStops : Stops r) :
    ∃ body named tail,
      s ++ r = '"' :: body ∧
        text body = .ok (field.1, named) ∧
        skipGap named = ':' :: tail ∧
        value fuel (skipGap tail) = .ok (field.2, r) := by
  rcases hField with ⟨gap, t, rfl, hGap, hSpells⟩
  rcases exists_printText form field.1 (':' :: (gap ++ (t ++ r)))
    with ⟨body, hBody, hText⟩
  rcases hSpells.starts with ⟨c, hHead, hc, _⟩
  have hFirst : (t ++ r).head? = some c := by
    rw [List.head?_append, hHead]
    rfl
  refine ⟨body, _, gap ++ (t ++ r), ?_, hText, rfl, ?_⟩
  · rw [← hBody, List.append_assoc, List.cons_append,
      List.append_assoc]
  · rw [skipGap_append hGap hFirst hc]
    rw [List.length_append, List.length_cons,
      List.length_append] at hFuel
    exact hSpells.value fuel r (by omega) hStops

/- The text of a field starts with a quote. -/
theorem SpellsField.head?_eq
    {form : Form}
    {field : String × Json}
    (hField : SpellsField form s field) :
    s.head? = some '"' := by
  rcases hField with ⟨gap, t, rfl, _⟩
  rcases exists_printText form field.1 (':' :: (gap ++ t)) with
    ⟨body, hBody, _⟩
  rw [hBody]
  rfl

/- The fields of an object are read up to its closing brace. -/
theorem members_intercalate
    {form : Form}
    (hGap : ∀ c ∈ gap, isGap c = true)
    (hClose : ∀ c ∈ close, isGap c = true)
    {texts : List (List Char)}
    {fields : List (String × Json)}
    (hSpells : List.Forall₂ (SpellsField form) texts fields)
    (hSome : texts ≠ [])
    {fuel : Nat}
    (hFuel :
      2 * ((',' :: gap).intercalate texts).length + 1 ≤ fuel) :
    members fuel
        ((',' :: gap).intercalate texts
          ++ (close ++ '\x7d' :: rest)) =
      .ok (fields, rest) := by
  induction hSpells generalizing fuel with
  | nil => exact absurd rfl hSome
  | @cons t f texts fields hFirst hSpells ih =>
      cases fuel with
      | zero => exact absurd hFuel (Nat.not_succ_le_zero _)
      | succ fuel =>
          cases hSpells with
          | nil =>
              rw [List.intercalate_singleton] at hFuel ⊢
              have hFit : 2 * t.length ≤ fuel := by omega
              have hEnd : Stops (close ++ '\x7d' :: rest) :=
                stops_append hClose (stops_cons (by decide) rest)
              rcases hFirst.exists_reads hFit hEnd with
                ⟨body, named, tail, hBody, hName, hColon,
                  hValue⟩
              rw [hBody]
              exact members_last hName hColon hValue
                (skipGap_append hClose rfl rfl)
          | @cons u w texts fields hSecond hSpells =>
              rw [List.intercalate_cons_cons] at hFuel ⊢
              rw [List.length_append, List.length_append,
                List.length_cons] at hFuel
              rw [List.append_assoc, List.append_assoc,
                List.cons_append]
              have hFit : 2 * t.length ≤ fuel := by omega
              have hComma : ∀ s, Stops (',' :: s) :=
                stops_cons (by decide)
              rcases hFirst.exists_reads hFit (hComma _) with
                ⟨body, named, tail, hBody, hName, hColon,
                  hValue⟩
              rw [hBody]
              refine members_more hName hColon hValue rfl ?_
              rw [skipGap_append hGap
                (head?_intercalate hSecond.head?_eq _ _ _) rfl]
              exact ih (List.cons_ne_nil _ _) (by omega)

end Parts

end Reader

------------------------------------------------------------
-- Written scalars
------------------------------------------------------------

/- What no bracket, brace or quote starts is read as an atom. -/
theorem Reader.value_eq_atom
    {s : List Char}
    {c : Char}
    (hHead : s.head? = some c)
    (hStart : c ≠ '"' ∧ c ≠ '[' ∧ c ≠ '\x7b')
    (fuel : Nat) :
    value (fuel + 1) s = atom s := by
  unfold value
  split
  · cases hHead
    exact absurd rfl hStart.1
  · cases hHead
    exact absurd rfl hStart.2.1
  · cases hHead
    exact absurd rfl hStart.2.2
  · rfl

/- A text that is read as an atom spells it. -/
theorem spells_of_atom
    {s : List Char}
    {v : Json}
    {c : Char}
    (hHead : s.head? = some c)
    (hStart :
      Reader.isGap c = false ∧
        c ≠ ']' ∧ c ≠ '"' ∧ c ≠ '[' ∧ c ≠ '\x7b')
    (hAtom :
      ∀ rest,
        Reader.Stops rest →
          Reader.atom (s ++ rest) = .ok (v, rest)) :
    Spells s v := by
  refine ⟨⟨c, hHead, hStart.1, hStart.2.1⟩, ?_⟩
  intro fuel rest hFuel hStops
  cases s with
  | nil => cases hHead
  | cons d s =>
      cases fuel with
      | zero => cases hFuel
      | succ fuel =>
          rw [Reader.value_eq_atom (s := d :: s ++ rest) hHead
            hStart.2.2]
          exact hAtom rest hStops

/- A written text spells it. -/
theorem spells_printText
    (form : Form)
    (s : String) :
    Spells (printText form s).toList (.str s) := by
  have hStart : (printText form s).toList.head? = some '"' := by
    rcases exists_printText form s [] with ⟨body, hBody, _⟩
    rw [List.append_nil] at hBody
    rw [hBody]
    rfl
  constructor
  · exact ⟨'"', hStart, rfl, by decide⟩
  · intro fuel rest hFuel _
    rcases exists_printText form s rest with
      ⟨body, hBody, hText⟩
    cases fuel with
    | zero =>
        have hEmpty : (printText form s).toList = [] :=
          List.length_eq_zero_iff.mp (by omega)
        rw [hEmpty] at hStart
        cases hStart
    | succ fuel =>
        rw [hBody, Reader.value]
        simp only [bind, Except.bind, hText]
        rfl

/- A scalar that can be read back is spelled by its text. -/
theorem spells_printScalar
    (form : Form)
    {k : Scalar}
    (hReadable : k.IsReadable) :
    Spells (printScalar form k).toList (.scalar k) := by
  cases k with
  | null =>
      change Spells "null".toList _
      exact spells_of_atom (c := 'n') rfl (by decide)
        (fun _ _ => rfl)
  | bool b =>
      cases b with
      | false =>
          change Spells "false".toList _
          exact spells_of_atom (c := 'f') rfl (by decide)
            (fun _ _ => rfl)
      | true =>
          change Spells "true".toList _
          exact spells_of_atom (c := 't') rfl (by decide)
            (fun _ _ => rfl)
  | int n =>
      change Spells (toString n).toList _
      have hAtom :
          ∀ rest,
            Reader.Stops rest →
              Reader.atom ((toString n).toList ++ rest) =
                .ok (.int n, rest) := by
        intro rest hStops
        exact Reader.atom_toString hStops hReadable
      rcases Reader.exists_toDigits_eq_cons n.natAbs with
        ⟨c, cs, hCons, hDigit⟩
      rcases Reader.toString_cases n with
        ⟨hDigits, _⟩ | ⟨hDigits, _⟩
      · have hOther :
            ∀ d : Char, d.isDigit = false → c ≠ d := by
          intro d hd
          exact (Reader.ne_of_isDigit hDigit hd).symm
        refine spells_of_atom (c := c) ?_ ?_ hAtom
        · rw [hDigits, hCons]
          rfl
        · refine
            ⟨?_, hOther _ rfl, hOther _ rfl, hOther _ rfl,
              hOther _ rfl⟩
          simp [Reader.isGap, hOther]
      · refine spells_of_atom (c := '-') ?_ (by decide) hAtom
        rw [hDigits]
        rfl
  | float x => cases hReadable
  | str s => exact spells_printText form s

------------------------------------------------------------
-- Written lists and objects
------------------------------------------------------------

/- The start of a line is a gap. -/
theorem isGap_of_mem_lineStart
    {form : Form}
    {depth : Nat}
    {c : Char}
    (hc : c ∈ (lineStart form depth).toList) :
    Reader.isGap c = true := by
  unfold lineStart at hc
  split at hc
  · cases hc
  · rw [String.toList_append, List.mem_append] at hc
    rcases hc with hc | hc
    · rw [List.mem_singleton.mp hc]
      rfl
    · rw [String.toList_ofList] at hc
      rw [List.eq_of_mem_replicate hc]
      rfl

/- Parts between brackets: gaps and commas stand around them. -/
theorem exists_enclose
    {form : Form}
    (hForm : form.IsReadable)
    (depth : Nat)
    (opening closing : String)
    {parts : List String}
    (hSome : parts ≠ []) :
    ∃ start gap close,
      (enclose form depth opening closing parts).toList =
          opening.toList
            ++ (start
              ++ ((',' :: gap).intercalate
                  (parts.map String.toList)
                ++ (close ++ closing.toList))) ∧
        (∀ c ∈ start, Reader.isGap c = true) ∧
        (∀ c ∈ gap, Reader.isGap c = true) ∧
        ∀ c ∈ close, Reader.isGap c = true := by
  rcases hForm.items with ⟨gap, hComma, hGap⟩
  have hLine :
      ∀ depth, ∀ c ∈ (lineStart form depth).toList,
        Reader.isGap c = true := by
    intro depth c hc
    exact isGap_of_mem_lineStart hc
  refine
    ⟨_, gap ++ (lineStart form (depth + 1)).toList, _, ?_,
      hLine (depth + 1), ?_, hLine depth⟩
  · rw [enclose, if_neg (by rwa [List.isEmpty_iff])]
    simp only [String.toList_append, String.toList_intercalate,
      hComma, List.cons_append, List.append_assoc]
  · intro c hc
    rcases List.mem_append.mp hc with hc | hc
    · exact hGap c hc
    · exact hLine (depth + 1) c hc

/- A text between brackets spells what is read of it. -/
theorem spells_enclosed
    {opening closing : Char}
    (hOpening : Reader.isGap opening = false ∧ opening ≠ ']')
    {start joined close : List Char}
    {v : Json}
    (hRead :
      ∀ fuel rest,
        2 * joined.length + 1 ≤ fuel →
          Reader.value (fuel + 1)
              (opening ::
                (start ++ (joined ++ (close ++ closing :: rest)))) =
            .ok (v, rest)) :
    Spells
      (opening :: (start ++ (joined ++ (close ++ [closing])))) v := by
  refine ⟨⟨opening, rfl, hOpening⟩, ?_⟩
  intro fuel rest hFuel _
  cases fuel with
  | zero => cases hFuel
  | succ fuel =>
      have hFit : 2 * joined.length + 1 ≤ fuel := by
        simp only [List.length_cons, List.length_append,
          List.length_nil] at hFuel
        omega
      have hSame := hRead fuel rest hFit
      simpa only [List.cons_append, List.append_assoc,
        List.nil_append] using hSame

/- The items behind an opening bracket are read as a list. -/
theorem Reader.value_arr
    {fuel : Nat}
    {s r rest : List Char}
    {vs : List Json}
    (hSkip : skipGap s = r)
    {c : Char}
    (hHead : r.head? = some c)
    (hc : c ≠ ']')
    (hItems : items fuel r = .ok (vs, rest)) :
    value (fuel + 1) ('[' :: s) = .ok (.arr vs, rest) := by
  rw [value, hSkip]
  split
  · cases hHead
    exact absurd rfl hc
  · rw [hItems]
    rfl

/- The fields behind an opening brace are read as an object. -/
theorem Reader.value_obj
    {fuel : Nat}
    {s r rest : List Char}
    {fields : List (String × Json)}
    (hSkip : skipGap s = r)
    (hHead : r.head? = some '"')
    (hMembers : members fuel r = .ok (fields, rest)) :
    value (fuel + 1) ('\x7b' :: s) =
      .ok (.ofFields fields, rest) := by
  rw [value, hSkip]
  split
  · cases hHead
  · rw [hMembers]
    rfl

/- The items of a list are spelled one by one. -/
theorem spells_printItems
    {form : Form}
    {depth : Nat}
    {items : List Json}
    (hItems :
      ∀ v ∈ items, Spells (printAt form depth v).toList v) :
    List.Forall₂ Spells
      ((printItems form depth items).map String.toList) items := by
  induction items with
  | nil => exact .nil
  | cons v items ih =>
      rw [List.forall_mem_cons] at hItems
      exact .cons hItems.1 (ih hItems.2)

/- The fields of an object are spelled one by one. -/
theorem spells_printFields
    {form : Form}
    (hForm : form.IsReadable)
    {depth : Nat}
    {fields : List (String × Json)}
    (hFields :
      ∀ f ∈ fields, Spells (printAt form depth f.2).toList f.2) :
    List.Forall₂ (Reader.SpellsField form)
      ((printFields form depth fields).map String.toList)
      fields := by
  induction fields with
  | nil => exact .nil
  | cons f fields ih =>
      rw [List.forall_mem_cons] at hFields
      rcases hForm.names with ⟨gap, hColon, hGap⟩
      refine .cons ⟨gap, _, ?_, hGap, hFields.1⟩ (ih hFields.2)
      rw [String.toList_append, String.toList_append, hColon,
        List.append_assoc, List.cons_append]

/- Fields with different names are entered as they are. -/
theorem ofFields_eq
    {fields : List (String × Json)}
    (hNames : (fields.map Prod.fst).Nodup) :
    ofFields fields = .obj fields := by
  have hDistinct :
      fields.Pairwise fun f g => (f.1 == g.1) = false := by
    rw [List.Nodup, List.pairwise_map] at hNames
    exact hNames.imp fun hne => beq_false_of_ne hne
  rw [ofFields, OrderedMap.entries_ofList hDistinct]

section Values

variable {form : Form} {depth : Nat}

/- A list is spelled by its text if its items are. -/
theorem spells_arr
    (hForm : form.IsReadable)
    {items : List Json}
    (hItems :
      ∀ v ∈ items, Spells (printAt form (depth + 1) v).toList v) :
    Spells (printAt form depth (.arr items)).toList (.arr items) := by
  cases items with
  | nil =>
      rw [printAt, printItems, enclose, List.isEmpty_nil,
        if_pos rfl, String.toList_append]
      change Spells ('[' :: ([] ++ ([] ++ ([] ++ [']'])))) _
      exact spells_enclosed (by decide) fun fuel rest _ => rfl
  | cons v items =>
      rcases exists_enclose hForm depth "[" "]"
          (List.cons_ne_nil _ _) with
        ⟨start, gap, close, hText, hStart, hGap, hClose⟩
      have hSpells := spells_printItems hItems
      rcases (hItems v List.mem_cons_self).starts with
        ⟨c, hHead, hc, hEnd⟩
      rw [printAt, printItems, hText]
      refine spells_enclosed (by decide) ?_
      intro fuel rest hFit
      refine Reader.value_arr
        (Reader.skipGap_append hStart
          (Reader.head?_intercalate hHead _ _ _) hc)
        (Reader.head?_intercalate hHead _ _ _) hEnd ?_
      exact Reader.items_intercalate hGap hClose hSpells
        (List.cons_ne_nil _ _) hFit

/- An object is spelled by its text if its values are. -/
theorem spells_obj
    (hForm : form.IsReadable)
    {fields : List (String × Json)}
    (hNames : (fields.map Prod.fst).Nodup)
    (hFields :
      ∀ f ∈ fields,
        Spells (printAt form (depth + 1) f.2).toList f.2) :
    Spells (printAt form depth (.obj fields)).toList
      (.obj fields) := by
  cases fields with
  | nil =>
      rw [printAt, printFields, enclose, List.isEmpty_nil,
        if_pos rfl, String.toList_append]
      change Spells ('\x7b' :: ([] ++ ([] ++ ([] ++ ['\x7d'])))) _
      exact spells_enclosed (by decide) fun fuel rest _ => rfl
  | cons f fields =>
      rcases exists_enclose hForm depth "\x7b" "\x7d"
          (List.cons_ne_nil _ _) with
        ⟨start, gap, close, hText, hStart, hGap, hClose⟩
      have hSpells := spells_printFields hForm hFields
      have hHead := (List.forall₂_cons.mp hSpells).1.head?_eq
      rw [printAt, printFields, hText, ← ofFields_eq hNames]
      refine spells_enclosed (by decide) ?_
      intro fuel rest hFit
      refine Reader.value_obj
        (Reader.skipGap_append hStart
          (Reader.head?_intercalate hHead _ _ _) rfl)
        (Reader.head?_intercalate hHead _ _ _) ?_
      exact Reader.members_intercalate hGap hClose hSpells
        (List.cons_ne_nil _ _) hFit

/-
  A value that can be read back is spelled by its text, at any
  depth.
-/
theorem spells_printAt
    (hForm : form.IsReadable)
    {v : Json}
    (hReadable : v.IsReadable) :
    ∀ depth, Spells (printAt form depth v).toList v := by
  induction hReadable with
  | scalar h =>
      intro depth
      rw [printAt]
      exact spells_printScalar form h
  | arr _ ih =>
      intro depth
      exact spells_arr hForm fun v hv => ih v hv (depth + 1)
  | obj hNames _ ih =>
      intro depth
      exact spells_obj hForm hNames fun f hf =>
        ih f hf (depth + 1)

end Values

/- A document that is written is read back. -/
theorem parse_print
    {form : Form}
    (hForm : form.IsReadable)
    {v : Json}
    (hReadable : v.IsReadable) :
    parse (print form v) = .ok v := by
  rcases spells_printAt hForm hReadable 0 with
    ⟨⟨c, hHead, hc, _⟩, hValue⟩
  have hSkip :
      Reader.skipGap (print form v).toList =
        (print form v).toList :=
    Reader.skipGap_eq_self hHead hc
  have hRead :
      Reader.value (2 * (print form v).toList.length + 2)
          (print form v).toList =
        .ok (v, []) := by
    have hAll :=
      hValue (2 * (print form v).toList.length + 2) []
        (Nat.le_add_right _ 2) Reader.stops_nil
    rwa [List.append_nil] at hAll
  rw [parse]
  simp only [bind, Except.bind, hSkip, hRead]
  rfl

/- The indented form is read back. -/
theorem isReadable_indented : Form.indented.IsReadable where
  items := ⟨[], rfl, List.forall_mem_nil _⟩
  names := ⟨[' '], rfl, List.forall_mem_singleton.mpr rfl⟩

end Json

end ModelNumber
