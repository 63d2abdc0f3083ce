import ModelNumber.Proofs.Segment.Split

/-
  The segments of a part as the matches of a pattern: words
  without blanks and separators, with blanks in between. A
  pattern is matched by trying, longest repetition first, and
  its matches are found from left to right. They are the
  tokens of the scanner, though the scanner never goes back.

  Main declarations:
    * `Pattern` and `Pattern.ends`
    * `Pattern.findAll`
    * `Part.pattern`
    * `Part.matchAt?_pattern`
    * `Part.findAll_pattern`
-/

namespace ModelNumber

------------------------------------------------------------
-- Patterns
------------------------------------------------------------

/-
  A pattern of characters: one that passes a test, one pattern
  and then another, or any number of repetitions.
-/
inductive Pattern where
| one (test : Char → Bool)
| andThen (first second : Pattern)
| many (repeated : Pattern)

namespace Pattern

/-
  Where repetitions may end, those that go on longer first. A
  repetition has to take something, so there are no more of
  them than characters.
-/
def manyEnds
    (ends : List Char → List Nat) :
    Nat → List Char → List Nat
| 0, _ => [0]
| bound + 1, s =>
    ((ends s).filter (0 < ·)).flatMap
        (fun n => (manyEnds ends bound (s.drop n)).map (n + ·))
      ++ [0]

/-
  How many characters at the start of a text match a pattern:
  all ways to match it, in the order in which they are tried.
-/
def ends : Pattern → List Char → List Nat
| one _, [] => []
| one test, c :: _ => if test c then [1] else []
| andThen first second, s =>
    (first.ends s).flatMap fun n =>
      (second.ends (s.drop n)).map (n + ·)
| many repeated, s => manyEnds repeated.ends s.length s

/- One repetition at least. -/
def oneOrMore (repeated : Pattern) : Pattern :=
  repeated.andThen (many repeated)

/- The length of a match at the start of a text: the first way. -/
def matchAt?
    (p : Pattern)
    (s : List Char) : Option Nat :=
  (p.ends s).head?

/-
  The matches of a pattern from left to right. After a match
  the search goes on behind it, so some characters are skipped.
  A match without characters is left out.
-/
def findFrom
    (p : Pattern) :
    Nat → Nat → List Char → List Token
| _, _, [] => []
| skip + 1, place, _ :: rest => findFrom p skip (place + 1) rest
| 0, place, c :: rest =>
    match p.matchAt? (c :: rest) with
    | some (n + 1) =>
        ⟨place, (c :: rest).take (n + 1)⟩
          :: findFrom p n (place + 1) rest
    | _ => findFrom p 0 (place + 1) rest

/- The matches in a text whose first character has a place. -/
def findAll
    (p : Pattern)
    (place : Nat)
    (s : List Char) : List Token :=
  p.findFrom 0 place s

end Pattern

/- A character inside a word of a part. -/
def Part.isInner
    (part : Part)
    (c : Char) : Bool :=
  !part.isSeparator c && !Text.isBlank c

/- A word of a part. -/
def Part.word (part : Part) : Pattern :=
  .oneOrMore (.one part.isInner)

/- A further word of a part, behind blanks. -/
def Part.furtherWord (part : Part) : Pattern :=
  (Pattern.oneOrMore (.one Text.isBlank)).andThen part.word

/- A segment of a part: words with blanks in between. -/
def Part.pattern (part : Part) : Pattern :=
  part.word.andThen (.many part.furtherWord)

------------------------------------------------------------
-- Searching
------------------------------------------------------------

namespace Pattern

variable {p : Pattern} {s : List Char} {c : Char}

/- To skip characters is to search behind them. -/
theorem findFrom_eq_findAll
    (p : Pattern)
    (skip place : Nat)
    (s : List Char) :
    p.findFrom skip place s =
      p.findAll (place + skip) (s.drop skip) := by
  induction s generalizing skip place with
  | nil =>
      rw [List.drop_nil]
      cases skip <;> rfl
  | cons c s ih =>
      cases skip with
      | zero => rfl
      | succ skip =>
          rw [findFrom, ih, List.drop_succ_cons, Nat.add_assoc,
            Nat.add_comm 1 skip]

/- Where nothing matches, the search goes on. -/
theorem findAll_cons_of_none
    (hNone : p.matchAt? (c :: s) = none)
    (place : Nat) :
    p.findAll place (c :: s) = p.findAll (place + 1) s := by
  rw [findAll, findFrom, hNone, findFrom_eq_findAll]
  rfl

/- Behind a match the search goes on. -/
theorem findAll_cons_of_some
    {n : Nat}
    (hSome : p.matchAt? (c :: s) = some n)
    (hPos : 0 < n)
    (place : Nat) :
    p.findAll place (c :: s) =
      ⟨place, (c :: s).take n⟩
        :: p.findAll (place + n) ((c :: s).drop n) := by
  cases n with
  | zero => cases hPos
  | succ n =>
      rw [findAll, findFrom, hSome]
      dsimp only
      rw [findFrom_eq_findAll, List.drop_succ_cons,
        Nat.add_assoc, Nat.add_comm 1 n]

------------------------------------------------------------
-- The first way
------------------------------------------------------------

/-
  What is tried first behind the first way to match is the
  first way to match both.
-/
theorem head?_flatMap_cons
    {ends : Nat → List Nat}
    {n length : Nat}
    (hFirst : (ends n).head? = some length)
    (others : List Nat) :
    ((n :: others).flatMap fun n =>
      (ends n).map (n + ·)).head? = some (n + length) := by
  rw [List.flatMap_cons, List.head?_append, List.head?_map,
    hFirst]
  rfl

------------------------------------------------------------
-- Runs
------------------------------------------------------------

variable {test : Char → Bool} {run rest : List Char}

/- A text is a run of some kind, and something else. -/
theorem exists_run
    (test : Char → Bool)
    (s : List Char) :
    ∃ run rest,
      s = run ++ rest ∧
        (∀ c ∈ run, test c = true) ∧
        ∀ c ∈ rest.head?, test c = false := by
  refine ⟨s.takeWhile test, s.dropWhile test,
    List.takeWhile_append_dropWhile.symm, ?_, ?_⟩
  · intro c hc
    exact List.mem_takeWhile_imp hc
  · intro c hc
    have hHead := List.head?_dropWhile_not test s
    rw [Option.mem_def.mp hc] at hHead
    simpa using hHead

/- One character is not matched by a text that starts with another. -/
theorem ends_one_eq_nil
    (hStop : ∀ c ∈ s.head?, test c = false) :
    (one test).ends s = [] := by
  cases s with
  | nil => rfl
  | cons c s => simp [ends, hStop c rfl]

/- A run is taken as a whole, or else given back bit by bit. -/
theorem manyEnds_one
    (bound : Nat)
    (hRun : ∀ c ∈ run, test c = true)
    (hStop : ∀ c ∈ rest.head?, test c = false)
    (hBound : run.length ≤ bound) :
    manyEnds (one test).ends bound (run ++ rest) =
      (List.range (run.length + 1)).reverse := by
  induction run generalizing bound with
  | nil =>
      cases bound with
      | zero => rfl
      | succ bound => simp [manyEnds, ends_one_eq_nil hStop]
  | cons c run ih =>
      rw [List.forall_mem_cons] at hRun
      cases bound with
      | zero => cases hBound
      | succ bound =>
          have hRest :=
            ih bound hRun.2 (Nat.le_of_succ_le_succ hBound)
          rw [List.length_cons, List.range_succ_eq_map,
            List.reverse_cons, ← List.map_reverse, ← hRest]
          simp [manyEnds, ends, hRun.1, Nat.add_comm]

/- A run of at least one character, longest first. -/
theorem ends_oneOrMore_one
    (hRun : ∀ c ∈ run, test c = true)
    (hStop : ∀ c ∈ rest.head?, test c = false) :
    (oneOrMore (one test)).ends (run ++ rest) =
      (List.range run.length).reverse.map (· + 1) := by
  cases run with
  | nil =>
      rw [oneOrMore, ends, List.nil_append,
        ends_one_eq_nil hStop]
      rfl
  | cons c run =>
      rw [List.forall_mem_cons] at hRun
      have hMany :=
        manyEnds_one (run ++ rest).length hRun.2 hStop (by simp)
      rw [oneOrMore, ends, List.cons_append, ends,
        if_pos hRun.1]
      simp only [ends, List.flatMap_cons, List.flatMap_nil,
        List.append_nil, List.drop_succ_cons, List.drop_zero,
        hMany, List.length_cons, Nat.add_comm]

end Pattern

------------------------------------------------------------
-- Segments
------------------------------------------------------------

namespace Part

variable {part : Part} {run gap rest s : List Char}

/- What is in no word separates or is blank. -/
theorem isInner_eq_false_iff
    {c : Char} :
    part.isInner c = false ↔
      part.isSeparator c = true ∨ Text.isBlank c = true := by
  cases hCut : part.isSeparator c <;>
    cases hBlank : Text.isBlank c <;>
    simp [isInner, hCut, hBlank]

/- What is in a word neither separates nor is blank. -/
theorem isInner_eq_true_iff
    {c : Char} :
    part.isInner c = true ↔
      part.isSeparator c = false ∧ Text.isBlank c = false := by
  simp [isInner]

/- There is no word where none starts. -/
theorem ends_word_eq_nil
    (hStop : ∀ c ∈ s.head?, part.isInner c = false) :
    part.word.ends s = [] :=
  Pattern.ends_oneOrMore_one (List.forall_mem_nil _) hStop

/- A word is taken as a whole first. -/
theorem exists_ends_word
    (hRun : ∀ c ∈ run, part.isInner c = true)
    (hStop : ∀ c ∈ rest.head?, part.isInner c = false)
    (hNe : run ≠ []) :
    ∃ fewer,
      part.word.ends (run ++ rest) = run.length :: fewer := by
  have hEnds : part.word.ends (run ++ rest) = _ :=
    Pattern.ends_oneOrMore_one hRun hStop
  rw [hEnds]
  cases run with
  | nil => exact (hNe rfl).elim
  | cons c run =>
      rw [List.length_cons, List.range_succ, List.reverse_append]
      exact ⟨_, rfl⟩

/-
  A further word starts behind all of the blanks: if some are
  given back, the next character is one of them.
-/
theorem ends_furtherWord
    (hGap : ∀ c ∈ gap, Text.isBlank c = true)
    (hStop : ∀ c ∈ rest.head?, Text.isBlank c = false) :
    part.furtherWord.ends (gap ++ rest) =
      if gap = [] then
        []
      else
        (part.word.ends rest).map (gap.length + ·) := by
  rw [furtherWord, Pattern.ends,
    Pattern.ends_oneOrMore_one hGap hStop]
  cases hLength : gap.length with
  | zero =>
      rw [if_pos (List.length_eq_zero_iff.mp hLength)]
      rfl
  | succ n =>
      have hNe : gap ≠ [] := by
        rintro rfl
        cases hLength
      have hEarly :
          ((List.range n).reverse.map (· + 1)).flatMap
            (fun i =>
              (part.word.ends ((gap ++ rest).drop i)).map
                (i + ·)) =
          [] := by
        rw [List.flatMap_eq_nil_iff]
        intro i hi
        simp only [List.mem_map, List.mem_reverse,
          List.mem_range] at hi
        rcases hi with ⟨j, hj, rfl⟩
        rw [List.map_eq_nil_iff]
        apply ends_word_eq_nil
        intro c hc
        have hInside : j + 1 < gap.length := by omega
        rw [List.head?_drop,
          List.getElem?_append_left hInside] at hc
        exact isInner_eq_false_iff.mpr
          (Or.inr (hGap c (List.mem_of_getElem? hc)))
      have hDrop : (gap ++ rest).drop (n + 1) = rest :=
        List.drop_left' hLength
      rw [if_neg hNe, List.range_succ, List.reverse_append,
        List.reverse_singleton, List.singleton_append,
        List.map_cons, List.flatMap_cons, hEarly,
        List.append_nil, hDrop]

/- The text up to the next separator. -/
def uncut
    (part : Part)
    (s : List Char) : List Char :=
  s.takeWhile (!part.isSeparator ·)

/- How much of a text belongs to a segment that has started. -/
def reach
    (part : Part)
    (s : List Char) : Nat :=
  (Text.trimEnd (part.uncut s)).length

/- What stands before a separator is cut off there. -/
theorem uncut_append
    (hUncut : ∀ c ∈ s, part.isSeparator c = false)
    (hStop : ∀ c ∈ rest.head?, part.isSeparator c = true) :
    part.uncut (s ++ rest) = s := by
  have hKeep : ∀ c ∈ s, (!part.isSeparator c) = true := by
    intro c hc
    simp [hUncut c hc]
  have hRest : rest.takeWhile (!part.isSeparator ·) = [] := by
    cases rest with
    | nil => rfl
    | cons c rest => simp [hStop c rfl]
  rw [uncut, List.takeWhile_append_of_pos hKeep, hRest,
    List.append_nil]

/- Nothing belongs to a segment that a separator follows. -/
theorem reach_of_stop
    (hGap : ∀ c ∈ gap, Text.isBlank c = true)
    (hStop : ∀ c ∈ rest.head?, part.isSeparator c = true) :
    part.reach (gap ++ rest) = 0 := by
  have hUncut : ∀ c ∈ gap, part.isSeparator c = false :=
    fun c hc => part.isSeparator_of_isBlank (hGap c hc)
  have hTrim : Text.trimEnd gap = [] :=
    Text.trimEnd_append_blank [] hGap
  rw [reach, uncut_append hUncut hStop, hTrim]
  rfl

/- A word belongs to a segment, with the blanks in front of it. -/
theorem reach_of_run
    (hGap : ∀ c ∈ gap, Text.isBlank c = true)
    (hRun : ∀ c ∈ run, part.isInner c = true)
    (hNe : run ≠ [])
    (rest : List Char) :
    part.reach (gap ++ (run ++ rest)) =
      gap.length + run.length + part.reach rest := by
  have hKeep :
      ∀ c ∈ gap ++ run, (!part.isSeparator c) = true := by
    intro c hc
    rcases List.mem_append.mp hc with hc | hc
    · simp [part.isSeparator_of_isBlank (hGap c hc)]
    · simp [(isInner_eq_true_iff.mp (hRun c hc)).1]
  have hUncut :
      part.uncut (gap ++ (run ++ rest)) =
        gap ++ run ++ part.uncut rest := by
    rw [← List.append_assoc, uncut,
      List.takeWhile_append_of_pos hKeep]
    rfl
  rcases List.eq_nil_or_concat' run with rfl | ⟨early, c, rfl⟩
  · exact (hNe rfl).elim
  · have hc : Text.isBlank c = false :=
      (isInner_eq_true_iff.mp (hRun c (by simp))).2
    have hTrim :
        Text.trimEnd (gap ++ (early ++ [c]) ++ part.uncut rest) =
          (gap ++ early)
            ++ c :: Text.trimEnd (part.uncut rest) := by
      rw [← Text.trimEnd_append_cons _ _ hc]
      simp
    rw [reach, hUncut, hTrim, reach]
    simp only [List.length_append, List.length_cons,
      List.length_nil]
    omega

/-
  Behind a word, further words are taken up to the last one
  before the next separator. By induction on the bound: one
  more word is taken in each step.
-/
theorem head?_manyEnds_furtherWord
    {bound : Nat}
    (hBound : s.length ≤ bound)
    (hStop : ∀ c ∈ s.head?, part.isInner c = false) :
    (Pattern.manyEnds part.furtherWord.ends bound s).head? =
      some (part.reach s) := by
  induction bound generalizing s with
  | zero =>
      rw [Nat.le_zero, List.length_eq_zero_iff] at hBound
      rw [hBound]
      rfl
  | succ bound ih =>
      rcases Pattern.exists_run Text.isBlank s with
        ⟨gap, later, rfl, hGap, hLater⟩
      rw [Pattern.manyEnds, ends_furtherWord hGap hLater]
      rcases Pattern.exists_run part.isInner later with
        ⟨run, rest, rfl, hRun, hRest⟩
      by_cases hNe : run = []
      · -- No further word starts before the next separator.
        subst hNe
        rw [List.nil_append] at hLater ⊢
        have hCut :
            ∀ c ∈ rest.head?, part.isSeparator c = true := by
          intro c hc
          rcases isInner_eq_false_iff.mp (hRest c hc) with
            hCut | hBlank
          · exact hCut
          · rw [hLater c hc] at hBlank
            cases hBlank
        rw [ends_word_eq_nil hRest, reach_of_stop hGap hCut]
        simp
      · -- Without blanks the word before would have gone on.
        have hGapNe : gap ≠ [] := by
          rintro rfl
          rcases List.exists_cons_of_ne_nil hNe with
            ⟨c, run, rfl⟩
          have hInner := hStop c rfl
          rw [hRun c List.mem_cons_self] at hInner
          cases hInner
        have hShorter : rest.length ≤ bound := by
          have hLength := List.length_pos_iff.mpr hNe
          simp only [List.length_append] at hBound
          omega
        have hDrop :
            (gap ++ (run ++ rest)).drop
                (gap.length + run.length) =
              rest := by
          rw [← List.append_assoc]
          exact List.drop_left' (by simp)
        have hAgain := ih hShorter hRest
        rw [← hDrop] at hAgain
        rcases exists_ends_word hRun hRest hNe with
          ⟨fewer, hWord⟩
        have hPos : 0 < gap.length + run.length := by
          have hLength := List.length_pos_iff.mpr hNe
          omega
        rw [if_neg hGapNe, hWord, List.map_cons,
          List.filter_cons_of_pos (by simpa using hPos),
          List.head?_append,
          Pattern.head?_flatMap_cons hAgain, hDrop,
          reach_of_run hGap hRun hNe rest]
        rfl

/- A segment goes from its first word to its last one. -/
theorem matchAt?_pattern
    {c : Char}
    (hc : part.isInner c = true)
    (s : List Char) :
    part.pattern.matchAt? (c :: s) =
      some (part.reach (c :: s)) := by
  rcases Pattern.exists_run part.isInner (c :: s) with
    ⟨run, rest, hSplit, hRun, hStop⟩
  have hNe : run ≠ [] := by
    rintro rfl
    have hOuter : part.isInner c = false :=
      hStop c (by rw [← List.nil_append rest, ← hSplit]; rfl)
    rw [hc] at hOuter
    cases hOuter
  rw [hSplit]
  have hReach :
      part.reach (run ++ rest) = run.length + part.reach rest := by
    have hWhole :=
      reach_of_run (List.forall_mem_nil _) hRun hNe rest
    rwa [List.nil_append, List.length_nil, Nat.zero_add]
      at hWhole
  have hMany :
      ((Pattern.many part.furtherWord).ends
        ((run ++ rest).drop run.length)).head? =
        some (part.reach rest) := by
    rw [List.drop_left]
    exact head?_manyEnds_furtherWord (Nat.le_refl _) hStop
  rcases exists_ends_word hRun hStop hNe with ⟨fewer, hWord⟩
  rw [Pattern.matchAt?, pattern, Pattern.ends, hWord,
    Pattern.head?_flatMap_cons hMany, hReach]

/- A segment has a character at least. -/
theorem reach_pos
    {c : Char}
    (hc : part.isInner c = true)
    (s : List Char) :
    0 < part.reach (c :: s) := by
  rcases isInner_eq_true_iff.mp hc with ⟨hCut, hBlank⟩
  have hUncut :
      part.uncut (c :: s) = [] ++ c :: part.uncut s :=
    List.takeWhile_cons_of_pos (by simp [hCut])
  rw [reach, hUncut, Text.trimEnd_append_cons [] _ hBlank]
  exact Nat.succ_pos _

/- There is no segment where no word starts. -/
theorem matchAt?_pattern_eq_none
    (hStop : ∀ c ∈ s.head?, part.isInner c = false) :
    part.pattern.matchAt? s = none := by
  rw [Pattern.matchAt?, pattern, Pattern.ends,
    ends_word_eq_nil hStop]
  rfl

------------------------------------------------------------
-- Segments and tokens
------------------------------------------------------------

/- The scanner passes over a character outside of words. -/
theorem scan_cons_of_not_inner
    {c : Char}
    (hc : part.isInner c = false)
    (place : Nat)
    (s : List Char) :
    Token.scan part.isSeparator place (c :: s) =
      Token.scan part.isSeparator (place + 1) s := by
  rw [Token.scan, Token.scanFrom]
  rcases isInner_eq_false_iff.mp hc with hCut | hBlank
  · rw [if_pos hCut]
    rfl
  · rw [if_neg (by simp [part.isSeparator_of_isBlank hBlank]),
      Token.Scan.next, if_pos hBlank]
    rfl

/- Behind a separator the scanner forgets what came before. -/
theorem exists_scan_append
    (hStop : ∀ c ∈ rest.head?, part.isSeparator c = true) :
    ∃ others : Nat → List Token,
      ∀ (place : Nat) (s : List Char),
        Token.scan part.isSeparator place (s ++ rest) =
          Token.scan part.isSeparator place s
            ++ others (place + s.length) := by
  cases rest with
  | nil =>
      refine ⟨fun _ => [], ?_⟩
      intro place s
      rw [List.append_nil, List.append_nil]
  | cons c rest =>
      refine
        ⟨fun place =>
          Token.scan part.isSeparator (place + 1) rest, ?_⟩
      intro place s
      exact Token.scan_append_cons place s rest (hStop c rfl)

/- The scanner takes as much as belongs to a segment. -/
theorem scan_cons_of_inner
    {c : Char}
    (hc : part.isInner c = true)
    (place : Nat)
    (s : List Char) :
    Token.scan part.isSeparator place (c :: s) =
      ⟨place, (c :: s).take (part.reach (c :: s))⟩
        :: Token.scan part.isSeparator
          (place + part.reach (c :: s))
          ((c :: s).drop (part.reach (c :: s))) := by
  rcases isInner_eq_true_iff.mp hc with ⟨hCut, hBlank⟩
  rcases Pattern.exists_run (!part.isSeparator ·) s with
    ⟨run, rest, rfl, hRun, hRest⟩
  have hUncut : ∀ d ∈ c :: run, part.isSeparator d = false := by
    simpa [hCut] using hRun
  have hStop : ∀ d ∈ rest.head?, part.isSeparator d = true := by
    simpa using hRest
  have hTrim : Text.trim (c :: run) = Text.trimEnd (c :: run) := by
    rw [Text.trim_cons_of_not_blank hBlank]
    exact (Text.trimEnd_append_cons [] run hBlank).symm
  have hReach :
      part.reach (c :: (run ++ rest)) =
        (Text.trim (c :: run)).length := by
    rw [reach, ← List.cons_append, uncut_append hUncut hStop,
      hTrim]
  -- What is left of the chunk is blank, so it gives no token.
  rcases Text.exists_eq_append_trim_append (c :: run) with
    ⟨gap, hGap, hSplit⟩
  rw [List.takeWhile_cons_of_neg (by simp [hBlank]),
    List.nil_append] at hSplit
  have hGapUncut : ∀ d ∈ gap, part.isSeparator d = false :=
    fun d hd => part.isSeparator_of_isBlank (hGap d hd)
  have hText :
      c :: (run ++ rest) =
        Text.trim (c :: run) ++ (gap ++ rest) := by
    rw [← List.cons_append, ← List.append_assoc, ← hSplit]
  have hLength :
      place + (c :: run).length =
        place + (Text.trim (c :: run)).length + gap.length := by
    conv_lhs => rw [hSplit]
    simp only [List.length_append]
    omega
  rcases exists_scan_append hStop with ⟨others, hOthers⟩
  have hNe : Text.trim (c :: run) ≠ [] := by
    rw [Text.trim_cons_of_not_blank hBlank]
    exact List.cons_ne_nil _ _
  rw [hReach, hText, List.take_left, List.drop_left, ← hText,
    ← List.cons_append, hOthers, hOthers,
    Token.scan_of_uncut hUncut, Token.scan_of_uncut hGapUncut,
    if_neg hNe, if_pos (Text.trim_eq_nil_iff.mpr hGap), hLength,
    List.takeWhile_cons_of_neg (by simp [hBlank])]
  rfl

/-
  The matches of the pattern of a part are the tokens of the
  scanner. By induction on the length of the text: behind a
  match and behind a character without one, a shorter text is
  left.
-/
theorem findAll_pattern
    (part : Part)
    (place : Nat)
    (s : List Char) :
    part.pattern.findAll place s =
      Token.scan part.isSeparator place s := by
  induction hLength : s.length using Nat.strong_induction_on
    generalizing place s with
  | _ length ih =>
      cases s with
      | nil => rfl
      | cons c s =>
          cases hc : part.isInner c with
          | false =>
              have hNone :
                  part.pattern.matchAt? (c :: s) = none :=
                matchAt?_pattern_eq_none (by simpa using hc)
              have hShorter : s.length < length := by
                rw [← hLength]
                exact Nat.lt_succ_self _
              rw [Pattern.findAll_cons_of_none hNone,
                scan_cons_of_not_inner hc,
                ih s.length hShorter _ s rfl]
          | true =>
              have hPos := reach_pos hc s
              have hShorter :
                  ((c :: s).drop (part.reach (c :: s))).length <
                    length := by
                rw [List.length_drop, hLength]
                simp only [List.length_cons] at hLength
                omega
              rw [Pattern.findAll_cons_of_some
                  (matchAt?_pattern hc s) hPos,
                scan_cons_of_inner hc,
                ih _ hShorter _ _ rfl]

example :
    Part.feature.pattern.findAll 0 " a b:-c ".toList =
      [⟨1, "a b".toList⟩, ⟨6, "c".toList⟩] :=
  rfl

end Part

end ModelNumber
