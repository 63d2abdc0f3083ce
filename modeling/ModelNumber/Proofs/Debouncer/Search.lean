import ModelNumber.Proofs.Debouncer
import ModelNumber.Proofs.ReverseSearch

/-
  A debounced search looks for its own query or for nothing.
  Whatever happens while it waits, nested searches included,
  a submission then makes the search end without a look at the
  catalog and leave the gate alone, so the newest query stays
  available. Otherwise the query that waits is its own.

  Main declarations:
    * `Debouncer.Act.submissions`
    * `Debouncer.Scene.finish_cases`
    * `Debouncer.Scene.gate_of_run`
    * `Debouncer.Scene.quiet_of_runAll`
    * `Debouncer.Scene.gate_of_newest`
    * `Debouncer.Scene.Ends` and `Debouncer.Scene.Searches`
    * `Debouncer.Scene.searches`
-/

namespace ModelNumber

namespace Debouncer

variable {τ : Type}

------------------------------------------------------------
-- Submissions
------------------------------------------------------------

/- The query that an act submits itself. -/
def Act.query? : Act τ → Option String
| .submit query => some query
| .search query _ => some query
| _ => none

/- What happens while an act waits. -/
def Act.during : Act τ → List (Act τ)
| .search _ during => during
| _ => []

mutual

/- How many queries are submitted in the course of an act. -/
def Act.submissions : Act τ → Nat
| .setClock _ => 0
| .elapse => 0
| .submit _ => 1
| .current _ => 0
| .ready => 0
| .search _ during => 1 + Act.allSubmissions during
termination_by structural act => act

/- How many queries are submitted in the course of several acts. -/
def Act.allSubmissions : List (Act τ) → Nat
| [] => 0
| act :: rest => act.submissions + Act.allSubmissions rest
termination_by structural acts => acts

end

/- Submissions add up. -/
theorem Act.allSubmissions_append
    (acts others : List (Act τ)) :
    allSubmissions (acts ++ others) =
      allSubmissions acts + allSubmissions others := by
  induction acts with
  | nil => simp [allSubmissions]
  | cons act acts ih =>
      simp only [List.cons_append, allSubmissions, ih]
      omega

namespace Scene

variable [Sub τ] [LinearOrder τ]
variable {catalog : Catalog} {act : Act τ}
variable {acts others during : List (Act τ)}
variable {s early waited later : Scene τ} {query : String}
variable {reply : Reply} {replies rest : List Reply}

/- A scene in which a query has just been submitted. -/
def submitted
    (s : Scene τ)
    (query : String) : Scene τ :=
  { s with gate := s.gate.submit s.clock query }

------------------------------------------------------------
-- The end of a search
------------------------------------------------------------

/- A search that was superseded finds nothing and looks nowhere. -/
theorem finish_of_superseded
    {ticket : Nat}
    (hTicket : waited.gate.ticket ≠ ticket) :
    finish catalog waited ticket = .ok (none, waited) := by
  have hNotCurrent : waited.gate.isCurrent ticket = false := by
    rw [isCurrent, beq_eq_false_iff_ne]
    omega
  unfold finish redeem
  rw [hNotCurrent]
  rfl

/- A search that was not superseded looks for what is handed out. -/
theorem finish_of_current
    {ticket : Nat}
    (hTicket : waited.gate.ticket = ticket) :
    finish catalog waited ticket =
      match (waited.gate.ready waited.clock).1 with
      | none => .ok (none, waited)
      | some query =>
          (catalog.search query).map fun found =>
            (some found,
              { waited with
                gate := waited.gate.emptied
                scans := waited.scans + scansFor query }) := by
  have hCurrent : waited.gate.isCurrent ticket = true := by
    rw [isCurrent, beq_iff_eq, hTicket]
  have hGate := ready_snd waited.gate waited.clock
  unfold finish redeem
  rw [hCurrent, if_pos rfl]
  cases hReady : waited.gate.ready waited.clock with
  | mk handed gate =>
      rw [hReady] at hGate
      cases handed with
      | none =>
          have hSame : gate = waited.gate := hGate
          rw [hSame]
          rfl
      | some query =>
          have hEmptied : gate = waited.gate.emptied := hGate
          rw [hEmptied]
          cases catalog.search query <;> rfl

/-
  A search that finishes finds nothing and leaves all as it
  is, or takes what it looks for from the gate.
-/
theorem finish_cases
    {ticket : Nat}
    {found : Option (List Match)}
    (hFinish :
      finish catalog waited ticket = .ok (found, later)) :
    (found = none ∧ later = waited) ∨
      ∃ taken matched,
        found = some matched ∧
          later =
            { waited with
              gate := waited.gate.emptied
              scans := waited.scans + scansFor taken } := by
  by_cases hTicket : waited.gate.ticket = ticket
  · rw [finish_of_current hTicket] at hFinish
    split at hFinish
    · cases hFinish
      exact Or.inl ⟨rfl, rfl⟩
    · rename_i taken _
      cases hMatched : catalog.search taken with
      | error defect =>
          rw [hMatched] at hFinish
          cases hFinish
      | ok matched =>
          rw [hMatched] at hFinish
          cases hFinish
          exact Or.inr ⟨taken, matched, rfl, rfl⟩
  · rw [finish_of_superseded hTicket] at hFinish
    cases hFinish
    exact Or.inl ⟨rfl, rfl⟩

/- A search that finishes keeps the delay and the ticket. -/
theorem gate_of_finish
    {ticket : Nat}
    {found : Option (List Match)}
    (hFinish :
      finish catalog waited ticket = .ok (found, later)) :
    later.gate.delay = waited.gate.delay ∧
      later.gate.ticket = waited.gate.ticket := by
  rcases finish_cases hFinish with
    ⟨_, rfl⟩ | ⟨taken, matched, _, rfl⟩ <;>
    exact ⟨rfl, rfl⟩

/- A search that finds nothing takes nothing. -/
theorem eq_of_finish_eq_none
    {ticket : Nat}
    (hFinish : finish catalog waited ticket = .ok (none, later)) :
    later = waited := by
  rcases finish_cases hFinish with
    ⟨_, hSame⟩ | ⟨taken, matched, hFound, _⟩
  · exact hSame
  · cases hFound

/- In a catalog of texts a search can always finish. -/
theorem exists_finish
    (hNames : catalog.HasTextNames)
    (hDescriptions : catalog.HasTextDescriptions)
    (waited : Scene τ)
    (ticket : Nat) :
    ∃ found later,
      finish catalog waited ticket = .ok (found, later) := by
  by_cases hTicket : waited.gate.ticket = ticket
  · rw [finish_of_current hTicket]
    split
    · exact ⟨_, _, rfl⟩
    · rename_i query _
      rcases Catalog.exists_search hNames hDescriptions query with
        ⟨found, hFound⟩
      rw [hFound]
      exact ⟨_, _, rfl⟩
  · exact ⟨_, _, finish_of_superseded hTicket⟩

------------------------------------------------------------
-- Any acts
------------------------------------------------------------

variable [Add τ]

/- What is handed out is taken from the gate. -/
theorem run_ready
    (catalog : Catalog)
    (s : Scene τ) :
    run catalog .ready s =
      .ok (.ready (s.gate.ready s.clock).1,
        { s with gate := (s.gate.ready s.clock).2 }) :=
  rfl

/- A search submits its query, waits, and finishes. -/
theorem run_search
    (catalog : Catalog)
    (query : String)
    (during : List (Act τ))
    (s : Scene τ) :
    run catalog (.search query during) s = do
      let (replies, waited) ←
        runAll catalog during (s.submitted query)
      let (found, later) ←
        finish catalog waited (s.gate.ticket + 1)
      return (.searched replies found later.scans, later) :=
  rfl

/- Several acts, one after the other. -/
theorem runAll_cons_eq_ok_iff :
    runAll catalog (act :: acts) s = .ok (replies, later) ↔
      ∃ reply next rest,
        run catalog act s = .ok (reply, next) ∧
          runAll catalog acts next = .ok (rest, later) ∧
          replies = reply :: rest := by
  rw [runAll]
  simp only [Outcome.bind_eq_ok_iff, Outcome.pure_eq_ok_iff,
    Prod.exists, Prod.mk.injEq]
  constructor
  · rintro ⟨reply, next, hRun, rest, _, hRest, rfl, rfl⟩
    exact ⟨reply, next, rest, hRun, hRest, rfl⟩
  · rintro ⟨reply, next, rest, hRun, hRest, rfl⟩
    exact ⟨reply, next, hRun, rest, later, hRest, rfl, rfl⟩

/- Acts that have been split run one part after the other. -/
theorem runAll_append_eq_ok_iff :
    runAll catalog (acts ++ others) s = .ok (replies, later) ↔
      ∃ first middle rest,
        runAll catalog acts s = .ok (first, middle) ∧
          runAll catalog others middle = .ok (rest, later) ∧
          replies = first ++ rest := by
  induction acts generalizing s replies with
  | nil =>
      constructor
      · intro hRun
        exact ⟨[], s, replies, rfl, hRun, rfl⟩
      · rintro ⟨first, middle, rest, hNil, hRun, rfl⟩
        cases hNil
        exact hRun
  | cons act acts ih =>
      rw [List.cons_append, runAll_cons_eq_ok_iff]
      simp only [ih, runAll_cons_eq_ok_iff]
      constructor
      · rintro ⟨reply, next, _, hAct, ⟨first, middle, rest,
          hActs, hOthers, rfl⟩, rfl⟩
        exact
          ⟨reply :: first, middle, rest,
            ⟨reply, next, first, hAct, hActs, rfl⟩, hOthers,
            rfl⟩
      · rintro ⟨_, middle, rest, ⟨reply, next, first, hAct,
          hActs, rfl⟩, hOthers, rfl⟩
        exact
          ⟨reply, next, _, hAct,
            ⟨first, middle, rest, hActs, hOthers, rfl⟩, rfl⟩

/- What a search that ends has gone through. -/
theorem run_search_eq_ok_iff :
    run catalog (.search query during) s = .ok (reply, later) ↔
      ∃ replies waited found,
        runAll catalog during (s.submitted query) =
            .ok (replies, waited) ∧
          finish catalog waited (s.gate.ticket + 1) =
            .ok (found, later) ∧
          reply = .searched replies found later.scans := by
  rw [run_search]
  simp only [Outcome.bind_eq_ok_iff, Outcome.pure_eq_ok_iff,
    Prod.exists, Prod.mk.injEq]
  constructor
  · rintro ⟨replies, waited, hWait, found, _, hFinish, rfl, rfl⟩
    exact ⟨replies, waited, found, hWait, hFinish, rfl⟩
  · rintro ⟨replies, waited, found, hWait, hFinish, rfl⟩
    exact
      ⟨replies, waited, hWait, found, later, hFinish, rfl, rfl⟩

mutual

/- An act keeps the delay, and each submission takes a ticket. -/
theorem gate_of_run
    (act : Act τ)
    {s later : Scene τ}
    {reply : Reply}
    (hRun : run catalog act s = .ok (reply, later)) :
    later.gate.delay = s.gate.delay ∧
      later.gate.ticket =
        s.gate.ticket + act.submissions := by
  cases act with
  | setClock time =>
      cases hRun
      exact ⟨rfl, rfl⟩
  | elapse =>
      cases hRun
      exact ⟨rfl, rfl⟩
  | submit query =>
      cases hRun
      exact ⟨rfl, rfl⟩
  | current ticket =>
      cases hRun
      exact ⟨rfl, rfl⟩
  | ready =>
      rw [run_ready, Except.ok.injEq, Prod.mk.injEq] at hRun
      rw [← hRun.2, ready_snd]
      split <;> exact ⟨rfl, rfl⟩
  | search query during =>
      rcases run_search_eq_ok_iff.mp hRun with
        ⟨replies, waited, found, hWait, hFinish, _⟩
      rcases gate_of_runAll during hWait with
        ⟨hDelay, hTicket⟩
      rcases gate_of_finish hFinish with
        ⟨hSameDelay, hSameTicket⟩
      refine ⟨hSameDelay.trans hDelay, ?_⟩
      have hSubmitted :
          (s.submitted query).gate.ticket = s.gate.ticket + 1 :=
        rfl
      rw [hSameTicket, hTicket, hSubmitted, Act.submissions]
      omega

/- Acts keep the delay, and each submission takes a ticket. -/
theorem gate_of_runAll
    (acts : List (Act τ))
    {s later : Scene τ}
    {replies : List Reply}
    (hRun : runAll catalog acts s = .ok (replies, later)) :
    later.gate.delay = s.gate.delay ∧
      later.gate.ticket =
        s.gate.ticket + Act.allSubmissions acts := by
  cases acts with
  | nil =>
      cases hRun
      exact ⟨rfl, rfl⟩
  | cons act acts =>
      rcases runAll_cons_eq_ok_iff.mp hRun with
        ⟨reply, next, rest, hAct, hActs, _⟩
      rcases gate_of_run act hAct with ⟨hDelay, hTicket⟩
      rcases gate_of_runAll acts hActs with
        ⟨hRestDelay, hRestTicket⟩
      refine ⟨hRestDelay.trans hDelay, ?_⟩
      rw [hRestTicket, hTicket, Act.allSubmissions]
      omega

end

mutual

/- In a catalog of texts every act comes to an end. -/
theorem exists_run
    (hNames : catalog.HasTextNames)
    (hDescriptions : catalog.HasTextDescriptions)
    (act : Act τ)
    (s : Scene τ) :
    ∃ reply later, run catalog act s = .ok (reply, later) := by
  cases act with
  | setClock time => exact ⟨_, _, rfl⟩
  | elapse => exact ⟨_, _, rfl⟩
  | submit query => exact ⟨_, _, rfl⟩
  | current ticket => exact ⟨_, _, rfl⟩
  | ready => exact ⟨_, _, rfl⟩
  | search query during =>
      rcases exists_runAll hNames hDescriptions during
          (s.submitted query) with
        ⟨replies, waited, hWait⟩
      rcases exists_finish hNames hDescriptions waited
          (s.gate.ticket + 1) with
        ⟨found, later, hFinish⟩
      exact
        ⟨_, later, run_search_eq_ok_iff.mpr
          ⟨replies, waited, found, hWait, hFinish, rfl⟩⟩

/- In a catalog of texts all acts come to an end. -/
theorem exists_runAll
    (hNames : catalog.HasTextNames)
    (hDescriptions : catalog.HasTextDescriptions)
    (acts : List (Act τ))
    (s : Scene τ) :
    ∃ replies later,
      runAll catalog acts s = .ok (replies, later) := by
  cases acts with
  | nil => exact ⟨_, _, rfl⟩
  | cons act acts =>
      rcases exists_run hNames hDescriptions act s with
        ⟨reply, next, hAct⟩
      rcases exists_runAll hNames hDescriptions acts next with
        ⟨replies, later, hActs⟩
      exact
        ⟨_, later, runAll_cons_eq_ok_iff.mpr
          ⟨reply, next, replies, hAct, hActs, rfl⟩⟩

end

------------------------------------------------------------
-- Quiet acts
------------------------------------------------------------

/-
  An act that submits nothing looks nowhere, and takes nothing
  from the gate but what it hands out.
-/
theorem quiet_of_run
    (hQuiet : act.submissions = 0)
    (hRun : run catalog act s = .ok (reply, later)) :
    later.scans = s.scans ∧
      later.gate =
        if reply.handsOut then s.gate.emptied else s.gate := by
  cases act with
  | setClock time =>
      cases hRun
      exact ⟨rfl, rfl⟩
  | elapse =>
      cases hRun
      exact ⟨rfl, rfl⟩
  | submit query => simp [Act.submissions] at hQuiet
  | current ticket =>
      cases hRun
      exact ⟨rfl, rfl⟩
  | ready =>
      rw [run_ready, Except.ok.injEq, Prod.mk.injEq] at hRun
      rw [← hRun.1, ← hRun.2]
      exact ⟨rfl, ready_snd s.gate s.clock⟩
  | search query during => simp [Act.submissions] at hQuiet

/-
  Acts that submit nothing look nowhere, and take nothing from
  the gate but what they hand out.
-/
theorem quiet_of_runAll
    (hQuiet : Act.allSubmissions acts = 0)
    (hRun : runAll catalog acts s = .ok (replies, later)) :
    later.scans = s.scans ∧
      later.gate =
        if Reply.anyHandsOut replies then
          s.gate.emptied
        else
          s.gate := by
  induction acts generalizing s replies with
  | nil =>
      cases hRun
      exact ⟨rfl, rfl⟩
  | cons act acts ih =>
      rw [Act.allSubmissions, Nat.add_eq_zero_iff] at hQuiet
      rcases runAll_cons_eq_ok_iff.mp hRun with
        ⟨reply, next, rest, hAct, hActs, rfl⟩
      rcases quiet_of_run hQuiet.1 hAct with ⟨hScans, hGate⟩
      rcases ih hQuiet.2 hActs with ⟨hRestScans, hRestGate⟩
      refine ⟨hRestScans.trans hScans, ?_⟩
      rw [hRestGate, hGate, Reply.anyHandsOut]
      cases reply.handsOut <;>
        cases Reply.anyHandsOut rest <;> rfl

/-
  The query that was submitted last waits at the gate, unless
  it has been handed out.
-/
theorem gate_of_newest
    {newest : String}
    (hQuery : act.query? = some newest)
    (hQuiet : Act.allSubmissions (act.during ++ acts) = 0)
    (hKept : Reply.anyHandsOut replies = false)
    (hRun :
      runAll catalog (act :: acts) s = .ok (replies, later)) :
    later.gate = s.gate.submit s.clock newest := by
  rw [Act.allSubmissions_append, Nat.add_eq_zero_iff] at hQuiet
  rcases runAll_cons_eq_ok_iff.mp hRun with
    ⟨reply, next, rest, hAct, hActs, rfl⟩
  rw [Reply.anyHandsOut, Bool.or_eq_false_iff] at hKept
  rw [(quiet_of_runAll hQuiet.2 hActs).2, hKept.2,
    if_neg Bool.false_ne_true]
  cases act with
  | setClock time => cases hQuery
  | elapse => cases hQuery
  | current ticket => cases hQuery
  | ready => cases hQuery
  | submit query =>
      cases hQuery
      cases hAct
      rfl
  | search query during =>
      cases hQuery
      rcases run_search_eq_ok_iff.mp hAct with
        ⟨inner, waited, found, hWait, hFinish, rfl⟩
      rw [Reply.handsOut, Bool.or_eq_false_iff,
        Option.isSome_eq_false_iff, Option.isNone_iff_eq_none]
        at hKept
      have hGate := (quiet_of_runAll hQuiet.1 hWait).2
      rw [hKept.1.2, if_neg Bool.false_ne_true] at hGate
      -- The nested search finds nothing, so it takes nothing.
      rw [hKept.1.1] at hFinish
      rw [eq_of_finish_eq_none hFinish, hGate]
      rfl

------------------------------------------------------------
-- Debounced search
------------------------------------------------------------

/-
  How a debounced search ends, told by what happened while it
  waited. If a query was submitted, the search finds nothing,
  looks nowhere, and leaves all as it was after the wait, so
  the newest query is handed out as soon as its delay has
  passed, unless that has been done. Otherwise the search
  looks for its own query, if that still waits and its delay
  has passed, and takes it from the gate.
-/
structure Ends
    (catalog : Catalog)
    (query : String)
    (during : List (Act τ))
    (s : Scene τ)
    (replies : List Reply)
    (waited : Scene τ) : Prop where
  superseded :
    Act.allSubmissions during ≠ 0 →
      run catalog (.search query during) s =
        .ok (.searched replies none waited.scans, waited)
  newest : ∀ before act after newest early middle late,
    during = before ++ act :: after →
      act.query? = some newest →
        Act.allSubmissions (act.during ++ after) = 0 →
          runAll catalog before (s.submitted query) =
              .ok (early, middle) →
            replies = early ++ late →
              Reply.anyHandsOut late = false →
                ∀ now,
                  (waited.gate.ready now).1 =
                    if s.gate.delay ≤ now - middle.clock then
                      some newest
                    else
                      none
  own :
    Act.allSubmissions during = 0 →
      Reply.anyHandsOut replies = false →
        s.gate.delay ≤ waited.clock - s.clock →
          run catalog (.search query during) s =
            (catalog.search query).map fun found =>
              (.searched replies (some found)
                (waited.scans + scansFor query),
                { waited with
                  gate := waited.gate.emptied
                  scans := waited.scans + scansFor query })
  idle :
    Act.allSubmissions during = 0 →
      Reply.anyHandsOut replies = true ∨
          waited.clock - s.clock < s.gate.delay →
        run catalog (.search query during) s =
          .ok (.searched replies none waited.scans, waited)

/-
  A debounced search always comes to an end in a catalog of
  texts, fails if its wait does, and otherwise ends as told by
  the wait.
-/
structure Searches
    (catalog : Catalog)
    (query : String)
    (during : List (Act τ))
    (s : Scene τ) : Prop where
  returns :
    catalog.HasTextNames →
      catalog.HasTextDescriptions →
        ∃ reply later,
          run catalog (.search query during) s =
            .ok (reply, later)
  interrupted : ∀ defect,
    runAll catalog during (s.submitted query) = .error defect →
      run catalog (.search query during) s = .error defect
  ends : ∀ replies waited,
    runAll catalog during (s.submitted query) =
        .ok (replies, waited) →
      Ends catalog query during s replies waited

/- A search that waited goes on to its end. -/
theorem run_search_of_runAll
    (hWait :
      runAll catalog during (s.submitted query) =
        .ok (replies, waited)) :
    run catalog (.search query during) s =
      (finish catalog waited (s.gate.ticket + 1)).map fun r =>
        (.searched replies r.1 r.2.scans, r.2) := by
  have hFinish :
      run catalog (.search query during) s =
        (finish catalog waited (s.gate.ticket + 1) >>= fun r =>
          .ok (.searched replies r.1 r.2.scans, r.2)) := by
    rw [run_search, hWait]
    rfl
  rw [hFinish]
  cases finish catalog waited (s.gate.ticket + 1) <;> rfl

/-
  Where nothing was submitted during a wait, what is handed
  out at its end is the own query, if it still waits and its
  delay has passed.
-/
theorem ready_of_quiet
    (hQuiet : Act.allSubmissions during = 0)
    (hWait :
      runAll catalog during (s.submitted query) =
        .ok (replies, waited)) :
    (waited.gate.ready waited.clock).1 =
      if Reply.anyHandsOut replies = false ∧
          s.gate.delay ≤ waited.clock - s.clock then
        some query
      else
        none := by
  rw [(quiet_of_runAll hQuiet hWait).2]
  cases Reply.anyHandsOut replies with
  | true => simp [ready_emptied]
  | false => simp [submitted, ready_submit]

/-
  Whatever happens while a debounced search waits, it looks
  for its own query, or for nothing.
-/
theorem searches
    (catalog : Catalog)
    (query : String)
    (during : List (Act τ))
    (s : Scene τ) :
    Searches catalog query during s where
  returns hNames hDescriptions :=
    exists_run hNames hDescriptions (.search query during) s
  interrupted defect hWait := by
    rw [run_search, hWait]
    rfl
  ends replies waited hWait := by
    rcases gate_of_runAll during hWait with ⟨hDelay, hTicket⟩
    have hRun := run_search_of_runAll hWait
    refine ⟨?_, ?_, ?_, ?_⟩
    · intro hSubmitted
      have hOther :
          waited.gate.ticket ≠ s.gate.ticket + 1 := by
        have hFirst :
            (s.submitted query).gate.ticket =
              s.gate.ticket + 1 :=
          rfl
        omega
      rw [hRun, finish_of_superseded hOther]
      rfl
    · intro before act after newest early middle late hSplit
        hQuery hQuiet hBefore hReplies hKept now
      rw [hSplit, runAll_append_eq_ok_iff] at hWait
      rcases hWait with
        ⟨first, _, rest, hFirst, hRest, hAll⟩
      rw [hBefore] at hFirst
      cases hFirst
      rw [hReplies, List.append_cancel_left_eq] at hAll
      rw [hAll] at hKept
      rw [gate_of_newest hQuery hQuiet hKept hRest, ready_submit,
        (gate_of_runAll before hBefore).1]
      rfl
    · intro hQuiet hKept hLate
      have hOwn : waited.gate.ticket = s.gate.ticket + 1 := by
        rw [hTicket, hQuiet]
        rfl
      rw [hRun, finish_of_current hOwn,
        ready_of_quiet hQuiet hWait, if_pos ⟨hKept, hLate⟩]
      dsimp only
      cases catalog.search query <;> rfl
    · intro hQuiet hIdle
      have hOwn : waited.gate.ticket = s.gate.ticket + 1 := by
        rw [hTicket, hQuiet]
        rfl
      have hNothing :
          ¬(Reply.anyHandsOut replies = false ∧
            s.gate.delay ≤ waited.clock - s.clock) := by
        rintro ⟨hKept, hLate⟩
        rcases hIdle with hOut | hEarly
        · rw [hKept] at hOut
          cases hOut
        · exact not_le.mpr hEarly hLate
      rw [hRun, finish_of_current hOwn,
        ready_of_quiet hQuiet hWait, if_neg hNothing]
      rfl

end Scene

end Debouncer

end ModelNumber
