import Mathlib.Data.Int.Order.Basic
import Mathlib.Data.List.Infix
import Mathlib.Order.Lattice
import ModelNumber.Debouncer

/-
  A gate hands out the latest query, once, and not early. What
  it replies to a call is told by the calls before it: each
  submission gets the next ticket, which is current until
  another query is submitted, and a query is handed out when
  it waits and its delay has passed.

  Main declarations:
    * `Debouncer.ready_eq_some_iff` and `Debouncer.ready_snd`
    * `Debouncer.Call` and `Debouncer.transcript`
    * `Debouncer.Waits`
    * `Debouncer.Reflects` and `Debouncer.Reflects.step`
    * `Debouncer.HandsOutLatest`
    * `Debouncer.handsOutLatest_transcript`
-/

namespace ModelNumber

namespace Debouncer

------------------------------------------------------------
-- Handing out
------------------------------------------------------------

mutual

/- A query was handed out with a reply. -/
def Reply.handsOut : Reply → Bool
| .done => false
| .ticket _ => false
| .current _ => false
| .ready query => query.isSome
| .searched during found _ =>
    found.isSome || Reply.anyHandsOut during
termination_by structural reply => reply

/- A query was handed out with one of several replies. -/
def Reply.anyHandsOut : List Reply → Bool
| [] => false
| reply :: rest => reply.handsOut || Reply.anyHandsOut rest
termination_by structural replies => replies

end

/- A gate whose query has been handed out. -/
def emptied
    {τ : Type}
    (d : Debouncer τ) : Debouncer τ :=
  { d with pending := none }

section Ready

variable {τ : Type} [Sub τ] [LinearOrder τ]
variable {d : Debouncer τ} {now : τ} {query : String}

/- A query is handed out if it waits and its delay has passed. -/
theorem ready_eq_some_iff :
    (d.ready now).1 = some query ↔
      d.pending = some query ∧
        d.delay ≤ now - d.submittedAt := by
  unfold ready
  split
  · rename_i hEarly
    simp [not_le.mpr hEarly]
  · rename_i hLate
    simp [not_lt.mp hLate]

/- What has been handed out does not wait any longer. -/
theorem ready_snd (d : Debouncer τ) (now : τ) :
    (d.ready now).2 =
      if (d.ready now).1.isSome then d.emptied else d := by
  unfold ready
  split
  · rfl
  · cases d with
    | mk delay ticket pending submittedAt =>
        cases pending <;> rfl

/- A query is handed out when its delay has passed. -/
theorem ready_submit
    (d : Debouncer τ)
    (time now : τ)
    (query : String) :
    ((d.submit time query).ready now).1 =
      if d.delay ≤ now - time then some query else none := by
  by_cases hDelay : d.delay ≤ now - time
  · rw [if_pos hDelay, ready_eq_some_iff]
    exact ⟨rfl, hDelay⟩
  · rw [if_neg hDelay, Option.eq_none_iff_forall_ne_some]
    intro other hOther
    exact hDelay (ready_eq_some_iff.mp hOther).2

/- A query that has been handed out is not handed out again. -/
theorem ready_emptied
    (d : Debouncer τ)
    (now : τ) :
    (d.emptied.ready now).1 = none := by
  rw [Option.eq_none_iff_forall_ne_some]
  intro query hQuery
  cases (ready_eq_some_iff.mp hQuery).1

end Ready

------------------------------------------------------------
-- Calls
------------------------------------------------------------

/-
  What can be asked of a gate, with the time that the clock
  shows then. The times need not be in order.
-/
inductive Call (τ : Type) where
| submit (now : τ) (query : String)
| current (ticket : Int)
| ready (now : τ)

variable {τ : Type} {delay now time : τ} {query : String}

/- A call submits a query. -/
def Call.isSubmit : Call τ → Bool
| .submit _ _ => true
| _ => false

/- What happened at a gate: a call and the reply to it. -/
abbrev Event (τ : Type) : Type :=
  Call τ × Reply

/- The reply to a call, and the gate after it. -/
def answer
    [Sub τ]
    [LinearOrder τ]
    (d : Debouncer τ) : Call τ → Reply × Debouncer τ
| .submit now query =>
    (.ticket (d.submit now query).ticket, d.submit now query)
| .current ticket => (.current (d.isCurrent ticket), d)
| .ready now => (.ready (d.ready now).1, (d.ready now).2)

/- What happens at a gate in the course of several calls. -/
def transcript
    [Sub τ]
    [LinearOrder τ] :
    Debouncer τ → List (Call τ) → List (Event τ)
| _, [] => []
| d, call :: calls =>
    let (reply, d) := d.answer call
    (call, reply) :: d.transcript calls

------------------------------------------------------------
-- What waits
------------------------------------------------------------

/- The last of several events, or one before it. -/
theorem concat_eq_append_cons
    {e f : Event τ}
    {events before after : List (Event τ)}
    (h : events ++ [e] = before ++ f :: after) :
    (events = before ∧ e = f ∧ after = []) ∨
      ∃ rest, events = before ++ f :: rest ∧
        after = rest ++ [e] := by
  rcases List.eq_nil_or_concat' after with
    rfl | ⟨rest, last, rfl⟩
  · rcases List.append_inj' h rfl with ⟨hEvents, hSame⟩
    exact Or.inl ⟨hEvents, List.singleton_inj.mp hSame, rfl⟩
  · rw [← List.cons_append, ← List.append_assoc] at h
    rcases List.append_inj' h rfl with ⟨hEvents, hSame⟩
    refine Or.inr ⟨rest, hEvents, ?_⟩
    rw [List.singleton_inj.mp hSame]

variable {events past future : List (Event τ)}
variable {e : Event τ} {call : Call τ} {reply : Reply}

/- How many tickets were issued. -/
def issued (events : List (Event τ)) : Nat :=
  events.countP (·.1.isSubmit)

/- No ticket was issued when no query was submitted. -/
theorem issued_eq_zero_iff :
    issued events = 0 ↔ ∀ e ∈ events, e.1.isSubmit = false := by
  simp [issued, List.countP_eq_zero]

/-
  A query waits since some time: it is the latest one, it was
  submitted then, and none has been handed out after it.
-/
def Waits
    (events : List (Event τ))
    (query : String)
    (time : τ) : Prop :=
  ∃ before reply after,
    events = before ++ (.submit time query, reply) :: after ∧
      ∀ e ∈ after,
        e.1.isSubmit = false ∧ e.2.handsOut = false

/- Nothing waits where nothing was submitted. -/
theorem not_waits_nil : ¬Waits [] query time := by
  rintro ⟨before, reply, after, hSplit, _⟩
  simp at hSplit

/-
  What waits after one more event is what it submits, or what
  waited before, unless it submits or hands out something.
-/
theorem waits_concat_iff :
    Waits (events ++ [e]) query time ↔
      e.1 = .submit time query ∨
        (e.1.isSubmit = false ∧ e.2.handsOut = false ∧
          Waits events query time) := by
  constructor
  · rintro ⟨before, reply, after, hSplit, hAfter⟩
    rcases concat_eq_append_cons hSplit with
      ⟨_, rfl, _⟩ | ⟨rest, hEvents, rfl⟩
    · exact Or.inl rfl
    · rw [List.forall_mem_append, List.forall_mem_singleton]
        at hAfter
      exact Or.inr
        ⟨hAfter.2.1, hAfter.2.2, before, reply, rest, hEvents,
          hAfter.1⟩
  · rintro (hSubmit | ⟨hNoSubmit, hKept, hWaits⟩)
    · refine ⟨events, e.2, [], ?_, by simp⟩
      rw [← hSubmit]
    · rcases hWaits with ⟨before, reply, after, rfl, hAfter⟩
      refine ⟨before, reply, after ++ [e], by simp, ?_⟩
      rw [List.forall_mem_append, List.forall_mem_singleton]
      exact ⟨hAfter, hNoSubmit, hKept⟩

/- Something is submitted before a query is handed out again. -/
theorem exists_isSubmit_of_waits
    {first : Event τ}
    {between : List (Event τ)}
    (hWaits : Waits (past ++ first :: between) query time)
    (hOut : first.2.handsOut = true)
    (hCall : first.1.isSubmit = false) :
    ∃ e ∈ between, e.1.isSubmit = true := by
  rcases hWaits with ⟨before, reply, after, hSplit, hAfter⟩
  rcases List.append_eq_append_iff.mp hSplit with
    ⟨gap, _, hRest⟩ | ⟨gap, _, hRest⟩
  · cases gap with
    | nil =>
        rw [(List.cons.inj hRest).1] at hCall
        cases hCall
    | cons e gap =>
        rw [(List.cons.inj hRest).2]
        exact ⟨_, List.mem_append_right _ List.mem_cons_self, rfl⟩
  · -- The submission comes before the first query is handed out.
    cases gap with
    | nil =>
        rw [← (List.cons.inj hRest).1] at hCall
        cases hCall
    | cons e gap =>
        have hFirst : first ∈ after := by
          rw [(List.cons.inj hRest).2]
          exact List.mem_append_right _ List.mem_cons_self
        rw [(hAfter first hFirst).2] at hOut
        cases hOut

------------------------------------------------------------
-- What a gate remembers
------------------------------------------------------------

/-
  A gate reflects what happened at it: it counts the tickets,
  which were issued in order, and keeps the query that waits
  with the time since when it does.
-/
structure Reflects
    (delay : τ)
    (events : List (Event τ))
    (d : Debouncer τ) : Prop where
  delay_eq : d.delay = delay
  ticket_eq : d.ticket = issued events
  waiting : ∀ query time,
    d.pending = some query ∧ d.submittedAt = time ↔
      Waits events query time
  tickets : ∀ before time query n after,
    events =
        before ++ (.submit time query, .ticket n) :: after →
      n = issued before + 1

/- A fresh gate reflects that nothing happened. -/
theorem reflects_fresh (delay origin : τ) :
    Reflects delay [] (fresh delay origin) where
  delay_eq := rfl
  ticket_eq := rfl
  waiting query time := by
    simp [fresh, not_waits_nil]
  tickets before time query n after hSplit := by
    simp at hSplit

variable [Sub τ] [LinearOrder τ] {d : Debouncer τ}

/- Every call leaves a gate that reflects what happened. -/
theorem Reflects.step
    (hReflects : Reflects delay events d)
    (call : Call τ) :
    Reflects delay (events ++ [(call, (d.answer call).1)])
      (d.answer call).2 where
  delay_eq := by
    cases call with
    | submit now query => exact hReflects.delay_eq
    | current ticket => exact hReflects.delay_eq
    | ready now =>
        rw [answer, ready_snd]
        split <;> exact hReflects.delay_eq
  ticket_eq := by
    rw [issued, List.countP_append, ← issued,
      ← hReflects.ticket_eq]
    cases call with
    | submit now query => rfl
    | current ticket => rfl
    | ready now =>
        rw [answer, ready_snd]
        split <;> rfl
  waiting query time := by
    rw [waits_concat_iff, ← hReflects.waiting]
    cases call with
    | submit now next =>
        simp [answer, submit, Call.isSubmit, and_comm]
    | current ticket =>
        simp [answer, Call.isSubmit, Reply.handsOut]
    | ready now =>
        rw [answer, ready_snd]
        cases hOut : (d.ready now).1.isSome <;>
          simp [Call.isSubmit, Reply.handsOut, hOut, emptied]
  tickets before time query n after hSplit := by
    rcases concat_eq_append_cons hSplit with
      ⟨rfl, hLast, _⟩ | ⟨rest, hEvents, _⟩
    · rw [Prod.mk.injEq] at hLast
      rcases hLast with ⟨rfl, hTicket⟩
      rw [← hReflects.ticket_eq]
      exact (Reply.ticket.inj hTicket).symm
    · exact hReflects.tickets before time query n rest hEvents

------------------------------------------------------------
-- What a gate replies
------------------------------------------------------------

/-
  The reply to a call, told by what happened before. The next
  submission gets the next ticket. A ticket that was issued is
  current if no query was submitted after that one. And a query
  is handed out if it waits and its delay has passed.
-/
inductive Answers
    (delay : τ)
    (past : List (Event τ)) : Call τ → Reply → Prop
| submit
    {now : τ}
    {query : String} :
    Answers delay past (.submit now query)
      (.ticket (issued past + 1))
| current
    {ticket : Int}
    {isCurrent : Bool}
    (hCurrent : ∀ before time query (n : Nat) after,
      past =
          before ++ (.submit time query, .ticket n) :: after →
        ticket = n →
          (isCurrent = true ↔
            ∀ e ∈ after, e.1.isSubmit = false)) :
    Answers delay past (.current ticket) (.current isCurrent)
| ready
    {now : τ}
    {found : Option String}
    (hReady : ∀ query,
      found = some query ↔
        ∃ time, Waits past query time ∧ delay ≤ now - time) :
    Answers delay past (.ready now) (.ready found)

/- A gate that reflects what happened replies accordingly. -/
theorem Reflects.answers
    (hReflects : Reflects delay past d)
    (call : Call τ) :
    Answers delay past call (d.answer call).1 := by
  cases call with
  | submit now query =>
      rw [answer, submit, hReflects.ticket_eq]
      exact .submit
  | current ticket =>
      refine .current ?_
      intro before time query n after hSplit hTicket
      have hNumber :=
        hReflects.tickets before time query n after hSplit
      have hCount :
          d.ticket = issued before + 1 + issued after := by
        rw [hReflects.ticket_eq, hSplit, issued,
          List.countP_append, List.countP_cons_of_pos rfl,
          ← issued, ← issued]
        omega
      rw [← issued_eq_zero_iff, isCurrent, beq_iff_eq, hTicket]
      omega
  | ready now =>
      refine .ready ?_
      intro query
      rw [ready_eq_some_iff, hReflects.delay_eq]
      constructor
      · rintro ⟨hPending, hDelay⟩
        exact
          ⟨_, (hReflects.waiting query _).mp ⟨hPending, rfl⟩,
            hDelay⟩
      · rintro ⟨time, hWaits, hDelay⟩
        rcases (hReflects.waiting query time).mpr hWaits with
          ⟨hPending, rfl⟩
        exact ⟨hPending, hDelay⟩

/- All replies of a transcript are told by what happened before. -/
theorem Reflects.answers_transcript
    (hReflects : Reflects delay events d)
    {calls : List (Call τ)}
    (hSplit :
      d.transcript calls = past ++ (call, reply) :: future) :
    Answers delay (events ++ past) call reply := by
  induction calls generalizing d events past with
  | nil =>
      simp [transcript] at hSplit
  | cons first calls ih =>
      cases past with
      | nil =>
          have hHead := (List.cons.inj hSplit).1
          rw [Prod.mk.injEq] at hHead
          rcases hHead with ⟨rfl, rfl⟩
          rw [List.append_nil]
          exact hReflects.answers first
      | cons e past =>
          rcases List.cons.inj hSplit with ⟨rfl, hRest⟩
          have hLater := ih (hReflects.step first) hRest
          rwa [List.append_assoc] at hLater

/- Only a call for a query hands one out. -/
theorem Answers.isSubmit_eq_false
    (hAnswers : Answers delay past call reply)
    (hOut : reply.handsOut = true) :
    call.isSubmit = false := by
  cases hAnswers with
  | submit => simp [Reply.handsOut] at hOut
  | current => rfl
  | ready => rfl

/- A query that is handed out has been waiting. -/
theorem Answers.exists_waits
    (hAnswers : Answers delay past call reply)
    (hOut : reply.handsOut = true) :
    ∃ query time, Waits past query time := by
  cases hAnswers with
  | submit => simp [Reply.handsOut] at hOut
  | current => simp [Reply.handsOut] at hOut
  | @ready now found hReady =>
      rw [Reply.handsOut, Option.isSome_iff_exists] at hOut
      rcases hOut with ⟨query, hFound⟩
      rcases (hReady query).mp hFound with ⟨time, hWaits, _⟩
      exact ⟨query, time, hWaits⟩

/-
  Each reply is told by what happened before, and no query is
  handed out twice: between two that are handed out another
  one was submitted.
-/
structure HandsOutLatest
    (delay : τ)
    (events : List (Event τ)) : Prop where
  answers : ∀ past call reply future,
    events = past ++ (call, reply) :: future →
      Answers delay past call reply
  once : ∀ past first between second future,
    events = past ++ first :: (between ++ second :: future) →
      first.2.handsOut = true →
        second.2.handsOut = true →
          ∃ e ∈ between, e.1.isSubmit = true

/-
  Whatever is asked of a fresh gate, and whatever its clock
  shows, it hands out the latest query, once, and not early.
-/
theorem handsOutLatest_transcript
    (delay origin : τ)
    (calls : List (Call τ)) :
    HandsOutLatest delay
      ((fresh delay origin).transcript calls) := by
  have hAnswers :
      ∀ past call reply future,
        (fresh delay origin).transcript calls =
            past ++ (call, reply) :: future →
          Answers delay past call reply := by
    intro past call reply future hSplit
    exact (reflects_fresh delay origin).answers_transcript hSplit
  refine ⟨hAnswers, ?_⟩
  intro past first between second future hSplit hFirst hSecond
  have hFirstAnswers :=
    hAnswers past first.1 first.2 _ hSplit
  rw [← List.cons_append, ← List.append_assoc] at hSplit
  rcases (hAnswers _ second.1 second.2 future
      hSplit).exists_waits hSecond with ⟨query, time, hWaits⟩
  exact exists_isSubmit_of_waits hWaits hFirst
    (hFirstAnswers.isSubmit_eq_false hFirst)

/- An empty query is a query, and is handed out once as well. -/
example :
    ((fresh 2 0 : Debouncer Int).transcript
        [.submit 1 "RN", .submit 5 "", .ready 6, .ready 7,
          .current 1, .ready 9]).map Prod.snd =
      [.ticket 1, .ticket 2, .ready none, .ready (some ""),
        .current false, .ready none] := by
  rfl

end Debouncer

end ModelNumber
