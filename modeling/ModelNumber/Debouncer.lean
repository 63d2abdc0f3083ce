import ModelNumber.ReverseSearch

/-
  This file defines the gate for search as you type. Each
  query supersedes the one before it, and the newest is handed
  out, once, when the delay has passed without another one.

  Times are of any type that has a difference and an order.

  Key definitions include:
    * `Debouncer`
    * `Debouncer.submit`
    * `Debouncer.isCurrent`
    * `Debouncer.ready`
    * `Debouncer.redeem`
    * `Debouncer.Act`
    * `Debouncer.Scene.run`
-/

namespace ModelNumber

/-
  The gate: the ticket of the latest query, the query while it
  waits, and when it was submitted.
-/
structure Debouncer (τ : Type) where
  delay : τ
  ticket : Nat
  pending : Option String
  submittedAt : τ

namespace Debouncer

variable {τ : Type}

------------------------------------------------------------
-- The gate
------------------------------------------------------------

/- A gate to which no query has been submitted. -/
def fresh (delay origin : τ) : Debouncer τ where
  delay := delay
  ticket := 0
  pending := none
  submittedAt := origin

/- Submit a query, which gets the next ticket. -/
def submit
    (d : Debouncer τ)
    (now : τ)
    (query : String) : Debouncer τ :=
  { d with
    ticket := d.ticket + 1
    pending := some query
    submittedAt := now }

/- A ticket is that of the latest query. -/
def isCurrent
    (d : Debouncer τ)
    (ticket : Int) : Bool :=
  ticket == (d.ticket : Int)

variable [Sub τ] [LT τ] [DecidableLT τ]

/- Hand out the waiting query if its delay has passed. -/
def ready
    (d : Debouncer τ)
    (now : τ) : Option String × Debouncer τ :=
  if now - d.submittedAt < d.delay then
    (none, d)
  else
    (d.pending, { d with pending := none })

/-
  Hand out the query of a ticket. If the ticket is no longer
  the latest one, nothing is handed out and nothing changes.
-/
def redeem
    (d : Debouncer τ)
    (ticket : Nat)
    (now : τ) : Option String × Debouncer τ :=
  if d.isCurrent ticket then d.ready now else (none, d)

------------------------------------------------------------
-- Debounced search
------------------------------------------------------------

/-
  What can happen around a gate. A search submits its query,
  waits while other things happen, and looks at the catalog
  only if it is handed a query then.
-/
inductive Act (τ : Type) where
| setClock (time : τ)
| elapse
| submit (query : String)
| current (ticket : Int)
| ready
| search (query : String) (during : List (Act τ))
deriving Inhabited

/- What is answered to an act. -/
inductive Reply where
| done
| ticket (n : Nat)
| current (isCurrent : Bool)
| ready (query : Option String)
| searched
    (during : List Reply) (found : Option (List Match))
    (scans : Nat)
deriving Inhabited

/-
  A gate with a clock, and how often the catalog has been
  looked through.
-/
structure Scene (τ : Type) where
  gate : Debouncer τ
  clock : τ
  scans : Nat

namespace Scene

/- A blank query does not look through the catalog. -/
def scansFor (query : String) : Nat :=
  if (Catalog.needle query).isEmpty then 0 else 1

/- Search for the query of a ticket, once the wait is over. -/
def finish
    (catalog : Catalog)
    (s : Scene τ)
    (ticket : Nat) :
    Except Defect (Option (List Match) × Scene τ) := do
  let (query, gate) := s.gate.redeem ticket s.clock
  match query with
  | none => return (none, { s with gate })
  | some query =>
      let found ← catalog.search query
      let scans := s.scans + scansFor query
      return (some found, { s with gate, scans })

variable [Add τ]

mutual

/- Act once. -/
def run
    (catalog : Catalog) :
    Act τ → Scene τ → Except Defect (Reply × Scene τ)
| .setClock time, s => .ok (.done, { s with clock := time })
| .elapse, s =>
    .ok (.done, { s with clock := s.clock + s.gate.delay })
| .submit query, s =>
    let gate := s.gate.submit s.clock query
    .ok (.ticket gate.ticket, { s with gate })
| .current ticket, s =>
    .ok (.current (s.gate.isCurrent ticket), s)
| .ready, s =>
    let (query, gate) := s.gate.ready s.clock
    .ok (.ready query, { s with gate })
| .search query during, s => do
    let gate := s.gate.submit s.clock query
    let (replies, waited) ←
      runAll catalog during { s with gate }
    let (found, s) ← finish catalog waited gate.ticket
    return (.searched replies found s.scans, s)
termination_by structural act => act

/- Act several times, in order. -/
def runAll
    (catalog : Catalog) :
    List (Act τ) → Scene τ →
      Except Defect (List Reply × Scene τ)
| [], s => .ok ([], s)
| act :: rest, s => do
    let (reply, s) ← run catalog act s
    let (replies, s) ← runAll catalog rest s
    return (reply :: replies, s)
termination_by structural acts => acts

end

end Scene

end Debouncer

end ModelNumber
