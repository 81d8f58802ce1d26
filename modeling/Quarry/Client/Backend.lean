import Quarry.Client.Pool
import Quarry.Log
import Quarry.Result.Reading
import Quarry.Sql.Query

/-!
# Scripted backends

A backend answers queries from a script: the n-th query that reaches a connection gets
the n-th response that was pushed, and an empty one when there is none. It counts the
connections that were acquired and released and the items that were pulled, and it
keeps the queries and the log.
-/
namespace Quarry

abbrev Response := List (Except Error Reply)

structure Backend where
  pool : Pool
  responses : List Response
  executed : List Query
  /-- The message with which the next acquisition fails. -/
  acquireFailure : Option String
  acquired : Nat
  released : Nat
  pulled : Nat
  nextTicket : Ticket
  log : List LogRecord

inductive Acquisition where
  | failed (e : Error)
  | queued (t : Ticket)
  | opened (items : Response)

def executionError (q : Query) (e : Error) : Error :=
  (e.within (.kind .execution)).within (.runningQuery q.summary)

namespace Backend

def name : String := "mock"

def ofSize (size : Nat) : Backend := ⟨.ofSize size, [], [], none, 0, 0, 0, 0, []⟩

def push (b : Backend) (r : Response) : Backend := { b with responses := b.responses ++ [r] }

def failNextAcquire (b : Backend) (message : String) : Backend :=
  { b with acquireFailure := some message }

def record (b : Backend) (records : List LogRecord) : Backend := { b with log := b.log ++ records }

def send (b : Backend) (q : Query) : Response × Backend :=
  (b.responses.head?.getD [],
    { b with
      acquired := b.acquired + 1
      executed := b.executed ++ [q]
      responses := b.responses.tail })

/-- Acquire a connection for a query, or enter the queue of the pool. An armed failure comes
before everything else. -/
def acquire (b : Backend) (q : Query) : Acquisition × Backend :=
  match b.acquireFailure with
  | some m =>
    let e := executionError q (.ofText m)
    (.failed e, { b with acquireFailure := none }.record e.report)
  | none =>
    match b.pool.take? with
    | some pool =>
      let (items, b) := { b with pool }.send q
      (.opened items, b)
    | none =>
      (.queued b.nextTicket,
        { b with pool := b.pool.wait b.nextTicket, nextTicket := b.nextTicket + 1 })

def start (b : Backend) (q : Query) (logged : Bool) : Acquisition × Backend :=
  (if logged then b.record [⟨.debug, "Executing the query:\n" ++ q.summary⟩] else b).acquire q

def takeUp? (b : Backend) (q : Query) (t : Ticket) : Option (Response × Backend) :=
  (b.pool.claim? t).map fun pool => { b with pool }.send q

def release (b : Backend) : Backend :=
  { b with pool := b.pool.giveBack, released := b.released + 1 }

def withdraw (b : Backend) (t : Ticket) : Backend := { b with pool := b.pool.withdraw t }

def countPulled (b : Backend) (n : Nat) : Backend := { b with pulled := b.pulled + n }

/-- The pulls that a response offers: its items up to the first failure, which is reported. -/
def pullsOf (q : Query) : Response → List Pull
  | [] => []
  | .ok r :: items => ⟨.ok r, []⟩ :: pullsOf q items
  | .error e :: _ =>
    let e := executionError q e
    [⟨.error e, e.report⟩]

/-- Run a query to the end of what `consume` wants to read, and give the connection back.
There is no answer when no connection is free: the query then leaves the queue again. -/
def perform {β : Type} (b : Backend) (q : Query) (logged : Bool) (refuse : Error → β)
    (consume : List Pull → Reading β) : Option β × Backend :=
  match b.start q logged with
  | (.failed e, b) => (some (refuse e), b)
  | (.queued t, b) => (none, b.withdraw t)
  | (.opened items, b) =>
    let pulls := pullsOf q items
    let reading := consume pulls
    (some reading.result,
      ((b.countPulled (pulls.length - reading.rest.length)).record reading.log).release)

end Backend
end Quarry
