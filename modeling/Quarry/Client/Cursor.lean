import Quarry.Client.Backend

/-!
# Cursors

A cursor is a query under way. It acquires a connection when it is polled for the first
time, holds it while the response lasts, and gives it back when it is polled behind the
last item or dropped. A failure of the backend is an item too: the connection goes back
at the poll after it, and what the response holds behind it is never read.
-/
namespace Quarry

inductive Cursor where
  /-- The query could not be compiled. -/
  | refused (e : Error)
  /-- Not polled yet; tells whether the query is logged. -/
  | idle (query : Query) (logged : Bool)
  /-- In the queue of the pool. -/
  | waiting (query : Query) (ticket : Ticket)
  /-- Holds a connection and the items to come. -/
  | running (query : Query) (items : Response)
  /-- Holds a connection after a failure. -/
  | failed
  | ended

inductive Poll (α : Type) where
  | pending
  | item (x : Except Error α)
  | finished

namespace Cursor

variable {α : Type}

def holdsConnection : Cursor → Bool
  | running _ _ | failed => true
  | _ => false

def pullReply (q : Query) : Response → Backend → Poll Reply × Cursor × Backend
  | [], b => (.finished, ended, b.release)
  | .ok r :: items, b => (.item (.ok r), running q items, b.countPulled 1)
  | .error e :: _, b =>
    let e := executionError q e
    (.item (.error e), failed, (b.countPulled 1).record e.report)

def pullRow (q : Query) : Response → Backend → Poll Row × Cursor × Backend
  | [], b => (.finished, ended, b.release)
  | .ok (.affected _) :: items, b => pullRow q items (b.countPulled 1)
  | .ok (.row r) :: items, b => (.item (.ok r), running q items, b.countPulled 1)
  | .error e :: _, b =>
    let e := executionError q e
    (.item (.error e), failed, (b.countPulled 1).record e.report)

/-- Poll a cursor, where `pull` reads the items once there is a connection. -/
def poll (pull : Query → Response → Backend → Poll α × Cursor × Backend) :
    Cursor → Backend → Poll α × Cursor × Backend
  | refused e, b => (.item (.error e), ended, b)
  | idle q logged, b =>
    match b.start q logged with
    | (.failed e, b) => (.item (.error e), ended, b)
    | (.queued t, b) => (.pending, waiting q t, b)
    | (.opened items, b) => pull q items b
  | waiting q t, b =>
    match b.takeUp? q t with
    | none => (.pending, waiting q t, b)
    | some (items, b) => pull q items b
  | running q items, b => pull q items b
  | failed, b => (.finished, ended, b.release)
  | ended, b => (.finished, ended, b)

/-- Give up a cursor: a connection goes back, a request is withdrawn. -/
def drop : Cursor → Backend → Backend
  | running _ _, b | failed, b => b.release
  | waiting _ t, b => b.withdraw t
  | refused _, b | idle _ _, b | ended, b => b

end Cursor

inductive Reader (α : Type) where
  /-- Rows are mapped and counts are skipped. -/
  | rows (shape : Shape α)
  | replies (f : Reply → α)

structure ResultStream (α : Type) where
  cursor : Cursor
  reader : Reader α

namespace ResultStream

variable {α : Type}

/-- Poll for the next result; a row that cannot be mapped is an item and does not end the
stream. -/
def poll (s : ResultStream α) (b : Backend) : Poll α × ResultStream α × Backend :=
  match s.reader with
  | .replies f =>
    match s.cursor.poll Cursor.pullReply b with
    | (.item x, cursor, b) => (.item (x.map f), { s with cursor }, b)
    | (.pending, cursor, b) => (.pending, { s with cursor }, b)
    | (.finished, cursor, b) => (.finished, { s with cursor }, b)
  | .rows shape =>
    match s.cursor.poll Cursor.pullRow b with
    | (.item (.ok r), cursor, b) => (.item (shape.apply r), { s with cursor }, b.record (shape.report r))
    | (.item (.error e), cursor, b) => (.item (.error e), { s with cursor }, b)
    | (.pending, cursor, b) => (.pending, { s with cursor }, b)
    | (.finished, cursor, b) => (.finished, { s with cursor }, b)

end ResultStream
end Quarry
