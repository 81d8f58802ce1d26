import Quarry.Client.Cursor
import Quarry.Sql.Resolve

/-!
# Clients

A client writes statements in its dialect and runs them on a backend. A statement that
does not compile answers with its error and leaves the backend alone.
-/
namespace Quarry

structure Client where
  dialect : Dialect
  /-- Whether queries are logged when they are sent. -/
  logsQueries : Bool

/-- What a client can be built with; later entries win over earlier ones. -/
structure ClientOptions where
  dialect : Option Dialect
  dialectName : Option String
  logsQueries : Option Bool

namespace Client

variable {α β : Type}

def default : Client := ⟨.generic, true⟩

def build (o : ClientOptions) : Except Error Client × List LogRecord :=
  let finish (d : Dialect) : Except Error Client × List LogRecord :=
    (.ok ⟨d, o.logsQueries.getD true⟩,
      [⟨.debug, "Client on the " ++ Backend.name ++ " driver writes the " ++ d.name ++ " dialect"⟩])
  match o.dialectName with
  | none => finish (o.dialect.getD .generic)
  | some name =>
    match Dialect.resolve name with
    | .ok d => finish d
    | .error e => (.error (resolveError e), (resolveError e).report)

def compile (c : Client) (s : Statement) : Except Error Query :=
  (s.compile c.dialect).mapError Error.ofKind

def cursor (c : Client) (s : Statement) : Cursor :=
  match c.compile s with
  | .ok q => .idle q c.logsQueries
  | .error e => .refused e

def perform (c : Client) (s : Statement) (refuse : Error → β) (consume : List Pull → Reading β)
    (b : Backend) : Option β × Backend :=
  match c.compile s with
  | .ok q => b.perform q c.logsQueries refuse consume
  | .error e => (some (refuse e), b)

def first (c : Client) (s : Statement) (shape : Shape α) (b : Backend) :
    Option (Except Error (Option α)) × Backend :=
  c.perform s .error (Reading.first shape) b

def one (c : Client) (s : Statement) (shape : Shape α) (b : Backend) :
    Option (Except Error (Option α)) × Backend :=
  c.perform s .error (Reading.one shape) b

def all (c : Client) (s : Statement) (shape : Shape α) (b : Backend) :
    Option (List (Except Error α)) × Backend :=
  c.perform s (fun e => [.error e]) (Reading.all shape) b

def rowsUpdated (c : Client) (s : Statement) (b : Backend) : Option (Except Error Nat) × Backend :=
  c.perform s .error Reading.rowsUpdated b

/-- Run the statement and count the affected rows, skipping others. -/
def execute (c : Client) (s : Statement) (b : Backend) :
    Option (Except Error RowsAffected) × Backend :=
  c.perform s .error Reading.affected b

def stream (c : Client) (s : Statement) (shape : Shape α) : ResultStream α :=
  ⟨c.cursor s, .rows shape⟩

def run (c : Client) (q : Query) (b : Backend) : Option (List (Except Error Reply)) × Backend :=
  b.perform q c.logsQueries (fun e => [.error e]) Reading.replies

def fetch (c : Client) (q : Query) (b : Backend) : Option (List (Except Error Row)) × Backend :=
  b.perform q c.logsQueries (fun e => [.error e]) Reading.rows

def change (c : Client) (q : Query) (b : Backend) : Option (Except Error RowsAffected) × Backend :=
  b.perform q c.logsQueries .error Reading.affected

def replies (c : Client) (q : Query) (f : Reply → α) : ResultStream α :=
  ⟨.idle q c.logsQueries, .replies f⟩

end Client
end Quarry
