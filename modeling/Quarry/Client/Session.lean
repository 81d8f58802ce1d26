import Quarry.Client.Basic

/-!
# Sessions

A session is a backend, a client on it and streams that are kept under names. Opening a
stream under a name that is taken drops the one before.
-/
namespace Quarry

structure Session (α : Type) where
  backend : Backend
  client : Client
  streams : List (String × ResultStream α)

namespace Session

variable {α β : Type}

def ofSize (size : Nat) : Session α := ⟨.ofSize size, .default, []⟩

def onBackend (s : Session α) (f : Backend → β × Backend) : β × Session α :=
  let (x, backend) := f s.backend
  (x, { s with backend })

/-- Replace the client; when it cannot be built the former one stays. -/
def replaceClient (s : Session α) (o : ClientOptions) : Except Error Client × Session α :=
  match Client.build o with
  | (.ok client, log) => (.ok client, { s with client, backend := s.backend.record log })
  | (.error e, log) => (.error e, { s with backend := s.backend.record log })

def drop (s : Session α) (name : String) : Bool × Session α :=
  match s.streams.lookup name with
  | none => (false, s)
  | some stream =>
    (true,
      { s with
        backend := stream.cursor.drop s.backend
        streams := s.streams.filter (·.1 != name) })

def keep (s : Session α) (name : String) (stream : ResultStream α) : Session α :=
  let s := (s.drop name).2
  { s with streams := s.streams ++ [(name, stream)] }

def next (s : Session α) (name : String) : Option (Poll α) × Session α :=
  match s.streams.lookup name with
  | none => (none, s)
  | some stream =>
    let (p, stream, backend) := stream.poll s.backend
    (some p,
      { s with
        backend
        streams := s.streams.map fun e => if e.1 = name then (name, stream) else e })

end Session
end Quarry
