import Quarry.Proofs.Client.Streaming

/-!
# What is sent for a statement

However a statement is run, what it compiles to is sent, once and over one connection, and
nothing else; when there is no connection, nothing is sent. A statement that does not compile
answers with its error and leaves the backend as it was (`Client.sends_compiled`).
-/

namespace Quarry

/-- What a statement can be run to the end for. -/
inductive Terminal : Type → Type 1 where
  | first {α : Type} (shape : Shape α) : Terminal (Except Error (Option α))
  | one {α : Type} (shape : Shape α) : Terminal (Except Error (Option α))
  | all {α : Type} (shape : Shape α) : Terminal (List (Except Error α))
  | rowsUpdated : Terminal (Except Error Nat)
  | execute : Terminal (Except Error RowsAffected)

namespace Terminal

variable {β : Type} {c : Client} {s : Statement} {b : Backend}

def run : Terminal β → Client → Statement → Backend → Option β × Backend
  | first shape, c, s, b => c.first s shape b
  | one shape, c, s, b => c.one s shape b
  | all shape, c, s, b => c.all s shape b
  | rowsUpdated, c, s, b => c.rowsUpdated s b
  | execute, c, s, b => c.execute s b

def reading : Terminal β → List Pull → Reading β
  | first shape => Reading.first shape
  | one shape => Reading.one shape
  | all shape => Reading.all shape
  | rowsUpdated => Reading.rowsUpdated
  | execute => Reading.affected

def refuse : Terminal β → Error → β
  | first _, e | one _, e | rowsUpdated, e | execute, e => .error e
  | all _, e => [.error e]

theorem run_eq_perform (t : Terminal β) (c : Client) (s : Statement) (b : Backend) :
    t.run c s b = c.perform s t.refuse t.reading b := by
  cases t <;> rfl

theorem run_of_error {e : Error} (t : Terminal β) (h : c.compile s = .error e) (b : Backend) :
    t.run c s b = (some (t.refuse e), b) := by
  rw [run_eq_perform, Client.perform, h]

theorem performs {q : Query} (t : Terminal β) (h : c.compile s = .ok q) (b : Backend) :
    b.Performs q t.refuse t.reading (t.run c s b).1 (t.run c s b).2 := by
  rw [run_eq_perform, Client.perform_of_compile h]
  exact b.performs q c.logsQueries t.refuse t.reading

theorem balanced {n held : Nat} {tickets : List Ticket} (t : Terminal β) (c : Client)
    (s : Statement) (hb : b.Balanced n held tickets) :
    (t.run c s b).2.Balanced n held tickets := by
  rcases h : c.compile s with e | q
  · rw [t.run_of_error h]
    exact hb
  · exact hb.performs (t.performs h b)

/-- Whatever the answer is, a connection that was acquired was released. -/
theorem counts (t : Terminal β) (c : Client) (s : Statement) (b : Backend) :
    (t.run c s b).2.acquired + b.released = b.acquired + (t.run c s b).2.released := by
  rcases h : c.compile s with e | q
  · rw [t.run_of_error h]
  · rcases (t.performs h b).sent with ⟨hspares, hreleased⟩ | ⟨hsends, hreleased⟩
    · rw [hspares.acquired, hreleased]
    · rw [hsends.acquired, hreleased]
      omega

end Terminal

structure Turn (α : Type) where
  before : Backend
  answer : Poll α
  after : Backend

namespace Turn

variable {α : Type} {q : Query}

def atEnd (b : Backend) : Turn α := ⟨b, .finished, b⟩

/-- In the turns of a stream its query is sent once at most: the stream waits, sends the query
when it gets a connection, and sends nothing more. -/
inductive SendOnce (q : Query) : List (Turn α) → Prop where
  | nil : SendOnce q []
  | wait {turn : Turn α} {turns : List (Turn α)} (hanswer : turn.answer = .pending)
      (h : turn.before.Spares turn.after) (hlater : SendOnce q turns) : SendOnce q (turn :: turns)
  | send {turn : Turn α} {turns : List (Turn α)} (h : turn.before.Sends q turn.after)
      (hlater : ∀ turn ∈ turns, turn.before.Spares turn.after) : SendOnce q (turn :: turns)

end Turn

namespace ResultStream

open Turn

variable {α : Type} {shape : Shape α} {q : Query} {s : ResultStream α}

/-- Poll a stream on these backends in turn: what happens to the backend between two polls is
left open. -/
def pollAmid : ResultStream α → List Backend → List (Turn α)
  | _, [] => []
  | s, b :: bs =>
    let (p, s, b') := s.poll b
    ⟨b, p, b'⟩ :: s.pollAmid bs

theorem pollAmid_ended (shape : Shape α) (bs : List Backend) :
    (⟨.ended, .rows shape⟩ : ResultStream α).pollAmid bs = bs.map atEnd := by
  induction bs with
  | nil => rfl
  | cons b bs ih => exact congrArg (atEnd b :: ·) ih

theorem spares_of_mem_pollAmid (hs : s.reader = .rows shape) (hc : s.cursor.unsent = none)
    {bs : List Backend} {turn : Turn α} (h : turn ∈ s.pollAmid bs) :
    turn.before.Spares turn.after := by
  induction bs generalizing s with
  | nil => cases h
  | cons b bs ih =>
    obtain ⟨p, c', b', log, hp, hpoll⟩ := exists_polled hs b
    rw [pollAmid, hpoll] at h
    rcases List.mem_cons.1 h with rfl | hlater
    · rcases hp.sent with hspares | ⟨q, hq, -⟩
      · exact hspares.record log
      · rw [hc] at hq
        cases hq
    · exact ih (s := ⟨c', .rows shape⟩) rfl (hp.of_sent hc).2.2.1 hlater

/-- A stream in the queue of the pool waits until it gets a connection. -/
theorem sendOnce_waiting {t : Ticket} (bs : List Backend) :
    SendOnce q ((⟨.waiting q t, .rows shape⟩ : ResultStream α).pollAmid bs) := by
  induction bs with
  | nil => exact .nil
  | cons b bs ih =>
    obtain ⟨p, c', b', log, hp, hpoll⟩ :=
      exists_polled (s := ⟨.waiting q t, .rows shape⟩) rfl b
    rw [pollAmid, hpoll]
    rcases hp.of_waiting with ⟨rfl, rfl, rfl⟩ | ⟨hsent, hsends⟩
    · exact .wait rfl (.record (.refl _) log) ih
    · exact .send (hsends.record log) fun turn h => spares_of_mem_pollAmid rfl hsent h

/-- A stream that was not polled yet is denied when a failure is armed; else it sends its query,
and at once when a connection is free. -/
theorem pollAmid_idle {logged : Bool} (b : Backend) (bs : List Backend) :
    let turns := (⟨.idle q logged, .rows shape⟩ : ResultStream α).pollAmid (b :: bs)
    match b.acquireFailure with
    | some m => ∃ b', b.Spares b' ∧
        turns = ⟨b, .item (.error (executionError q (.ofText m))), b'⟩ :: bs.map atEnd
    | none => SendOnce q turns ∧
        (0 < b.pool.free → ∀ turn ∈ turns.head?, turn.before.Sends q turn.after) := by
  obtain ⟨p, c', b', log, hp, hpoll⟩ :=
    exists_polled (s := ⟨.idle q logged, .rows shape⟩) rfl b
  have hidle := hp.of_idle
  rw [pollAmid, hpoll]
  rcases harmed : b.acquireFailure with _ | m
  · rw [harmed] at hidle
    rcases hidle with ⟨rfl, ⟨t, rfl⟩, hspares, hfree⟩ | ⟨hsent, hsends⟩
    · exact ⟨.wait rfl (hspares.record log) (sendOnce_waiting bs), fun hpos => by omega⟩
    · refine ⟨.send (hsends.record log) fun turn h => spares_of_mem_pollAmid rfl hsent h, ?_⟩
      rintro - turn ⟨⟩
      exact hsends.record log
  · rw [harmed] at hidle
    obtain ⟨rfl, rfl, hspares⟩ := hidle
    exact ⟨b'.record log, hspares.record log, congrArg (_ :: ·) (pollAmid_ended shape bs)⟩

end ResultStream

namespace Terminal

variable {β : Type} {c : Client} {s : Statement} {q : Query}

/-- To run a statement is refused when a failure is armed; else its query is sent if a connection
is free. -/
theorem run_of_compile (t : Terminal β) (h : c.compile s = .ok q) (b : Backend) :
    match b.acquireFailure with
    | some m => ∃ b', b.Spares b' ∧
        t.run c s b = (some (t.refuse (executionError q (.ofText m))), b')
    | none => if 0 < b.pool.free then b.Sends q (t.run c s b).2
        else (t.run c s b).1 = none ∧ b.Spares (t.run c s b).2 := by
  have hp := t.performs h b
  generalize t.run c s b = ran at hp
  obtain ⟨x, b'⟩ := ran
  cases hp with
  | failed m log harmed =>
    rw [harmed]
    exact ⟨{ b with acquireFailure := none }.record log, ⟨rfl, rfl, rfl⟩, rfl⟩
  | gaveUp log harmed hfree =>
    rw [harmed, hfree]
    exact ⟨rfl, rfl, rfl, rfl⟩
  | read k log harmed hfree _ =>
    rw [harmed, hfree]
    exact ⟨rfl, rfl, rfl⟩

end Terminal

namespace Client

open ResultStream Turn

/-- What a statement compiles to is sent over the connection that is acquired for it, once, and
nothing is sent when the acquisition fails. A statement that does not compile answers with its
error alone, and leaves the backend as it was. So does a stream that is never polled. -/
theorem sends_compiled (c : Client) (s : Statement) :
    (match c.compile s with
    | .ok q =>
      (∀ {β : Type} (t : Terminal β) (b : Backend), match b.acquireFailure with
        | some m => ∃ b', b.Spares b' ∧
            t.run c s b = (some (t.refuse (executionError q (.ofText m))), b')
        | none => if 0 < b.pool.free then b.Sends q (t.run c s b).2
            else (t.run c s b).1 = none ∧ b.Spares (t.run c s b).2) ∧
      ∀ {α : Type} (shape : Shape α) (b : Backend) (bs : List Backend),
        let turns := (c.stream s shape).pollAmid (b :: bs)
        match b.acquireFailure with
        | some m => ∃ b', b.Spares b' ∧
            turns = ⟨b, .item (.error (executionError q (.ofText m))), b'⟩ :: bs.map atEnd
        | none => SendOnce q turns ∧
            (0 < b.pool.free → ∀ turn ∈ turns.head?, turn.before.Sends q turn.after)
    | .error e =>
      (∀ {β : Type} (t : Terminal β) (b : Backend), t.run c s b = (some (t.refuse e), b)) ∧
      ∀ {α : Type} (shape : Shape α) (b : Backend) (bs : List Backend),
        (c.stream s shape).pollAmid (b :: bs) = ⟨b, .item (.error e), b⟩ :: bs.map atEnd) ∧
    ∀ {α : Type} (shape : Shape α) (b : Backend), (c.stream s shape).cursor.drop b = b := by
  rcases h : c.compile s with e | q
  · refine ⟨⟨fun t b => t.run_of_error h b, ?_⟩, ?_⟩
    · intro α shape b bs
      rw [stream_of_error h, ← pollAmid_ended shape]
      rfl
    · intro α shape b
      rw [stream_of_error h]
      rfl
  · refine ⟨⟨fun t b => t.run_of_compile h b, ?_⟩, ?_⟩
    · intro α shape b bs
      rw [stream_of_compile h]
      exact pollAmid_idle b bs
    · intro α shape b
      rw [stream_of_compile h]
      rfl

end Client
end Quarry
