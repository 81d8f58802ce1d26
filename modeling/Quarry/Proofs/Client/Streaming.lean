import Quarry.Client.Basic
import Quarry.Proofs.Client.Polling

/-!
# Streams of mapped rows

A poll of a stream of rows is a poll of its cursor, with the item mapped. When the query of the
stream was sent, its answers to any number of polls are the remaining items, mapped one by one,
and then the end (`answers_pollTimes`).
-/

namespace Quarry

variable {α : Type} {shape : Shape α} {q : Query} {b : Backend} {c : Cursor}

def Shape.settle (s : Shape α) : Except Error Row → Except Error α
  | .ok r => s.apply r
  | .error e => .error e

theorem Shape.settle_mapError (s : Shape α) (q : Query) (x : Except Error Row) :
    s.settle (x.mapError (executionError q)) = s.deliver q x := by
  cases x <;> rfl

theorem Shape.settle_remaining (s : Shape α) (q : Query) (items : Response) :
    (Cursor.running q items).remaining.map s.settle = items.visible.map (s.deliver q) := by
  rw [Cursor.remaining, List.map_map]
  exact List.map_congr_left fun x _ => s.settle_mapError q x

namespace Poll

def settle (s : Shape α) : Poll Row → Poll α
  | pending => .pending
  | item x => .item (s.settle x)
  | finished => .finished

theorem settle_next (s : Shape α) (xs : List (Except Error Row)) :
    (next xs).settle s = next (xs.map s.settle) := by
  cases xs <;> rfl

theorem settle_eq_finished {s : Shape α} {p : Poll Row} (h : p.settle s = .finished) :
    p = .finished := by
  cases p <;> first | rfl | cases h

theorem settle_eq_pending {s : Shape α} {p : Poll Row} (h : p.settle s = .pending) :
    p = .pending := by
  cases p <;> first | rfl | cases h

/-- The answers to `n` polls when these items are to come. -/
def answersTo (xs : List (Except Error α)) (n : Nat) : List (Poll α) :=
  (xs.take n).map item ++ List.replicate (n - xs.length) finished

@[simp]
theorem answersTo_zero (xs : List (Except Error α)) : answersTo xs 0 = [] := by
  simp [answersTo]

theorem answersTo_succ (xs : List (Except Error α)) (n : Nat) :
    answersTo xs (n + 1) = next xs :: answersTo xs.tail n := by
  cases xs with
  | nil => simp [answersTo, next, List.replicate_succ]
  | cons x xs => simp [answersTo, next]

theorem answersTo_snoc (xs : List (Except Error α)) (n : Nat) :
    answersTo xs (n + 1) = answersTo xs n ++ [next (xs.drop n)] := by
  induction n generalizing xs with
  | zero => rw [answersTo_succ, answersTo_zero, answersTo_zero, List.drop_zero, List.nil_append]
  | succ n ih =>
    rw [answersTo_succ, ih, answersTo_succ xs n, List.cons_append]
    simp

theorem answersTo_isPrefix (xs : List (Except Error α)) {m n : Nat} (h : m ≤ n) :
    answersTo xs m <+: answersTo xs n := by
  induction n with
  | zero => exact Nat.le_zero.1 h ▸ List.prefix_refl _
  | succ n ih =>
    rcases Nat.lt_or_eq_of_le h with hlt | rfl
    · rw [answersTo_snoc xs n]
      exact (ih (Nat.le_of_lt_succ hlt)).trans (List.prefix_append _ _)
    · exact List.prefix_refl _

end Poll

namespace ResultStream

open Poll

variable {s : ResultStream α}

/-- A poll of a stream of rows is a poll of its cursor, with the item mapped. -/
theorem exists_polled (h : s.reader = .rows shape) (b : Backend) :
    ∃ p c' b' log, s.cursor.Polled b p c' b' ∧
      s.poll b = (p.settle shape, ⟨c', .rows shape⟩, b'.record log) := by
  have hp := s.cursor.polled b
  rw [poll, h]
  generalize s.cursor.poll Cursor.pullRow b = polled at hp
  obtain ⟨p, c', b'⟩ := polled
  match p with
  | .pending | .item (.error e) | .finished => exact ⟨_, c', b', [], hp, by simp; rfl⟩
  | .item (.ok r) => exact ⟨_, c', b', shape.report r, hp, rfl⟩

def pollTimes (s : ResultStream α) (b : Backend) : Nat → List (Poll α) × ResultStream α × Backend
  | 0 => ([], s, b)
  | n + 1 =>
    let (p, s, b) := s.poll b
    let (ps, s, b) := s.pollTimes b n
    (p :: ps, s, b)

theorem answers_pollTimes (hs : s.reader = .rows shape) (hc : s.cursor.unsent = none)
    (b : Backend) (n : Nat) :
    (s.pollTimes b n).1 = answersTo (s.cursor.remaining.map shape.settle) n ∧
      (s.pollTimes b n).2.2.pulled = b.pulled + s.cursor.reach n := by
  induction n generalizing s b with
  | zero =>
    have hreach : s.cursor.reach 0 = 0 := by
      cases hcursor : s.cursor with
      | running q items => exact Response.reach_zero items
      | refused _ | idle _ _ | waiting _ _ | failed | ended => rfl
    exact ⟨(answersTo_zero _).symm, by rw [hreach]; rfl⟩
  | succ n ih =>
    obtain ⟨p, c', b', log, hp, hpoll⟩ := exists_polled hs b
    obtain ⟨rfl, hremaining, hsent, -, k, hk, hreach⟩ := hp.of_sent hc
    obtain ⟨hanswers, hpulled⟩ := ih (s := ⟨c', .rows shape⟩) rfl hsent (b'.record log)
    rw [pollTimes, hpoll]
    constructor
    · change Poll.settle shape _ :: _ = _
      rw [hanswers, answersTo_succ, settle_next, ← List.map_tail, ← hremaining]
    · change (pollTimes _ (b'.record log) n).2.2.pulled = _
      rw [hpulled, hreach]
      change b'.pulled + _ = _
      rw [hk, Nat.add_assoc]

/-- With a free connection the first poll goes on as if the query had been sent before. -/
theorem poll_idle_of_free {k : Nat} (reader : Reader α) (q : Query) (logged : Bool)
    (h : b.acquireFailure = none) (hfree : b.pool.free = k + 1) :
    ∃ log, (⟨.idle q logged, reader⟩ : ResultStream α).poll b =
      (⟨.running q (b.responses.head?.getD []), reader⟩ : ResultStream α).poll
        (({ b with pool := { b.pool with free := k } }.send q).2.record log) := by
  have hstart := b.starts q logged
  simp only [poll, Cursor.poll]
  generalize b.start q logged = started at hstart
  obtain ⟨a, b'⟩ := started
  cases hstart with
  | failed m log harmed =>
    rw [h] at harmed
    cases harmed
  | queued log _ hnone =>
    rw [hfree] at hnone
    cases hnone
  | opened k' log _ hfree' =>
    obtain rfl : k = k' := Nat.succ.inj (hfree.symm.trans hfree')
    exact ⟨log, rfl⟩

theorem poll_of_free {logged : Bool} (hs : s = ⟨.idle q logged, .rows shape⟩)
    (h : b.acquireFailure = none) (hfree : 0 < b.pool.free) :
    ∃ b₀, s.poll b = (⟨.running q (b.responses.head?.getD []), .rows shape⟩ :
        ResultStream α).poll b₀ ∧ b₀.pulled = b.pulled := by
  obtain ⟨k, hk⟩ := Nat.exists_eq_succ_of_ne_zero (Nat.ne_of_gt hfree)
  obtain ⟨log, hpoll⟩ := poll_idle_of_free (.rows shape) q logged h hk
  subst hs
  exact ⟨_, hpoll, rfl⟩

end ResultStream

namespace Client

variable {client : Client} {s : Statement}

theorem perform_of_compile {β : Type} (h : client.compile s = .ok q) (refuse : Error → β)
    (consume : List Pull → Reading β) (b : Backend) :
    client.perform s refuse consume b = b.perform q client.logsQueries refuse consume := by
  rw [perform, h]

theorem stream_of_compile (h : client.compile s = .ok q) (shape : Shape α) :
    client.stream s shape = ⟨.idle q client.logsQueries, .rows shape⟩ := by
  rw [stream, cursor, h]

theorem stream_of_error {e : Error} (h : client.compile s = .error e) (shape : Shape α) :
    client.stream s shape = ⟨.refused e, .rows shape⟩ := by
  rw [stream, cursor, h]

/-- A stream that was not polled holds nothing and waits for nothing. -/
theorem stream_rests (client : Client) (s : Statement) (shape : Shape α) :
    (client.stream s shape).cursor.held = 0 ∧ (client.stream s shape).cursor.tickets = [] := by
  rcases h : client.compile s with e | q
  · rw [stream_of_error h]
    exact ⟨rfl, rfl⟩
  · rw [stream_of_compile h]
    exact ⟨rfl, rfl⟩

end Client
end Quarry
