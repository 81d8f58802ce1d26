import Quarry.Client.Cursor
import Quarry.Proofs.Client.Accounts
import Quarry.Proofs.Client.Reading

/-!
# Polls of a cursor

What one poll of a cursor does (`Cursor.Polled`): it is refused, denied or told to wait, or
else there is a connection (`Cursor.Connected`) over which the next visible item comes, or
the end. From this follow the account of a poll, what it sends, and what a stream of mapped
rows answers.
-/

namespace Quarry

def Poll.next {α : Type} : List (Except Error α) → Poll α
  | [] => .finished
  | x :: _ => .item x

namespace Cursor

variable {c c' c₀ : Cursor} {b b' b₀ : Backend} {q : Query} {t : Ticket} {p : Poll Row}
variable {n out : Nat} {others : List Ticket}

/-- The items that are to come while no other query is sent. -/
def remaining : Cursor → List (Except Error Row)
  | refused e => [.error e]
  | running q items => items.visible.map (·.mapError (executionError q))
  | idle _ _ | waiting _ _ | failed | ended => []

/-- How many items are pulled to see `n` of the remaining ones. -/
def reach (n : Nat) : Cursor → Nat
  | running _ items => Response.reach n items
  | refused _ | idle _ _ | waiting _ _ | failed | ended => 0

def unsent : Cursor → Option Query
  | idle q _ | waiting q _ => some q
  | refused _ | running _ _ | failed | ended => none

def held (c : Cursor) : Nat := if c.holdsConnection then 1 else 0

def tickets : Cursor → List Ticket
  | waiting _ t => [t]
  | refused _ | idle _ _ | running _ _ | failed | ended => []

theorem held_eq_one (h : c.holdsConnection = true) : c.held = 1 := if_pos h

theorem tickets_of_holds (h : c.holdsConnection = true) : c.tickets = [] := by
  cases c with
  | running _ _ | failed => rfl
  | refused _ | idle _ _ | waiting _ _ | ended => cases h

theorem unsent_of_holds (h : c.holdsConnection = true) : c.unsent = none := by
  cases c with
  | running _ _ | failed => rfl
  | refused _ | idle _ _ | waiting _ _ | ended => cases h

theorem held_of_unsent (h : c.unsent = some q) : c.held = 0 := by
  cases c with
  | idle _ _ | waiting _ _ => rfl
  | refused _ | running _ _ | failed | ended => cases h

theorem pullRow_of_visible_nil {items : Response} (h : items.visible = []) (q : Query)
    (b : Backend) :
    pullRow q items b = (.finished, ended, (b.countPulled items.length).release) := by
  induction items generalizing b with
  | nil => rfl
  | cons x items ih =>
    match x with
    | .ok (.row r) => cases h
    | .ok (.affected a) =>
      rw [pullRow, ih h, Backend.countPulled_countPulled, List.length_cons, Nat.add_comm 1]
    | .error e => cases h

theorem pullRow_of_visible_row {items : Response} {r : Row} {rest : List (Except Error Row)}
    (h : items.visible = .ok r :: rest) (q : Query) (b : Backend) :
    pullRow q items b = (.item (.ok r), running q (items.drop (Response.reach 1 items)),
      b.countPulled (Response.reach 1 items)) := by
  induction items generalizing b with
  | nil => cases h
  | cons x items ih =>
    match x with
    | .ok (.row r') =>
      obtain rfl : r' = r := by simpa [Response.visible] using (List.cons.inj h).1
      simp [pullRow, Response.reach]
    | .ok (.affected a) =>
      rw [pullRow, ih h, Backend.countPulled_countPulled, Nat.add_comm 1]
      rfl
    | .error e => cases h

theorem pullRow_of_visible_failure {items : Response} {e : Error} {rest : List (Except Error Row)}
    (h : items.visible = .error e :: rest) (q : Query) (b : Backend) :
    pullRow q items b = (.item (.error (executionError q e)), failed,
      (b.countPulled (Response.reach 1 items)).record (executionError q e).report) := by
  induction items generalizing b with
  | nil => cases h
  | cons x items ih =>
    match x with
    | .ok (.row r) => cases h
    | .ok (.affected a) =>
      rw [pullRow, ih h, Backend.countPulled_countPulled, Nat.add_comm 1]
      rfl
    | .error e' =>
      obtain rfl : e' = e := by simpa [Response.visible] using (List.cons.inj h).1
      rfl

theorem visible_failure_rest {items : Response} {e : Error} {rest : List (Except Error Row)}
    (h : items.visible = .error e :: rest) : rest = [] := by
  induction items with
  | nil => cases h
  | cons x items ih =>
    match x with
    | .ok (.row r) => cases h
    | .ok (.affected a) => exact ih h
    | .error e' => exact (List.cons.inj h).2.symm

/-- A cursor has a connection, or gets one when it is polled; `c₀` and `b₀` are the cursor and
the backend then. -/
inductive Connected : Cursor → Backend → Cursor → Backend → Prop where
  | held {c : Cursor} {b : Backend} (h : c.holdsConnection = true) : Connected c b c b
  | opened {b : Backend} {q : Query} {logged : Bool} (k : Nat) (log : List LogRecord)
      (h : b.acquireFailure = none) (hfree : b.pool.free = k + 1) :
    Connected (idle q logged) b (running q (b.responses.head?.getD []))
      (({ b with pool := { b.pool with free := k } }.send q).2.record log)
  | takenUp {b : Backend} {q : Query} {t : Ticket} (h : t ∈ b.pool.granted) :
    Connected (waiting q t) b (running q (b.responses.head?.getD []))
      ({ b with pool := { b.pool with granted := b.pool.granted.erase t } }.send q).2

inductive Polled : Cursor → Backend → Poll Row → Cursor → Backend → Prop where
  | refused {b : Backend} (e : Error) : Polled (refused e) b (.item (.error e)) ended b
  | denied {b : Backend} {q : Query} {logged : Bool} (m : String) (log : List LogRecord)
      (h : b.acquireFailure = some m) :
    Polled (idle q logged) b (.item (.error (executionError q (.ofText m)))) ended
      ({ b with acquireFailure := none }.record log)
  | queued {b : Backend} {q : Query} {logged : Bool} (log : List LogRecord)
      (h : b.acquireFailure = none) (hfree : b.pool.free = 0) :
    Polled (idle q logged) b .pending (waiting q b.nextTicket)
      ({ b with pool := b.pool.wait b.nextTicket, nextTicket := b.nextTicket + 1 }.record log)
  | passedOver {b : Backend} {q : Query} {t : Ticket} (h : t ∉ b.pool.granted) :
    Polled (waiting q t) b .pending (waiting q t) b
  | item {c c₀ c' : Cursor} {b b₀ : Backend} {x : Except Error Row} (k : Nat)
      (log : List LogRecord) (hc : Connected c b c₀ b₀)
      (hx : c₀.remaining = x :: c'.remaining) (holds : c'.holdsConnection = true)
      (hk : ∀ n, c₀.reach (n + 1) = k + c'.reach n) :
    Polled c b (.item x) c' ((b₀.countPulled k).record log)
  | finished {c c₀ : Cursor} {b b₀ : Backend} (k : Nat) (hc : Connected c b c₀ b₀)
      (hx : c₀.remaining = []) (hk : ∀ n, c₀.reach (n + 1) = k) :
    Polled c b .finished ended (b₀.countPulled k).release
  | ended {b : Backend} : Polled ended b .finished ended b

theorem polled_pullRow {items : Response} (hc : Connected c b (running q items) b₀) :
    Polled c b (pullRow q items b₀).1 (pullRow q items b₀).2.1 (pullRow q items b₀).2.2 := by
  match h : items.visible with
  | [] =>
    rw [pullRow_of_visible_nil h]
    exact .finished _ hc (by simp [remaining, h]) (Response.reach_of_visible_nil h)
  | .ok r :: rest =>
    rw [pullRow_of_visible_row h, ← Backend.record_nil (Backend.countPulled _ _)]
    refine .item _ _ hc ?_ rfl (Response.reach_of_visible_row h)
    simp only [remaining, h, Response.visible_drop_reach h, List.map_cons]
    rfl
  | .error e :: rest =>
    rw [pullRow_of_visible_failure h]
    refine .item _ _ hc ?_ rfl (Response.reach_of_visible_failure h)
    simp only [remaining, h, visible_failure_rest h, List.map_cons, List.map_nil]
    rfl

theorem polled (c : Cursor) (b : Backend) :
    Polled c b (c.poll pullRow b).1 (c.poll pullRow b).2.1 (c.poll pullRow b).2.2 := by
  cases c with
  | refused e => exact .refused e
  | idle q logged =>
    have hs := b.starts q logged
    rw [poll]
    generalize b.start q logged = started at hs
    obtain ⟨a, b'⟩ := started
    cases hs with
    | failed m log h => exact .denied m log h
    | queued log h hfree => exact .queued log h hfree
    | opened k log h hfree => exact polled_pullRow (.opened k log h hfree)
  | waiting q t =>
    rw [poll, Backend.takeUp?, Pool.claim?]
    by_cases ht : t ∈ b.pool.granted
    · rw [if_pos ht]
      exact polled_pullRow (.takenUp ht)
    · rw [if_neg ht]
      exact .passedOver ht
  | running q items => exact polled_pullRow (.held rfl)
  | failed =>
    rw [poll, ← Backend.countPulled_zero b]
    exact .finished 0 (.held rfl) rfl fun n => rfl
  | ended => exact .ended

theorem Connected.balanced (hc : Connected c b c₀ b₀)
    (h : b.Balanced n (out + c.held) (c.tickets ++ others)) :
    b₀.Balanced n (out + 1) others := by
  cases hc with
  | held hholds =>
    rw [held_eq_one hholds, tickets_of_holds hholds] at h
    exact h
  | opened k log _ hfree => exact (h.acquire hfree _).record log
  | takenUp ht =>
    exact h.send (h.pool.claim ht) (fun t ht => List.mem_cons_of_mem _ ht) _

theorem Polled.balanced (hp : Polled c b p c' b')
    (h : b.Balanced n (out + c.held) (c.tickets ++ others)) :
    b'.Balanced n (out + c'.held) (c'.tickets ++ others) := by
  cases hp with
  | refused e => exact h
  | denied m log _ => exact (h.arm none).record log
  | queued log _ hfree => exact (h.queue hfree).record log
  | passedOver _ => exact h
  | item k log hc _ holds _ =>
    rw [held_eq_one holds, tickets_of_holds holds]
    exact ((hc.balanced h).countPulled k).record log
  | finished k hc _ _ => exact ((hc.balanced h).countPulled k).release
  | ended => exact h

theorem balanced_drop (h : b.Balanced n (out + c.held) (c.tickets ++ others)) :
    (c.drop b).Balanced n out others := by
  cases c with
  | refused _ | idle _ _ | ended => exact h
  | waiting q t => exact h.withdraw
  | running _ _ | failed => exact h.release

theorem counts_drop (c : Cursor) (b : Backend) :
    (c.drop b).acquired = b.acquired ∧ (c.drop b).released = b.released + c.held ∧
      (c.drop b).executed = b.executed ∧ (c.drop b).responses = b.responses ∧
        (c.drop b).acquireFailure = b.acquireFailure := by
  cases c <;> exact ⟨rfl, rfl, rfl, rfl, rfl⟩

/-- A connection is acquired for the query that was not sent yet, and sends it. -/
theorem Connected.sent (hc : Connected c b c₀ b₀) : b₀.released = b.released ∧
    (c.held = 1 ∧ b₀ = b ∨ ∃ q, c.unsent = some q ∧ b.Sends q b₀) := by
  cases hc with
  | held hholds => exact ⟨rfl, .inl ⟨held_eq_one hholds, rfl⟩⟩
  | opened k log _ _ => exact ⟨rfl, .inr ⟨_, rfl, rfl, rfl, rfl⟩⟩
  | takenUp _ => exact ⟨rfl, .inr ⟨_, rfl, rfl, rfl, rfl⟩⟩

/-- A poll sends nothing, or the query that was not sent yet over a new connection. -/
theorem Polled.sent (hp : Polled c b p c' b') :
    b.Spares b' ∨ ∃ q, c.unsent = some q ∧ c'.unsent = none ∧ b.Sends q b' := by
  cases hp with
  | refused _ | denied _ _ _ | queued _ _ _ | passedOver _ | ended => exact .inl ⟨rfl, rfl, rfl⟩
  | item k log hc _ holds _ =>
    rcases hc.sent.2 with ⟨-, rfl⟩ | ⟨q, hq, hsent⟩
    · exact .inl ⟨rfl, rfl, rfl⟩
    · exact .inr ⟨q, hq, unsent_of_holds holds, hsent.1, hsent.2, hsent.3⟩
  | finished k hc _ _ =>
    rcases hc.sent.2 with ⟨-, rfl⟩ | ⟨q, hq, hsent⟩
    · exact .inl ⟨rfl, rfl, rfl⟩
    · exact .inr ⟨q, hq, rfl, hsent.1, hsent.2, hsent.3⟩

theorem Connected.sends (hc : Connected c b c₀ b₀) (h : c.unsent = some q) : b.Sends q b₀ := by
  obtain ⟨-, ⟨hheld, -⟩ | ⟨q', hq', hsent⟩⟩ := hc.sent
  · rw [held_of_unsent h] at hheld
    cases hheld
  · rw [h] at hq'
    cases hq'
    exact hsent

/-- The first poll is denied when a failure is armed; else it waits or sends the query. -/
theorem Polled.of_idle {logged : Bool} (hp : Polled (idle q logged) b p c' b') :
    match b.acquireFailure with
    | some m => p = .item (.error (executionError q (.ofText m))) ∧ c' = .ended ∧ b.Spares b'
    | none => (p = .pending ∧ (∃ t, c' = waiting q t) ∧ b.Spares b' ∧ b.pool.free = 0) ∨
        c'.unsent = none ∧ b.Sends q b' := by
  have unarmed : ∀ {c₀ b₀}, Connected (idle q logged) b c₀ b₀ → b.acquireFailure = none := by
    intro c₀ b₀ hc
    cases hc with
    | held h => cases h
    | opened _ _ h _ => exact h
  cases hp with
  | denied m log h =>
    rw [h]
    exact ⟨rfl, rfl, rfl, rfl, rfl⟩
  | queued log h hfree =>
    rw [h]
    exact .inl ⟨rfl, ⟨_, rfl⟩, ⟨rfl, rfl, rfl⟩, hfree⟩
  | item k log hc _ holds _ =>
    have hsent := hc.sends rfl
    rw [unarmed hc]
    exact .inr ⟨unsent_of_holds holds, hsent.acquired, hsent.executed, hsent.responses⟩
  | finished k hc _ _ =>
    have hsent := hc.sends rfl
    rw [unarmed hc]
    exact .inr ⟨rfl, hsent.acquired, hsent.executed, hsent.responses⟩

theorem Polled.of_waiting (hp : Polled (waiting q t) b p c' b') :
    (p = .pending ∧ c' = waiting q t ∧ b' = b) ∨ c'.unsent = none ∧ b.Sends q b' := by
  cases hp with
  | passedOver _ => exact .inl ⟨rfl, rfl, rfl⟩
  | item k log hc _ holds _ =>
    have hsent := hc.sends rfl
    exact .inr ⟨unsent_of_holds holds, hsent.acquired, hsent.executed, hsent.responses⟩
  | finished k hc _ _ =>
    have hsent := hc.sends rfl
    exact .inr ⟨rfl, hsent.acquired, hsent.executed, hsent.responses⟩

/-- A poll releases nothing, or the connection at the end of the items. -/
theorem Polled.released (hp : Polled c b p c' b') : b'.released = b.released ∨
    p = .finished ∧ b'.released = b.released + 1 := by
  cases hp with
  | refused _ | denied _ _ _ | queued _ _ _ | passedOver _ | ended => exact .inl rfl
  | item k log hc _ _ _ => exact .inl hc.sent.1
  | finished k hc _ _ => exact .inr ⟨rfl, congrArg (· + 1) hc.sent.1⟩

theorem Polled.acquired_le (hp : Polled c b p c' b') : b.acquired ≤ b'.acquired := by
  rcases hp.sent with hspares | ⟨q, -, -, hsends⟩
  · exact hspares.acquired.ge
  · exact hsends.acquired ▸ Nat.le_succ _

theorem Polled.released_le (hp : Polled c b p c' b') : b.released ≤ b'.released := by
  rcases hp.released with h | ⟨-, h⟩
  · exact h.ge
  · exact h ▸ Nat.le_succ _

/-- What is acquired is held until it is released. -/
theorem Polled.held_add (hp : Polled c b p c' b') :
    c'.held + b'.released + b.acquired = c.held + b.released + b'.acquired := by
  have hconnected : ∀ {c₀ b₀}, Connected c b c₀ b₀ →
      1 + b₀.released + b.acquired = c.held + b.released + b₀.acquired := by
    intro c₀ b₀ hc
    obtain ⟨hr, ⟨hheld, rfl⟩ | ⟨q, hq, hsent⟩⟩ := hc.sent
    · rw [hheld]
    · rw [hr, hsent.acquired, held_of_unsent hq]
      omega
  cases hp with
  | refused _ | denied _ _ _ | queued _ _ _ | passedOver _ | ended => rfl
  | @item _ c₀ _ _ b₀ _ k log hc _ holds _ =>
    have hadd := hconnected hc
    rw [held_eq_one holds]
    exact hadd
  | @finished _ c₀ _ b₀ k hc _ _ =>
    have hadd := hconnected hc
    change 0 + (b₀.released + 1) + b.acquired = c.held + b.released + b₀.acquired
    omega

/-- A cursor that waits has its query still to send, and no other poll is pending. -/
theorem Polled.unsent (hp : Polled c b p c' b') :
    p = .pending ∧ c'.unsent = c.unsent ∧ c.unsent ≠ none ∨ p ≠ .pending ∧ c'.unsent = none := by
  cases hp with
  | refused _ | denied _ _ _ | finished _ _ _ _ | ended => exact .inr ⟨nofun, rfl⟩
  | queued _ _ _ | passedOver _ => exact .inl ⟨rfl, rfl, nofun⟩
  | item k log hc _ holds _ => exact .inr ⟨nofun, unsent_of_holds holds⟩

/-- A cursor with nothing left to send goes on to its next item, and the backend does nothing
else. -/
theorem Polled.of_sent (hp : Polled c b p c' b') (h : c.unsent = none) :
    p = .next c.remaining ∧ c'.remaining = c.remaining.tail ∧ c'.unsent = none ∧
      (b'.responses = b.responses ∧ b'.executed = b.executed ∧
        b'.acquireFailure = b.acquireFailure) ∧
      ∃ k, b'.pulled = b.pulled + k ∧ ∀ n, c.reach (n + 1) = k + c'.reach n := by
  cases hp with
  | denied _ _ _ | queued _ _ _ | passedOver _ => cases h
  | refused _ | ended => exact ⟨rfl, rfl, rfl, ⟨rfl, rfl, rfl⟩, 0, rfl, fun n => rfl⟩
  | item k log hc hx holds hk =>
    cases hc with
    | opened _ _ _ _ | takenUp _ => cases h
    | held _ =>
      rw [hx]
      exact ⟨rfl, rfl, unsent_of_holds holds, ⟨rfl, rfl, rfl⟩, k, rfl, hk⟩
  | finished k hc hx hk =>
    cases hc with
    | opened _ _ _ _ | takenUp _ => cases h
    | held _ =>
      rw [hx]
      exact ⟨rfl, rfl, rfl, ⟨rfl, rfl, rfl⟩, k, rfl, hk⟩

/-- Unarmed, a first poll that need not wait goes on as if the query had been sent before. -/
theorem Polled.of_opened {logged : Bool} (hp : Polled (idle q logged) b p c' b')
    (h : b.acquireFailure = none) (hwaits : p ≠ .pending) :
    let c₀ := running q (b.responses.head?.getD [])
    p = .next c₀.remaining ∧ c'.remaining = c₀.remaining.tail ∧ c'.unsent = none ∧
      b'.responses = b.responses.tail ∧ b'.executed = b.executed ++ [q] ∧
        b'.acquireFailure = none := by
  intro c₀
  cases hp with
  | denied m log harmed =>
    rw [h] at harmed
    cases harmed
  | queued _ _ _ => exact absurd rfl hwaits
  | item k log hc hx holds hk =>
    cases hc with
    | held hholds => cases hholds
    | opened _ _ _ _ =>
      rw [hx]
      exact ⟨rfl, rfl, unsent_of_holds holds, rfl, rfl, h⟩
  | finished k hc hx hk =>
    cases hc with
    | held hholds => cases hholds
    | opened _ _ _ _ =>
      rw [hx]
      exact ⟨rfl, rfl, rfl, rfl, rfl, h⟩

theorem Polled.of_ended (hp : Polled .ended b p c' b') : p = .finished ∧ c' = .ended ∧ b' = b := by
  cases hp with
  | ended => exact ⟨rfl, rfl, rfl⟩
  | item k log hc _ _ _ | finished k hc _ _ =>
    cases hc with
    | held h => cases h

theorem Polled.ended_of_finished (hp : Polled c b .finished c' b') : c' = .ended := by
  cases hp with
  | finished _ _ _ _ | ended => rfl

/-- Only an exhausted pool lets a poll wait. -/
theorem Polled.exhausted (hp : Polled c b .pending c' b')
    (h : b.Balanced n (out + c.held) (c.tickets ++ others)) : b.pool.free = 0 := by
  cases hp with
  | queued _ _ hfree => exact hfree
  | passedOver ht => exact h.pool.free_eq_zero ht

end Cursor
end Quarry
