import Mathlib.Data.List.Nodup
import Quarry.Client.Backend

/-!
# The accounts of a backend

Each permit of a pool is free, handed to a request that has not taken it up, or held by
somebody who has a connection (`Pool.Balanced`). A backend has released as many connections
as it acquired but for those that are held, and sent one query for each (`Backend.Balanced`).
What can be done to a backend changes the held permits and the requests by one at most, and
keeps the rest of the account.
-/

namespace Quarry

namespace Pool

variable {p : Pool} {n held : Nat} {t : Ticket} {tickets tickets' : List Ticket}

theorem take?_of_free_zero (h : p.free = 0) : p.take? = none := by
  rw [take?, h]

theorem take?_of_free_succ {k : Nat} (h : p.free = k + 1) :
    p.take? = some { p with free := k } := by
  rw [take?, h]

theorem giveBack_of_nil (h : p.waiting = []) : p.giveBack = { p with free := p.free + 1 } := by
  rw [giveBack, h]

theorem giveBack_of_cons {ts : List Ticket} (h : p.waiting = t :: ts) :
    p.giveBack = { p with waiting := ts, granted := p.granted ++ [t] } := by
  rw [giveBack, h]

/-- Of `n` permits `held` are in use; `tickets` are the requests under way. -/
structure Balanced (p : Pool) (n held : Nat) (tickets : List Ticket) : Prop where
  size : p.size = n
  permits : p.free + p.granted.length + held = n
  requests : (p.granted ++ p.waiting).Perm tickets
  distinct : tickets.Nodup
  exhausted : p.waiting = [] ∨ p.free = 0

namespace Balanced

theorem ofSize (n : Nat) : (Pool.ofSize n).Balanced n 0 [] :=
  ⟨rfl, rfl, .refl _, .nil, .inl rfl⟩

theorem perm (h : p.Balanced n held tickets) (hp : tickets.Perm tickets') :
    p.Balanced n held tickets' :=
  ⟨h.size, h.permits, h.requests.trans hp, hp.nodup_iff.1 h.distinct, h.exhausted⟩

theorem held_le (h : p.Balanced n held tickets) : held ≤ n := by
  have := h.permits
  omega

/-- Permits that were handed to requests and not taken up count as checked out. -/
theorem checkedOut (h : p.Balanced n held tickets) :
    p.checkedOut = held + p.granted.length ∧ p.granted.length ≤ tickets.length := by
  have hpermits := h.permits
  have hlength := h.requests.length_eq
  rw [List.length_append] at hlength
  rw [Pool.checkedOut, h.size]
  omega

theorem take {k : Nat} (h : p.Balanced n held tickets) (hfree : p.free = k + 1) :
    { p with free := k }.Balanced n (held + 1) tickets := by
  have hpermits := h.permits
  have hwaiting : p.waiting = [] := h.exhausted.resolve_right (by omega)
  exact ⟨h.size, by simp only; omega, h.requests, h.distinct, .inl hwaiting⟩

theorem wait (h : p.Balanced n held tickets) (hfree : p.free = 0) (ht : t ∉ tickets) :
    (p.wait t).Balanced n held (t :: tickets) := by
  have hrequests : (p.granted ++ (p.waiting ++ [t])).Perm (t :: tickets) := by
    rw [← List.append_assoc]
    exact (List.perm_append_singleton t _).trans (h.requests.cons t)
  exact ⟨h.size, h.permits, hrequests, List.nodup_cons.2 ⟨ht, h.distinct⟩, .inr hfree⟩

theorem claim (h : p.Balanced n held (t :: tickets)) (ht : t ∈ p.granted) :
    { p with granted := p.granted.erase t }.Balanced n (held + 1) tickets := by
  have hpermits := h.permits
  have hlength := List.length_erase_add_one ht
  have hrequests : (t :: (p.granted.erase t ++ p.waiting)).Perm (t :: tickets) :=
    (List.Perm.append_right p.waiting (List.perm_cons_erase ht).symm).trans h.requests
  refine ⟨h.size, ?_, hrequests.cons_inv, (List.nodup_cons.1 h.distinct).2, h.exhausted⟩
  simp only
  omega

theorem giveBack (h : p.Balanced n (held + 1) tickets) : p.giveBack.Balanced n held tickets := by
  have hpermits := h.permits
  have hrequests := h.requests
  rcases hw : p.waiting with _ | ⟨t, ts⟩
  · rw [hw] at hrequests
    rw [giveBack_of_nil hw]
    exact ⟨h.size, by simp only; omega, by simpa only [hw] using hrequests, h.distinct, .inl hw⟩
  · rw [hw] at hrequests
    rw [giveBack_of_cons hw]
    have hfree : p.free = 0 := h.exhausted.resolve_left (by simp [hw])
    refine ⟨h.size, ?_, by simpa using hrequests, h.distinct, .inr hfree⟩
    simp only [List.length_append, List.length_singleton]
    omega

theorem withdraw (h : p.Balanced n held (t :: tickets)) :
    (p.withdraw t).Balanced n held tickets := by
  rw [Pool.withdraw]
  by_cases ht : t ∈ p.granted
  · rw [if_pos ht]
    exact (h.claim ht).giveBack
  · rw [if_neg ht]
    have hmem : t ∈ p.waiting :=
      (List.mem_append.1 (h.requests.mem_iff.2 List.mem_cons_self)).resolve_left ht
    have hrequests : (t :: (p.granted ++ p.waiting.erase t)).Perm (t :: tickets) :=
      List.perm_middle.symm.trans
        ((List.Perm.append_left p.granted (List.perm_cons_erase hmem).symm).trans h.requests)
    have hfree : p.free = 0 := h.exhausted.resolve_left (List.ne_nil_of_mem hmem)
    exact ⟨h.size, h.permits, hrequests.cons_inv, (List.nodup_cons.1 h.distinct).2, .inr hfree⟩

/-- A request that was not given a permit waits since none is free. -/
theorem free_eq_zero (h : p.Balanced n held (t :: tickets)) (ht : t ∉ p.granted) : p.free = 0 := by
  have hmem : t ∈ p.waiting :=
    (List.mem_append.1 (h.requests.mem_iff.2 List.mem_cons_self)).resolve_left ht
  exact h.exhausted.resolve_left (List.ne_nil_of_mem hmem)

end Balanced
end Pool

namespace Backend

variable {b b' : Backend} {q : Query} {n held : Nat} {t : Ticket} {tickets tickets' : List Ticket}

@[simp]
theorem record_nil (b : Backend) : b.record [] = b := by
  simp [record]

@[simp]
theorem record_record (b : Backend) (l l' : List LogRecord) :
    (b.record l).record l' = b.record (l ++ l') := by
  simp [record]

@[simp]
theorem countPulled_zero (b : Backend) : b.countPulled 0 = b := rfl

theorem countPulled_countPulled (b : Backend) (k l : Nat) :
    (b.countPulled k).countPulled l = b.countPulled (k + l) := by
  simp [countPulled, Nat.add_assoc]

inductive Starts (b : Backend) (q : Query) : Acquisition → Backend → Prop where
  | failed (m : String) (log : List LogRecord) (h : b.acquireFailure = some m) :
    Starts b q (.failed (executionError q (.ofText m)))
      ({ b with acquireFailure := none }.record log)
  | queued (log : List LogRecord) (h : b.acquireFailure = none) (hfree : b.pool.free = 0) :
    Starts b q (.queued b.nextTicket)
      ({ b with pool := b.pool.wait b.nextTicket, nextTicket := b.nextTicket + 1 }.record log)
  | opened (k : Nat) (log : List LogRecord) (h : b.acquireFailure = none)
      (hfree : b.pool.free = k + 1) :
    Starts b q (.opened (b.responses.head?.getD []))
      (({ b with pool := { b.pool with free := k } }.send q).2.record log)

theorem acquire_of_armed {m : String} (h : b.acquireFailure = some m) :
    b.acquire q = (.failed (executionError q (.ofText m)),
      { b with acquireFailure := none }.record (executionError q (.ofText m)).report) := by
  rw [acquire, h]

theorem acquire_of_exhausted (h : b.acquireFailure = none) (hfree : b.pool.free = 0) :
    b.acquire q = (.queued b.nextTicket,
      { b with pool := b.pool.wait b.nextTicket, nextTicket := b.nextTicket + 1 }) := by
  rw [acquire, h, Pool.take?_of_free_zero hfree]

theorem acquire_of_free {k : Nat} (h : b.acquireFailure = none) (hfree : b.pool.free = k + 1) :
    b.acquire q = (.opened (b.responses.head?.getD []),
      ({ b with pool := { b.pool with free := k } }.send q).2) := by
  rw [acquire, h, Pool.take?_of_free_succ hfree]
  rfl

theorem starts_acquire (b : Backend) (q : Query) : Starts b q (b.acquire q).1 (b.acquire q).2 := by
  rcases h : b.acquireFailure with _ | m
  · rcases hfree : b.pool.free with _ | k
    · have hq : Starts b q _ _ := .queued [] h hfree
      rwa [acquire_of_exhausted h hfree, ← record_nil (Prod.snd _)]
    · have ho : Starts b q _ _ := .opened k [] h hfree
      rwa [acquire_of_free h hfree, ← record_nil (Prod.snd _)]
  · rw [acquire_of_armed h]
    exact .failed m _ h

theorem Starts.of_record {a : Acquisition} {l : List LogRecord} (h : Starts (b.record l) q a b') :
    Starts b q a b' := by
  cases h with
  | failed m log h =>
    have hf : Starts b q _ _ := .failed m (l ++ log) h
    rw [← record_record] at hf
    exact hf
  | queued log h hfree =>
    have hq : Starts b q _ _ := .queued (l ++ log) h hfree
    rw [← record_record] at hq
    exact hq
  | opened k log h hfree =>
    have ho : Starts b q _ _ := .opened k (l ++ log) h hfree
    rw [← record_record] at ho
    exact ho

theorem starts (b : Backend) (q : Query) (logged : Bool) :
    Starts b q (b.start q logged).1 (b.start q logged).2 := by
  rw [start]
  cases logged with
  | false => exact starts_acquire b q
  | true => exact (starts_acquire _ q).of_record

inductive Performs {β : Type} (b : Backend) (q : Query) (refuse : Error → β)
    (consume : List Pull → Reading β) : Option β → Backend → Prop where
  | failed (m : String) (log : List LogRecord) (h : b.acquireFailure = some m) :
    Performs b q refuse consume (some (refuse (executionError q (.ofText m))))
      ({ b with acquireFailure := none }.record log)
  | gaveUp (log : List LogRecord) (h : b.acquireFailure = none) (hfree : b.pool.free = 0) :
    Performs b q refuse consume none
      (({ b with
          pool := b.pool.wait b.nextTicket
          nextTicket := b.nextTicket + 1 }.record log).withdraw b.nextTicket)
  | read (k : Nat) (log : List LogRecord) (h : b.acquireFailure = none)
      (hfree : b.pool.free = k + 1) {pulls : List Pull}
      (hpulls : pulls = pullsOf q (b.responses.head?.getD [])) :
    Performs b q refuse consume (some (consume pulls).result)
      (((({ b with pool := { b.pool with free := k } }.send q).2.countPulled
        (pulls.length - (consume pulls).rest.length)).record log).release)

theorem performs {β : Type} (b : Backend) (q : Query) (logged : Bool) (refuse : Error → β)
    (consume : List Pull → Reading β) :
    Performs b q refuse consume (b.perform q logged refuse consume).1
      (b.perform q logged refuse consume).2 := by
  have hs := starts b q logged
  rw [perform]
  generalize b.start q logged = started at hs
  obtain ⟨a, b'⟩ := started
  cases hs with
  | failed m log h => exact .failed m log h
  | queued log h hfree => exact .gaveUp log h hfree
  | opened k log h hfree =>
    have hread : Performs b q refuse consume _ _ :=
      .read k (log ++ (consume (pullsOf q (b.responses.head?.getD []))).log) h hfree rfl
    rw [← record_record] at hread
    exact hread

/-- Of the connections of a backend `held` are in use, and `tickets` wait for one. -/
structure Balanced (b : Backend) (n held : Nat) (tickets : List Ticket) : Prop where
  pool : b.pool.Balanced n held tickets
  issued : ∀ t ∈ tickets, t < b.nextTicket
  counted : b.acquired = b.released + held
  sent : b.executed.length = b.acquired

namespace Balanced

theorem ofSize (n : Nat) : (Backend.ofSize n).Balanced n 0 [] :=
  ⟨.ofSize n, nofun, rfl, rfl⟩

theorem perm (h : b.Balanced n held tickets) (hp : tickets.Perm tickets') :
    b.Balanced n held tickets' :=
  ⟨h.pool.perm hp, fun t ht => h.issued t (hp.mem_iff.2 ht), h.counted, h.sent⟩

theorem record (h : b.Balanced n held tickets) (log : List LogRecord) :
    (b.record log).Balanced n held tickets := ⟨h.pool, h.issued, h.counted, h.sent⟩

theorem countPulled (h : b.Balanced n held tickets) (k : Nat) :
    (b.countPulled k).Balanced n held tickets := ⟨h.pool, h.issued, h.counted, h.sent⟩

theorem push (h : b.Balanced n held tickets) (r : Response) : (b.push r).Balanced n held tickets :=
  ⟨h.pool, h.issued, h.counted, h.sent⟩

theorem arm (h : b.Balanced n held tickets) (m : Option String) :
    { b with acquireFailure := m }.Balanced n held tickets :=
  ⟨h.pool, h.issued, h.counted, h.sent⟩

theorem send {p : Pool} (h : b.Balanced n held tickets) (hp : p.Balanced n (held + 1) tickets')
    (hsub : ∀ t ∈ tickets', t ∈ tickets) (q : Query) :
    ({ b with pool := p }.send q).2.Balanced n (held + 1) tickets' := by
  refine ⟨hp, fun t ht => h.issued t (hsub t ht), ?_, ?_⟩
  · have := h.counted
    change b.acquired + 1 = b.released + (held + 1)
    omega
  · simp only [Backend.send, List.length_append, List.length_singleton, h.sent]

theorem acquire {k : Nat} (h : b.Balanced n held tickets) (hfree : b.pool.free = k + 1)
    (q : Query) :
    ({ b with pool := { b.pool with free := k } }.send q).2.Balanced n (held + 1) tickets :=
  h.send (h.pool.take hfree) (fun _ ht => ht) q

theorem queue (h : b.Balanced n held tickets) (hfree : b.pool.free = 0) :
    { b with pool := b.pool.wait b.nextTicket, nextTicket := b.nextTicket + 1 }.Balanced n held
      (b.nextTicket :: tickets) := by
  have hfresh : b.nextTicket ∉ tickets := fun ht => Nat.lt_irrefl _ (h.issued _ ht)
  refine ⟨h.pool.wait hfree hfresh, ?_, h.counted, h.sent⟩
  intro t ht
  rcases List.mem_cons.1 ht with rfl | ht
  · exact Nat.lt_succ_self _
  · exact Nat.lt_succ_of_lt (h.issued t ht)

theorem release (h : b.Balanced n (held + 1) tickets) : b.release.Balanced n held tickets := by
  refine ⟨h.pool.giveBack, h.issued, ?_, h.sent⟩
  have := h.counted
  change b.acquired = b.released + 1 + held
  omega

theorem withdraw (h : b.Balanced n held (t :: tickets)) :
    (b.withdraw t).Balanced n held tickets :=
  ⟨h.pool.withdraw, fun t' ht' => h.issued t' (List.mem_cons_of_mem t ht'), h.counted, h.sent⟩

theorem performs {β : Type} {refuse : Error → β} {consume : List Pull → Reading β} {x : Option β}
    (h : b.Balanced n held tickets) (hp : Performs b q refuse consume x b') :
    b'.Balanced n held tickets := by
  cases hp with
  | failed m log _ => exact (h.arm none).record log
  | gaveUp log _ hfree => exact ((h.queue hfree).record log).withdraw
  | read k log _ hfree _ => exact (((h.acquire hfree q).countPulled _).record log).release

end Balanced

/-- One connection was acquired, and it sent this query and took the next response. -/
structure Sends (q : Query) (b b' : Backend) : Prop where
  acquired : b'.acquired = b.acquired + 1
  executed : b'.executed = b.executed ++ [q]
  responses : b'.responses = b.responses.tail

/-- No connection was acquired and no query sent. -/
structure Spares (b b' : Backend) : Prop where
  acquired : b'.acquired = b.acquired
  executed : b'.executed = b.executed
  responses : b'.responses = b.responses

theorem Spares.refl (b : Backend) : Spares b b := ⟨rfl, rfl, rfl⟩

theorem Spares.record (h : Spares b b') (log : List LogRecord) : Spares b (b'.record log) :=
  ⟨h.acquired, h.executed, h.responses⟩

theorem Sends.record (h : Sends q b b') (log : List LogRecord) : Sends q b (b'.record log) :=
  ⟨h.acquired, h.executed, h.responses⟩

/-- To run a query acquires a connection and releases it, or does neither. -/
theorem Performs.sent {β : Type} {refuse : Error → β} {consume : List Pull → Reading β}
    {x : Option β} (h : Performs b q refuse consume x b') :
    Spares b b' ∧ b'.released = b.released ∨ Sends q b b' ∧ b'.released = b.released + 1 := by
  cases h with
  | failed m log _ => exact .inl ⟨⟨rfl, rfl, rfl⟩, rfl⟩
  | gaveUp log _ _ => exact .inl ⟨⟨rfl, rfl, rfl⟩, rfl⟩
  | read k log _ _ _ => exact .inr ⟨⟨rfl, rfl, rfl⟩, rfl⟩

end Backend
end Quarry
