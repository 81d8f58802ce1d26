import Quarry.Proofs.Client.Cardinality
import Quarry.Proofs.Client.Consumer
import Quarry.Proofs.Client.Terminal

/-!
# Traffic on a shared backend

Any number of clients share a backend: responses are pushed, failures armed, statements run to
the end, streams opened, polled and dropped in any order (`Move`). After every run the account
of the backend and those of the consumers are balanced (`Traffic.run_accounts`).
-/

namespace Quarry

/-- What is done on a shared backend. Streams are numbered as they are opened. -/
inductive Move where
  | push (r : Response)
  | failNextAcquire (message : String)
  | perform {β : Type} (terminal : Terminal β) (client : Client) (statement : Statement)
  | openStream (o : Opening)
  | poll (i : Nat)
  | drop (i : Nat)

structure Traffic where
  backend : Backend
  consumers : List ((o : Opening) × Consumer o)

namespace Traffic

variable {t : Traffic} {n i : Nat} {o : Opening} {c : Consumer o}

def ofSize (n : Nat) : Traffic := ⟨.ofSize n, []⟩

def onConsumer (t : Traffic) (i : Nat)
    (f : {o : Opening} → Consumer o → Backend → Consumer o × Backend) : Traffic :=
  match t.consumers[i]? with
  | none => t
  | some ⟨o, c⟩ => ⟨(f c t.backend).2, t.consumers.set i ⟨o, (f c t.backend).1⟩⟩

def step (t : Traffic) : Move → Traffic
  | .push r => { t with backend := t.backend.push r }
  | .failNextAcquire m => { t with backend := t.backend.failNextAcquire m }
  | .perform terminal client s => { t with backend := (terminal.run client s t.backend).2 }
  | .openStream o => { t with consumers := t.consumers ++ [⟨o, .start o⟩] }
  | .poll i => t.onConsumer i Consumer.poll
  | .drop i => t.onConsumer i Consumer.drop

/-- The traffic after these moves on a backend with `n` connections. -/
def run (n : Nat) (moves : List Move) : Traffic := moves.foldl step (ofSize n)

def holding (t : Traffic) : Nat := t.consumers.countP fun x => x.2.cursor.holdsConnection

def waiting (t : Traffic) : Nat := t.consumers.countP fun x => x.2.waits

def tickets (t : Traffic) : List Ticket := t.consumers.flatMap fun x => x.2.cursor.tickets

theorem onConsumer_of_none {f : {o : Opening} → Consumer o → Backend → Consumer o × Backend}
    (h : t.consumers[i]? = none) : t.onConsumer i f = t := by
  rw [onConsumer, h]

theorem onConsumer_of_some {f : {o : Opening} → Consumer o → Backend → Consumer o × Backend}
    (h : t.consumers[i]? = some ⟨o, c⟩) :
    t.onConsumer i f = ⟨(f c t.backend).2, t.consumers.set i ⟨o, (f c t.backend).1⟩⟩ := by
  rw [onConsumer, h]

theorem exists_append_of_getElem? {γ : Type*} {l : List γ} {x : γ} (h : l[i]? = some x) :
    ∃ before after, l = before ++ x :: after ∧ ∀ y, l.set i y = before ++ y :: after := by
  obtain ⟨hi, rfl⟩ := List.getElem?_eq_some_iff.1 h
  have hset : ∀ y, l.set i y = l.take i ++ y :: l.drop (i + 1) := by
    intro y
    rw [List.set_eq_take_append_cons_drop, if_pos hi]
  refine ⟨l.take i, l.drop (i + 1), ?_, hset⟩
  rw [← hset, List.set_getElem_self]

def Balanced (t : Traffic) (n : Nat) : Prop := t.backend.Balanced n t.holding t.tickets

/-- The account with the part of one consumer singled out. -/
theorem balanced_append_cons_iff {b : Backend} {before after : List ((o : Opening) × Consumer o)} :
    Balanced ⟨b, before ++ ⟨o, c⟩ :: after⟩ n ↔
      b.Balanced n (holding ⟨b, before ++ after⟩ + c.cursor.held)
        (c.cursor.tickets ++ tickets ⟨b, before ++ after⟩) := by
  have hholding : holding ⟨b, before ++ ⟨o, c⟩ :: after⟩ =
      holding ⟨b, before ++ after⟩ + c.cursor.held := by
    simp only [holding, List.countP_append, List.countP_cons, Cursor.held]
    omega
  have htickets : (tickets ⟨b, before ++ ⟨o, c⟩ :: after⟩).Perm
      (c.cursor.tickets ++ tickets ⟨b, before ++ after⟩) := by
    simp only [tickets, List.flatMap_append, List.flatMap_cons]
    exact List.perm_append_comm_assoc _ _ _
  rw [Balanced, hholding]
  exact ⟨fun h => h.perm htickets, fun h => h.perm htickets.symm⟩

structure Sound (t : Traffic) (n : Nat) : Prop where
  balanced : t.Balanced n
  consumers : ∀ x ∈ t.consumers, x.2.Sound

theorem sound_ofSize (n : Nat) : (ofSize n).Sound n :=
  ⟨.ofSize n, fun _ hx => absurd hx List.not_mem_nil⟩

theorem Sound.onConsumer {f : {o : Opening} → Consumer o → Backend → Consumer o × Backend}
    (h : t.Sound n) (hf : ∀ {o : Opening} (c : Consumer o), c.Sound → (f c t.backend).1.Sound)
    (hb : ∀ {o : Opening} (c : Consumer o) {out : Nat} {others : List Ticket}, c.Sound →
      t.backend.Balanced n (out + c.cursor.held) (c.cursor.tickets ++ others) →
      (f c t.backend).2.Balanced n (out + (f c t.backend).1.cursor.held)
        ((f c t.backend).1.cursor.tickets ++ others)) (i : Nat) :
    (t.onConsumer i f).Sound n := by
  rcases hget : t.consumers[i]? with _ | ⟨o, c⟩
  · rw [onConsumer_of_none hget]
    exact h
  · have hc : c.Sound := h.consumers ⟨o, c⟩ (List.mem_of_getElem? hget)
    obtain ⟨before, after, heq, hset⟩ := exists_append_of_getElem? hget
    have hbalanced : Balanced ⟨t.backend, t.consumers⟩ n := h.balanced
    rw [heq, balanced_append_cons_iff] at hbalanced
    rw [onConsumer_of_some hget, hset]
    refine ⟨balanced_append_cons_iff.2 (hb c hc hbalanced), ?_⟩
    intro x hx
    rcases List.mem_append.1 hx with hx | hx
    · exact h.consumers x (heq ▸ List.mem_append_left _ hx)
    · rcases List.mem_cons.1 hx with rfl | hx
      · exact hf c hc
      · exact h.consumers x (heq ▸ List.mem_append_right _ (List.mem_cons_of_mem _ hx))

theorem Sound.openStream (h : t.Sound n) (o : Opening) : (t.step (.openStream o)).Sound n := by
  have hidle : (Consumer.start o).cursor.held = 0 ∧ (Consumer.start o).cursor.tickets = [] :=
    o.client.stream_rests o.statement o.shape
  refine ⟨?balanced, ?consumers⟩
  case balanced =>
    have hb : t.backend.Balanced n t.holding t.tickets := h.balanced
    refine balanced_append_cons_iff.2 ?_
    rw [hidle.1, hidle.2, List.append_nil]
    exact hb
  case consumers =>
    intro x hx
    rcases List.mem_append.1 hx with hx | hx
    · exact h.consumers x hx
    · rw [List.mem_singleton.1 hx]
      exact Consumer.sound_start o

theorem Sound.step (h : t.Sound n) (m : Move) : (t.step m).Sound n := by
  cases m with
  | push r => exact ⟨Backend.Balanced.push h.balanced r, h.consumers⟩
  | failNextAcquire m => exact ⟨Backend.Balanced.arm h.balanced (some m), h.consumers⟩
  | perform terminal client s => exact ⟨terminal.balanced client s h.balanced, h.consumers⟩
  | openStream o => exact h.openStream o
  | poll i => exact h.onConsumer (fun c hc => hc.poll _) (fun c _ _ hc hb => hc.balanced_poll hb) i
  | drop i => exact h.onConsumer (fun c hc => hc.drop _) (fun c _ _ _ hb => c.balanced_drop hb) i

theorem Sound.foldl (h : t.Sound n) (moves : List Move) :
    Sound (moves.foldl Traffic.step t) n := by
  induction moves generalizing t with
  | nil => exact h
  | cons m ms ih => exact ih (h.step m)

theorem sound_run (n : Nat) (moves : List Move) : (run n moves).Sound n :=
  (sound_ofSize n).foldl moves

theorem getElem?_onConsumer (h : t.consumers[i]? = some ⟨o, c⟩) (j : Nat)
    (f : {o : Opening} → Consumer o → Backend → Consumer o × Backend) :
    (t.onConsumer j f).consumers[i]? =
      if j = i then some ⟨o, (f c t.backend).1⟩ else some ⟨o, c⟩ := by
  have hlt : i < t.consumers.length := (List.getElem?_eq_some_iff.1 h).1
  rcases hj : t.consumers[j]? with _ | ⟨o', c'⟩
  · rw [onConsumer_of_none hj, h, if_neg]
    rintro rfl
    rw [hj] at h
    cases h
  · rw [onConsumer_of_some hj, List.getElem?_set]
    split
    · subst j
      rw [h] at hj
      cases hj
      rw [if_pos hlt]
    · exact h

/-- A consumer changes when it polls or drops its stream, and stays. -/
theorem exists_step (h : t.consumers[i]? = some ⟨o, c⟩) (m : Move) :
    ∃ c' : Consumer o, (t.step m).consumers[i]? = some ⟨o, c'⟩ ∧
      (c' = c ∨ (m = .poll i ∧ c' = (c.poll t.backend).1) ∨
        m = .drop i ∧ c' = (c.drop t.backend).1) := by
  have hlt : i < t.consumers.length := (List.getElem?_eq_some_iff.1 h).1
  cases m with
  | push _ | failNextAcquire _ | perform _ _ _ => exact ⟨c, h, .inl rfl⟩
  | openStream o' => exact ⟨c, (List.getElem?_append_left hlt).trans h, .inl rfl⟩
  | poll j =>
    have hpoll := getElem?_onConsumer h j Consumer.poll
    by_cases hj : j = i
    · exact ⟨_, hpoll.trans (if_pos hj), .inr (.inl ⟨by rw [hj], rfl⟩)⟩
    · exact ⟨c, hpoll.trans (if_neg hj), .inl rfl⟩
  | drop j =>
    have hdrop := getElem?_onConsumer h j Consumer.drop
    by_cases hj : j = i
    · exact ⟨_, hdrop.trans (if_pos hj), .inr (.inr ⟨by rw [hj], rfl⟩)⟩
    · exact ⟨c, hdrop.trans (if_neg hj), .inl rfl⟩

theorem length_tickets (t : Traffic) : t.tickets.length = t.waiting := by
  rw [tickets, waiting]
  induction t.consumers with
  | nil => rfl
  | cons x xs ih =>
    have hx : x.2.cursor.tickets.length = if x.2.waits = true then 1 else 0 := by
      rw [Consumer.waits]
      cases x.2.cursor <;> rfl
    rw [List.flatMap_cons, List.length_append, ih, hx, List.countP_cons, Nat.add_comm]

theorem Sound.consumer (h : t.Sound n) (hget : t.consumers[i]? = some ⟨o, c⟩) : c.Sound :=
  h.consumers ⟨o, c⟩ (List.mem_of_getElem? hget)

/-- When a consumer acquires and releases a connection, and when it has to wait. -/
theorem Sound.exists_step (h : t.Sound n) (hget : t.consumers[i]? = some ⟨o, c⟩) (m : Move) :
    ∃ c' : Consumer o, (t.step m).consumers[i]? = some ⟨o, c'⟩ ∧
      (c'.acquired = c.acquired ∨ m = .poll i ∧ ∀ p ∈ c.answers, p = .pending) ∧
      (c'.released = c.released ∨ m = .drop i ∧ c'.stream = none ∨
        m = .poll i ∧ c'.answers = c.answers ++ [.finished]) ∧
      (c'.answers = c.answers ++ [.pending] → t.backend.pool.free = 0) := by
  have hc := h.consumer hget
  obtain ⟨c', hget', rfl | ⟨rfl, rfl⟩ | ⟨rfl, rfl⟩⟩ := Traffic.exists_step hget m
  · exact ⟨_, hget', .inl rfl, .inl rfl, fun hnil => by simp at hnil⟩
  · obtain ⟨before, after, heq, -⟩ := exists_append_of_getElem? hget
    have hbalanced : Balanced ⟨t.backend, t.consumers⟩ n := h.balanced
    rw [heq, balanced_append_cons_iff] at hbalanced
    obtain ⟨hacquired, hreleased, hpending⟩ := hc.counts_poll hbalanced
    exact ⟨_, hget', hacquired.imp_right fun hp => ⟨rfl, hp⟩,
      hreleased.imp_right fun hp => .inr ⟨rfl, hp⟩, hpending⟩
  · refine ⟨_, hget', .inl (c.acquired_drop _), .inr (.inl ⟨rfl, c.stream_drop _⟩), ?_⟩
    intro hnil
    rw [c.answers_drop] at hnil
    simp at hnil

/-- After every run the connections in use are those that live streams hold, and one query was
sent for each that was acquired. A consumer acquires one connection at most, by its first poll
that need not wait, and releases it by the poll that finds the end or by the drop, not before.
What is run to the end leaves no connection in use. -/
theorem run_accounts (n : Nat) (moves : List Move) :
    let t := run n moves
    (t.backend.acquired - t.backend.released = t.holding ∧ t.holding ≤ n ∧
      t.backend.released ≤ t.backend.acquired ∧
      t.backend.executed.length = t.backend.acquired) ∧
    (t.backend.pool.checkedOut =
        t.backend.acquired - t.backend.released + t.backend.pool.granted.length ∧
      (t.waiting = 0 → t.backend.pool.checkedOut = t.backend.acquired - t.backend.released)) ∧
    (∀ x ∈ t.consumers, x.2.acquired ≤ 1 ∧ (x.2.answers = [] → x.2.acquired = 0) ∧
      x.2.acquired = x.2.released + x.2.cursor.held ∧
      (x.2.stream ≠ none → .finished ∉ x.2.answers → x.2.released = 0) ∧
      (x.2.stream = none ∨ .finished ∈ x.2.answers → x.2.released = x.2.acquired)) ∧
    (∀ {o : Opening} (c : Consumer o) (i : Nat) (m : Move), t.consumers[i]? = some ⟨o, c⟩ →
      ∃ c' : Consumer o, (t.step m).consumers[i]? = some ⟨o, c'⟩ ∧
        (c'.acquired = c.acquired ∨ m = .poll i ∧ ∀ p ∈ c.answers, p = .pending) ∧
        (c'.released = c.released ∨ m = .drop i ∧ c'.stream = none ∨
          m = .poll i ∧ c'.answers = c.answers ++ [.finished]) ∧
        (c'.answers = c.answers ++ [.pending] → t.backend.pool.free = 0)) ∧
    ∀ {β : Type} (terminal : Terminal β) (client : Client) (s : Statement),
      let b := (terminal.run client s t.backend).2
      b.acquired - b.released = t.backend.acquired - t.backend.released := by
  intro t
  have hsound : t.Sound n := sound_run n moves
  have hbalanced : t.backend.Balanced n t.holding t.tickets := hsound.balanced
  have hcounted := hbalanced.counted
  obtain ⟨hchecked, hgranted⟩ := hbalanced.pool.checkedOut
  rw [length_tickets] at hgranted
  refine ⟨⟨by omega, hbalanced.pool.held_le, by omega, hbalanced.sent⟩,
    ⟨by omega, fun _ => by omega⟩, ?consumers, fun c i m hget => hsound.exists_step hget m,
    ?terminals⟩
  case consumers =>
    intro x hx
    have hc := hsound.consumers x hx
    exact ⟨hc.acquired_le, hc.unpolled, hc.balanced, hc.unfinished, hc.released_eq⟩
  case terminals =>
    intro β terminal client s b
    have hcounts : b.acquired + t.backend.released = t.backend.acquired + b.released :=
      terminal.counts client s t.backend
    omega

def readBooks : Opening := ⟨.default, Client.books, Client.bookTitle⟩

-- The only connection is handed to the stream that waits, which has not acquired it yet.
example :
    let t := run 1 [.push Client.brokenResponse, .openStream readBooks, .openStream readBooks,
      .poll 0, .poll 1, .drop 0]
    (t.waiting, t.holding, t.backend.pool.checkedOut) = (1, 0, 1) ∧
      (t.backend.acquired, t.backend.released) = (1, 1) := by
  decide

end Traffic
end Quarry
