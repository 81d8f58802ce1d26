import Quarry.Proofs.Client.Streaming

/-!
# Consumers of streams

A consumer has opened a stream of rows, polls it as often as it likes and may drop it at any
time. It keeps its answers, and an account of the connections that its polls and its drop
acquired and released (`Consumer.Sound`).
-/

namespace Quarry

structure Opening where
  {Result : Type}
  client : Client
  statement : Statement
  shape : Shape Result

def Opening.stream (o : Opening) : ResultStream o.Result := o.client.stream o.statement o.shape

structure Consumer (o : Opening) where
  /-- The stream, until it is dropped. -/
  stream : Option (ResultStream o.Result)
  answers : List (Poll o.Result)
  acquired : Nat
  released : Nat

namespace Consumer

variable {o : Opening} {c : Consumer o} {s : ResultStream o.Result} {b b' : Backend}

def start (o : Opening) : Consumer o := ⟨some o.stream, [], 0, 0⟩

/-- Enter into the account what was acquired and released between two states of the backend. -/
def charge (c : Consumer o) (b b' : Backend) : Consumer o :=
  { c with
    acquired := c.acquired + (b'.acquired - b.acquired)
    released := c.released + (b'.released - b.released) }

def poll (c : Consumer o) (b : Backend) : Consumer o × Backend :=
  match c.stream with
  | none => (c, b)
  | some s =>
    let (p, s, b') := s.poll b
    ({ c with stream := some s, answers := c.answers ++ [p] }.charge b b', b')

def drop (c : Consumer o) (b : Backend) : Consumer o × Backend :=
  match c.stream with
  | none => (c, b)
  | some s =>
    let b' := s.cursor.drop b
    ({ c with stream := none }.charge b b', b')

def cursor (c : Consumer o) : Cursor := c.stream.elim .ended ResultStream.cursor

/-- Whether the stream has asked for a connection and did not get one yet. -/
def waits (c : Consumer o) : Bool := !c.cursor.tickets.isEmpty

theorem cursor_of_none (h : c.stream = none) : c.cursor = .ended := by
  rw [cursor, h]
  rfl

theorem cursor_of_some (h : c.stream = some s) : c.cursor = s.cursor := by
  rw [cursor, h]
  rfl

theorem poll_of_none (h : c.stream = none) (b : Backend) : c.poll b = (c, b) := by
  rw [poll, h]

theorem drop_of_none (h : c.stream = none) (b : Backend) : c.drop b = (c, b) := by
  rw [drop, h]

theorem drop_of_some (h : c.stream = some s) (b : Backend) :
    c.drop b = ({ c with stream := none }.charge b (s.cursor.drop b), s.cursor.drop b) := by
  rw [drop, h]

/-- A poll is a poll of the cursor, with the item mapped. -/
theorem exists_polled (h : c.stream = some s) (hs : s.reader = .rows o.shape) (b : Backend) :
    ∃ p cursor b' log, s.cursor.Polled b p cursor b' ∧
      c.poll b = ({ c with
        stream := some ⟨cursor, .rows o.shape⟩
        answers := c.answers ++ [p.settle o.shape] }.charge b (b'.record log), b'.record log) := by
  obtain ⟨p, cursor, b', log, hp, hpoll⟩ := ResultStream.exists_polled hs b
  refine ⟨p, cursor, b', log, hp, ?_⟩
  simp only [poll, h, hpoll]

structure Sound (c : Consumer o) : Prop where
  reader : ∀ s, c.stream = some s → s.reader = .rows o.shape
  balanced : c.acquired = c.released + c.cursor.held
  acquired_le : c.acquired ≤ 1
  unpolled : c.answers = [] → c.acquired = 0
  unsent : ∀ q, c.cursor.unsent = some q → c.acquired = 0 ∧ ∀ p ∈ c.answers, p = .pending
  finished : .finished ∈ c.answers → c.cursor = .ended
  unfinished : c.stream ≠ none → .finished ∉ c.answers → c.released = 0

theorem sound_start (o : Opening) : (start o).Sound where
  reader := by
    intro s hs
    obtain rfl := Option.some.inj hs
    rfl
  balanced := by
    have hcursor : (start o).cursor = o.stream.cursor := rfl
    rw [hcursor, Opening.stream, (o.client.stream_rests o.statement o.shape).1]
    rfl
  acquired_le := Nat.zero_le 1
  unpolled _ := rfl
  unsent _ _ := ⟨rfl, fun p hp => absurd hp List.not_mem_nil⟩
  finished h := absurd h List.not_mem_nil
  unfinished _ _ := rfl

section Polled

variable {p : Poll Row} {cursor : Cursor}

theorem Sound.balanced_polled (hc : c.Sound) (h : c.stream = some s)
    (hp : s.cursor.Polled b p cursor b') :
    c.acquired + (b'.acquired - b.acquired) =
      c.released + (b'.released - b.released) + cursor.held := by
  have hbalanced := hc.balanced
  rw [cursor_of_some h] at hbalanced
  have hadd := hp.held_add
  have hacquired := hp.acquired_le
  have hreleased := hp.released_le
  omega

/-- A connection is acquired once: when a query is sent it was not sent before. -/
theorem Sound.acquired_polled (hc : c.Sound) (h : c.stream = some s)
    (hp : s.cursor.Polled b p cursor b') :
    c.acquired + (b'.acquired - b.acquired) ≤ 1 ∧
      (cursor.unsent ≠ none → c.acquired + (b'.acquired - b.acquired) = c.acquired) := by
  rcases hp.sent with hspares | ⟨q, hq, hnone, hsends⟩
  · rw [hspares.acquired, Nat.sub_self]
    exact ⟨hc.acquired_le, fun _ => rfl⟩
  · rw [← cursor_of_some h] at hq
    rw [hsends.acquired, (hc.unsent q hq).1]
    exact ⟨by omega, fun hsome => absurd hnone hsome⟩

theorem Sound.polled (hc : c.Sound) (h : c.stream = some s) (hp : s.cursor.Polled b p cursor b') :
    ({ c with
      stream := some ⟨cursor, .rows o.shape⟩
      answers := c.answers ++ [p.settle o.shape] }.charge b b').Sound where
  reader := by
    intro s hs
    obtain rfl := Option.some.inj hs
    rfl
  balanced := hc.balanced_polled h hp
  acquired_le := (hc.acquired_polled h hp).1
  unpolled hnil := absurd hnil (List.append_ne_nil_of_right_ne_nil _ (List.cons_ne_nil _ _))
  unsent := by
    intro q hq
    change cursor.unsent = some q at hq
    have hacquired := (hc.acquired_polled h hp).2 (by simp [hq])
    -- a query that is not sent yet was not sent before, and the poll has to wait
    rcases hp.unsent with ⟨rfl, hkept, -⟩ | ⟨-, hnone⟩
    · rw [← cursor_of_some h] at hkept
      obtain ⟨hzero, hpending⟩ := hc.unsent q (hkept.symm.trans hq)
      refine ⟨hacquired.trans hzero, ?_⟩
      intro p hp
      rcases List.mem_append.1 hp with hp | hp
      · exact hpending p hp
      · exact List.mem_singleton.1 hp
    · rw [hnone] at hq
      cases hq
  finished := by
    intro hmem
    change cursor = .ended
    rcases List.mem_append.1 hmem with hmem | hmem
    · have hended := hc.finished hmem
      rw [cursor_of_some h] at hended
      rw [hended] at hp
      exact hp.of_ended.2.1
    · obtain rfl := Poll.settle_eq_finished (List.mem_singleton.1 hmem).symm
      exact hp.ended_of_finished
  unfinished := by
    intro _ hmem
    change c.released + (b'.released - b.released) = 0
    have hnot : .finished ∉ c.answers := fun hin => hmem (List.mem_append_left _ hin)
    have hzero := hc.unfinished (by simp [h]) hnot
    rcases hp.released with hkept | ⟨rfl, -⟩
    · omega
    · exact absurd (List.mem_append_right _ List.mem_cons_self) hmem

end Polled

theorem Sound.poll (hc : c.Sound) (b : Backend) : (c.poll b).1.Sound := by
  rcases h : c.stream with _ | s
  · rw [poll_of_none h]
    exact hc
  · obtain ⟨p, cursor, b', log, hp, hpoll⟩ := exists_polled h (hc.reader s h) b
    have hpolled := hc.polled h hp
    rw [hpoll]
    exact hpolled

theorem Sound.drop (hc : c.Sound) (b : Backend) : (c.drop b).1.Sound := by
  rcases h : c.stream with _ | s
  · rw [drop_of_none h]
    exact hc
  · obtain ⟨hacquired, hreleased, -⟩ := s.cursor.counts_drop b
    have hkept : c.acquired + ((s.cursor.drop b).acquired - b.acquired) = c.acquired := by omega
    have hbalanced := hc.balanced
    rw [cursor_of_some h] at hbalanced
    rw [drop_of_some h]
    refine ⟨?reader, ?balanced, hkept.trans_le hc.acquired_le,
      fun hnil => hkept.trans (hc.unpolled hnil), ?unsent, fun _ => rfl,
      fun hlive => absurd rfl hlive⟩
    case reader =>
      intro s hs
      exact absurd hs (Option.some_ne_none s).symm
    case balanced =>
      change c.acquired + ((s.cursor.drop b).acquired - b.acquired) =
        c.released + ((s.cursor.drop b).released - b.released) + 0
      omega
    case unsent =>
      intro q hq
      exact absurd hq (Option.some_ne_none q).symm

variable {n out : Nat} {others : List Ticket}

theorem Sound.balanced_poll (hc : c.Sound)
    (hb : b.Balanced n (out + c.cursor.held) (c.cursor.tickets ++ others)) :
    (c.poll b).2.Balanced n (out + (c.poll b).1.cursor.held)
      ((c.poll b).1.cursor.tickets ++ others) := by
  rcases h : c.stream with _ | s
  · rw [poll_of_none h]
    exact hb
  · obtain ⟨p, cursor, b', log, hp, hpoll⟩ := exists_polled h (hc.reader s h) b
    rw [cursor_of_some h] at hb
    rw [hpoll]
    exact (hp.balanced hb).record log

theorem balanced_drop (hb : b.Balanced n (out + c.cursor.held) (c.cursor.tickets ++ others)) :
    (c.drop b).2.Balanced n (out + (c.drop b).1.cursor.held)
      ((c.drop b).1.cursor.tickets ++ others) := by
  rcases h : c.stream with _ | s
  · rw [drop_of_none h]
    exact hb
  · rw [cursor_of_some h] at hb
    rw [drop_of_some h]
    exact Cursor.balanced_drop hb

/-- A poll acquires a connection only after polls that had to wait, and it has to wait only when
no connection is free; it releases the connection when it answers with the end. -/
theorem Sound.counts_poll (hc : c.Sound)
    (hb : b.Balanced n (out + c.cursor.held) (c.cursor.tickets ++ others)) :
    ((c.poll b).1.acquired = c.acquired ∨ ∀ p ∈ c.answers, p = .pending) ∧
      ((c.poll b).1.released = c.released ∨ (c.poll b).1.answers = c.answers ++ [.finished]) ∧
      ((c.poll b).1.answers = c.answers ++ [.pending] → b.pool.free = 0) := by
  rcases h : c.stream with _ | s
  · rw [poll_of_none h]
    exact ⟨.inl rfl, .inl rfl, fun hnil => by simp at hnil⟩
  · obtain ⟨p, cursor, b', log, hp, hpoll⟩ := exists_polled h (hc.reader s h) b
    have hcursor := cursor_of_some h
    rw [hpoll]
    refine ⟨?acquired, ?released, ?pending⟩
    case acquired =>
      rcases hp.sent with hspares | ⟨q, hq, -, -⟩
      · left
        change c.acquired + (b'.acquired - b.acquired) = c.acquired
        rw [hspares.acquired, Nat.sub_self, Nat.add_zero]
      · right
        exact (hc.unsent q (hcursor ▸ hq)).2
    case released =>
      rcases hp.released with hkept | ⟨rfl, -⟩
      · left
        change c.released + (b'.released - b.released) = c.released
        rw [hkept, Nat.sub_self, Nat.add_zero]
      · exact .inr rfl
    case pending =>
      intro hanswers
      have hpending : p.settle o.shape = .pending := by
        simpa [charge] using hanswers
      rw [hcursor] at hb
      obtain rfl := Poll.settle_eq_pending hpending
      exact hp.exhausted hb

theorem acquired_drop (c : Consumer o) (b : Backend) : (c.drop b).1.acquired = c.acquired := by
  rcases h : c.stream with _ | s
  · rw [drop_of_none h]
  · rw [drop_of_some h]
    change c.acquired + ((s.cursor.drop b).acquired - b.acquired) = c.acquired
    rw [(s.cursor.counts_drop b).1, Nat.sub_self, Nat.add_zero]

theorem answers_poll (c : Consumer o) (b : Backend) : c.answers <+: (c.poll b).1.answers := by
  rcases h : c.stream with _ | s
  · have hsame : (c.poll b).1.answers = c.answers := by rw [poll_of_none h]
    exact hsame ▸ List.prefix_refl _
  · rw [poll, h]
    exact List.prefix_append _ _

theorem answers_drop (c : Consumer o) (b : Backend) : (c.drop b).1.answers = c.answers := by
  rcases h : c.stream with _ | s
  · rw [drop_of_none h]
  · rw [drop_of_some h]
    rfl

theorem stream_drop (c : Consumer o) (b : Backend) : (c.drop b).1.stream = none := by
  rcases h : c.stream with _ | s
  · rw [drop_of_none h, h]
  · rw [drop_of_some h]
    rfl

/-- At the end of the stream, or when it is dropped, nothing stays acquired. -/
theorem Sound.released_eq (hc : c.Sound) (h : c.stream = none ∨ .finished ∈ c.answers) :
    c.released = c.acquired := by
  have hended : c.cursor = .ended := h.elim cursor_of_none hc.finished
  have hbalanced := hc.balanced
  rw [hended] at hbalanced
  exact hbalanced.symm

end Consumer
end Quarry
