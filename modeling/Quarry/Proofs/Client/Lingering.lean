import Quarry.Proofs.Client.Classification
import Quarry.Proofs.Client.Traffic

/-!
# Streams that have failed

A stream that answers with a failure of the driver still holds its connection. It gives it back
when it is polled once more or dropped; until then the connection counts as checked out, whatever
else is done on the backend (`Traffic.failure_keeps_connection`).
-/

namespace Quarry

def Reader.show? {α : Type} : Reader α → Reply → Option (Except Error α)
  | .replies f, r => some (.ok (f r))
  | .rows shape, .row r => some (shape.apply r)
  | .rows _, .affected _ => none

/-- The connections are used as before. -/
structure Backend.SameUse (b b' : Backend) : Prop where
  pool : b'.pool = b.pool
  acquired : b'.acquired = b.acquired
  released : b'.released = b.released

theorem Backend.SameUse.trans {b b' b'' : Backend} (h : b.SameUse b') (h' : b'.SameUse b'') :
    b.SameUse b'' :=
  ⟨h'.pool.trans h.pool, h'.acquired.trans h.acquired, h'.released.trans h.released⟩

namespace ResultStream

variable {α : Type} {q : Query} {b : Backend}

theorem poll_running_failure (reader : Reader α) (q : Query) (e : Error) (rest : Response)
    (b : Backend) : ∃ b', (⟨.running q (.error e :: rest), reader⟩ : ResultStream α).poll b =
      (.item (.error (executionError q e)), ⟨.failed, reader⟩, b') ∧ b.SameUse b' := by
  cases reader with
  | replies f => exact ⟨_, rfl, rfl, rfl, rfl⟩
  | rows shape => exact ⟨_, rfl, rfl, rfl, rfl⟩

/-- A reply is an item, or is passed over. -/
theorem poll_running_reply (reader : Reader α) (q : Query) (r : Reply) (items : Response)
    (b : Backend) : ∃ b', b.SameUse b' ∧
      (⟨.running q (.ok r :: items), reader⟩ : ResultStream α).poll b =
        match reader.show? r with
        | some x => (.item x, ⟨.running q items, reader⟩, b')
        | none => (⟨.running q items, reader⟩ : ResultStream α).poll b' := by
  match reader, r with
  | .replies f, r => exact ⟨b.countPulled 1, ⟨rfl, rfl, rfl⟩, rfl⟩
  | .rows shape, .affected a => exact ⟨b.countPulled 1, ⟨rfl, rfl, rfl⟩, rfl⟩
  | .rows shape, .row r => exact ⟨(b.countPulled 1).record (shape.report r), ⟨rfl, rfl, rfl⟩, rfl⟩

theorem pollTimes_succ_of_poll {s s' : ResultStream α} {p : Poll α} {b b' : Backend}
    (h : s.poll b = (p, s', b')) (n : Nat) :
    s.pollTimes b (n + 1) = (p :: (s'.pollTimes b' n).1, (s'.pollTimes b' n).2) := by
  rw [pollTimes, h]

theorem pollTimes_succ_congr {s s' : ResultStream α} {b b' : Backend} (h : s.poll b = s'.poll b')
    (n : Nat) : s.pollTimes b (n + 1) = s'.pollTimes b' (n + 1) := by
  rw [pollTimes, h, ← pollTimes]

/-- Up to and including a failure all shown items are answered, and no connection is acquired or
released. -/
theorem pollTimes_running_failure (reader : Reader α) (q : Query) (replies : List Reply)
    (e : Error) (rest : Response) (b : Backend) :
    ∃ b', (⟨.running q (replies.map .ok ++ .error e :: rest), reader⟩ : ResultStream α).pollTimes b
        ((replies.filterMap reader.show?).length + 1) =
      ((replies.filterMap reader.show?).map .item ++ [.item (.error (executionError q e))],
        ⟨.failed, reader⟩, b') ∧ b.SameUse b' := by
  induction replies generalizing b with
  | nil =>
    obtain ⟨b', hpoll, hsame⟩ := poll_running_failure reader q e rest b
    exact ⟨b', pollTimes_succ_of_poll hpoll 0, hsame⟩
  | cons r replies ih =>
    obtain ⟨b₁, hsame₁, hpoll⟩ :=
      poll_running_reply reader q r (replies.map .ok ++ .error e :: rest) b
    obtain ⟨b', hrest, hsame⟩ := ih b₁
    refine ⟨b', ?_, hsame₁.trans hsame⟩
    rcases hshow : reader.show? r with _ | x
    · rw [hshow] at hpoll
      rw [List.filterMap_cons_none hshow]
      exact (pollTimes_succ_congr hpoll _).trans hrest
    · rw [hshow] at hpoll
      rw [List.filterMap_cons_some hshow, List.length_cons, List.map_cons, List.map_cons,
        List.cons_append, pollTimes_succ_of_poll hpoll, hrest]
      rfl

/-- The answers of a stream up to and including a failure. It has acquired a connection then and
released none. -/
theorem pollTimes_failure (reader : Reader α) (q : Query) (logged : Bool) {replies : List Reply}
    {e : Error} {rest : Response} (h : b.acquireFailure = none) (hfree : 0 < b.pool.free)
    (hresponse : b.responses.head? = some (replies.map .ok ++ .error e :: rest)) :
    ∃ b', (⟨.idle q logged, reader⟩ : ResultStream α).pollTimes b
        ((replies.filterMap reader.show?).length + 1) =
      ((replies.filterMap reader.show?).map .item ++ [.item (.error (executionError q e))],
        ⟨.failed, reader⟩, b') ∧
      b'.pool = { b.pool with free := b.pool.free - 1 } ∧ b'.acquired = b.acquired + 1 ∧
      b'.released = b.released := by
  obtain ⟨k, hk⟩ := Nat.exists_eq_succ_of_ne_zero (Nat.ne_of_gt hfree)
  obtain ⟨log, hpoll⟩ := poll_idle_of_free reader q logged h hk
  rw [hresponse, Option.getD_some] at hpoll
  obtain ⟨b', hanswers, hsame⟩ := pollTimes_running_failure reader q replies e rest
    (({ b with pool := { b.pool with free := k } }.send q).2.record log)
  refine ⟨b', (pollTimes_succ_congr hpoll _).trans hanswers, ?_, hsame.acquired, hsame.released⟩
  rw [hsame.pool, hk]
  rfl

theorem poll_failed (reader : Reader α) (b : Backend) :
    (⟨.failed, reader⟩ : ResultStream α).poll b = (.finished, ⟨.ended, reader⟩, b.release) := by
  cases reader <;> rfl

end ResultStream

namespace Cursor

variable {c c' : Cursor} {b b' : Backend} {p : Poll Row} {e : Error}

theorem drop_of_holds (h : c.holdsConnection = true) (b : Backend) : c.drop b = b.release := by
  cases c with
  | running _ _ | failed => rfl
  | refused _ | idle _ _ | waiting _ _ | ended => cases h

theorem remaining_failure {rest : List (Except Error Row)} (h : c.remaining = .error e :: rest) :
    rest = [] := by
  cases c with
  | refused e' => exact (List.cons.inj h).2.symm
  | running q items =>
    obtain ⟨x, xs, hvisible, hx, hxs⟩ := List.map_eq_cons_iff.1 h
    rcases x with e' | r
    · rw [← hxs, visible_failure_rest hvisible, List.map_nil]
    · cases hx
  | idle _ _ | waiting _ _ | failed | ended => cases h

/-- Nothing is to come behind an error of a cursor. -/
theorem Polled.remaining_of_error (hp : Polled c b (.item (.error e)) c' b') :
    c'.remaining = [] := by
  cases hp with
  | refused _ | denied _ _ _ => rfl
  | item k log _ hx _ _ => exact remaining_failure hx

/-- With nothing to come, a poll releases the connection. -/
theorem Polled.of_remaining_nil (hp : Polled c b p c' b') (hholds : c.holdsConnection = true)
    (h : c.remaining = []) : p = .finished ∧ c' = .ended ∧ ∃ k, b' = (b.countPulled k).release := by
  cases hp with
  | refused _ | denied _ _ _ | queued _ _ _ | passedOver _ | ended => cases hholds
  | item k log hc hx _ _ =>
    cases hc with
    | held _ =>
      rw [h] at hx
      cases hx
    | opened _ _ _ _ | takenUp _ => cases hholds
  | finished k hc _ _ =>
    cases hc with
    | held _ => exact ⟨rfl, rfl, k, rfl⟩
    | opened _ _ _ _ | takenUp _ => cases hholds

theorem Connected.executed_of_exhausted {c₀ : Cursor} {b₀ : Backend} (hc : Connected c b c₀ b₀)
    (hfree : b.pool.free = 0) (hgranted : b.pool.granted = []) : b₀.executed = b.executed := by
  cases hc with
  | held _ => rfl
  | opened k log _ hk =>
    rw [hfree] at hk
    cases hk
  | takenUp ht =>
    rw [hgranted] at ht
    cases ht

/-- No query is sent when no permit is free or handed out. -/
theorem Polled.executed_of_exhausted (hp : Polled c b p c' b') (hfree : b.pool.free = 0)
    (hgranted : b.pool.granted = []) : b'.executed = b.executed := by
  cases hp with
  | refused _ | denied _ _ _ | queued _ _ _ | passedOver _ | ended => rfl
  | item k log hc _ _ _ => exact hc.executed_of_exhausted hfree hgranted
  | finished k hc _ _ => exact hc.executed_of_exhausted hfree hgranted

end Cursor

namespace Consumer

variable {o : Opening} {c : Consumer o} {b : Backend} {x : Error}

/-- The stream holds its connection, but nothing is to come over it. -/
structure Lingering (c : Consumer o) : Prop where
  holds : c.cursor.holdsConnection = true
  remaining : c.cursor.remaining = []
  released : c.released = 0

theorem Lingering.exists_stream (h : c.Lingering) : ∃ s, c.stream = some s := by
  rcases hs : c.stream with _ | s
  · have hholds := h.holds
    rw [cursor_of_none hs] at hholds
    cases hholds
  · exact ⟨s, rfl⟩

/-- An answer of kind `execution` comes from the cursor, since those of the mapping have another
kind. -/
theorem exists_error_of_settle {p : Poll Row} {shape : Shape o.Result}
    (h : p.settle shape = .item (.error x)) (hkind : x.kind? = some .execution) :
    ∃ e, p = .item (.error e) := by
  obtain ⟨y, rfl, hsettle⟩ := Poll.exists_of_settle h
  rcases y with e | r
  · exact ⟨e, rfl⟩
  · rcases Shape.kind?_of_apply hsettle with rfl | hmapping
    · cases hkind
    · rw [hmapping] at hkind
      cases hkind

theorem Sound.released_of_item {y : Except Error o.Result} (hc : c.Sound)
    (hanswers : (c.poll b).1.answers = c.answers ++ [.item y]) : (c.poll b).1.released = 0 := by
  rcases hs : c.stream with _ | s
  · rw [poll_of_none hs] at hanswers
    simp at hanswers
  · obtain ⟨p, cursor, b', log, hp, hpoll⟩ := exists_polled hs (hc.reader s hs) b
    have hlive : (c.poll b).1.stream ≠ none := by
      rw [hpoll]
      exact Option.some_ne_none _
    refine (hc.poll b).unfinished hlive ?unfinished
    case unfinished =>
      intro hmem
      rw [hanswers] at hmem
      rcases List.mem_append.1 hmem with hmem | hmem
      · -- behind the end there is no further item
        have hended := hc.finished hmem
        rw [cursor_of_some hs] at hended
        rw [hended] at hp
        obtain rfl := hp.of_ended.1
        rw [hpoll] at hanswers
        have hitem := List.append_cancel_left hanswers
        cases List.singleton_inj.1 hitem
      · cases List.mem_singleton.1 hmem

/-- A consumer that has acquired a connection still holds it when it gets the failure. -/
theorem Sound.lingering (hc : c.Sound)
    (hanswers : (c.poll b).1.answers = c.answers ++ [.item (.error x)])
    (hkind : x.kind? = some .execution) (hacquired : (c.poll b).1.acquired = 1) :
    (c.poll b).1.Lingering := by
  have hreleased := hc.released_of_item hanswers
  have hbalanced := (hc.poll b).balanced
  rw [hacquired, hreleased, Nat.zero_add] at hbalanced
  refine ⟨?holds, ?remaining, hreleased⟩
  case holds =>
    by_contra hholds
    rw [Cursor.held, if_neg hholds] at hbalanced
    cases hbalanced
  case remaining =>
    rcases hs : c.stream with _ | s
    · rw [poll_of_none hs, cursor_of_none hs]
      rfl
    · obtain ⟨p, cursor, b', log, hp, hpoll⟩ := exists_polled hs (hc.reader s hs) b
      rw [hpoll] at hanswers ⊢
      have hsettle : p.settle o.shape = .item (.error x) :=
        List.singleton_inj.1 (List.append_cancel_left hanswers)
      obtain ⟨e, rfl⟩ := exists_error_of_settle hsettle hkind
      exact hp.remaining_of_error

theorem Lingering.poll (h : c.Lingering) (hc : c.Sound) (b : Backend) :
    (c.poll b).1.answers = c.answers ++ [.finished] ∧ (c.poll b).1.released = 1 ∧
      (c.poll b).2.pool = b.pool.giveBack := by
  obtain ⟨s, hs⟩ := h.exists_stream
  obtain ⟨p, cursor, b', log, hp, hpoll⟩ := exists_polled hs (hc.reader s hs) b
  have hcursor := cursor_of_some hs
  obtain ⟨rfl, rfl, k, rfl⟩ :=
    hp.of_remaining_nil (hcursor ▸ h.holds) (hcursor ▸ h.remaining)
  rw [hpoll]
  refine ⟨rfl, ?_, rfl⟩
  change c.released + (b.released + 1 - b.released) = 1
  rw [h.released, Nat.add_sub_cancel_left]

theorem Lingering.drop (h : c.Lingering) (b : Backend) :
    (c.drop b).1.stream = none ∧ (c.drop b).1.released = 1 ∧ (c.drop b).2 = b.release := by
  obtain ⟨s, hs⟩ := h.exists_stream
  have hdrop := Cursor.drop_of_holds (cursor_of_some hs ▸ h.holds) b
  rw [drop_of_some hs, hdrop]
  refine ⟨rfl, ?_, rfl⟩
  change c.released + (b.released + 1 - b.released) = 1
  rw [h.released, Nat.add_sub_cancel_left]

end Consumer

namespace Traffic

variable {t : Traffic} {n i : Nat} {o : Opening} {c c' : Consumer o}

theorem getElem?_step {m : Move} (h : t.consumers[i]? = some ⟨o, c⟩)
    (hm : m ≠ .poll i ∧ m ≠ .drop i) : (t.step m).consumers[i]? = some ⟨o, c⟩ := by
  obtain ⟨c', hget, rfl | ⟨hpoll, -⟩ | ⟨hdrop, -⟩⟩ := exists_step h m
  · exact hget
  · exact absurd hpoll hm.1
  · exact absurd hdrop hm.2

theorem getElem?_foldl {later : List Move} (h : t.consumers[i]? = some ⟨o, c⟩)
    (hlater : ∀ m ∈ later, m ≠ .poll i ∧ m ≠ .drop i) :
    (later.foldl step t).consumers[i]? = some ⟨o, c⟩ := by
  induction later generalizing t with
  | nil => exact h
  | cons m ms ih =>
    exact ih (getElem?_step h (hlater m List.mem_cons_self))
      fun m' hm' => hlater m' (List.mem_cons_of_mem m hm')

theorem executed_step_of_exhausted (h : t.Sound n) (hfree : t.backend.pool.free = 0)
    (hgranted : t.backend.pool.granted = []) (m : Move) :
    (t.step m).backend.executed = t.backend.executed := by
  cases m with
  | push _ | failNextAcquire _ | openStream _ => rfl
  | perform terminal client s =>
    rcases hq : client.compile s with e | q
    · rw [step, terminal.run_of_error hq]
    · have hp := terminal.performs hq t.backend
      rw [step]
      generalize terminal.run client s t.backend = ran at hp
      obtain ⟨x, b'⟩ := ran
      cases hp with
      | failed _ _ _ | gaveUp _ _ _ => rfl
      | read k _ _ hk _ =>
        rw [hfree] at hk
        cases hk
  | poll j =>
    rw [step]
    rcases hget : t.consumers[j]? with _ | ⟨o, c⟩
    · rw [onConsumer_of_none hget]
    · rw [onConsumer_of_some hget]
      rcases hs : c.stream with _ | s
      · rw [Consumer.poll_of_none hs]
      · obtain ⟨p, cursor, b', log, hp, hpoll⟩ :=
          Consumer.exists_polled hs ((h.consumer hget).reader s hs) t.backend
        rw [hpoll]
        exact hp.executed_of_exhausted hfree hgranted
  | drop j =>
    rw [step]
    rcases hget : t.consumers[j]? with _ | ⟨o, c⟩
    · rw [onConsumer_of_none hget]
    · rw [onConsumer_of_some hget]
      rcases hs : c.stream with _ | s
      · rw [Consumer.drop_of_none hs]
      · rw [Consumer.drop_of_some hs]
        exact (s.cursor.counts_drop t.backend).2.2.1

theorem holding_pos (hget : t.consumers[i]? = some ⟨o, c⟩) (h : c.cursor.holdsConnection = true) :
    0 < t.holding :=
  List.countP_pos_iff.2 ⟨⟨o, c⟩, List.mem_of_getElem? hget, h⟩

theorem Sound.checkedOut_pos (h : t.Sound n) (hget : t.consumers[i]? = some ⟨o, c⟩)
    (hholds : c.cursor.holdsConnection = true) : 0 < t.backend.pool.checkedOut := by
  have hchecked := (Backend.Balanced.pool h.balanced).checkedOut.1
  have hpos := holding_pos hget hholds
  omega

/-- The only connection is held, so nothing is left for others. -/
theorem Sound.exhausted (h : t.Sound 1) (hget : t.consumers[i]? = some ⟨o, c⟩)
    (hholds : c.cursor.holdsConnection = true) :
    t.backend.pool.free = 0 ∧ t.backend.pool.granted = [] := by
  have hpermits := (Backend.Balanced.pool h.balanced).permits
  have hpos := holding_pos hget hholds
  exact ⟨by omega, List.length_eq_zero_iff.1 (by omega)⟩

/-- While the only connection is held, no query is sent. -/
theorem Sound.executed_foldl {later : List Move} (h : t.Sound 1)
    (hget : t.consumers[i]? = some ⟨o, c⟩) (hholds : c.cursor.holdsConnection = true)
    (hlater : ∀ m ∈ later, m ≠ .poll i ∧ m ≠ .drop i) :
    (later.foldl Traffic.step t).backend.executed = t.backend.executed := by
  induction later generalizing t with
  | nil => rfl
  | cons m ms ih =>
    obtain ⟨hfree, hgranted⟩ := h.exhausted hget hholds
    have hkept := getElem?_step hget (hlater m List.mem_cons_self)
    have hrest := ih (h.step m) hkept fun m' hm' => hlater m' (List.mem_cons_of_mem m hm')
    exact hrest.trans (executed_step_of_exhausted h hfree hgranted m)

/-- A poll that is answered with a failure of the driver lets the stream linger if a connection
was acquired. -/
theorem Sound.lingering_of_failure {x : Error} (h : t.Sound n)
    (hget : t.consumers[i]? = some ⟨o, c⟩) (hget' : (t.step (.poll i)).consumers[i]? = some ⟨o, c'⟩)
    (hanswers : c'.answers = c.answers ++ [.item (.error x)])
    (hkind : x.kind? = some .execution) :
    c'.released = 0 ∧ (c'.acquired ≠ 0 → c'.acquired = 1 ∧ c'.Lingering) := by
  have hc := h.consumer hget
  have hpoll := getElem?_onConsumer hget i Consumer.poll
  rw [if_pos rfl] at hpoll
  obtain rfl : (c.poll t.backend).1 = c' := by
    cases hpoll.symm.trans hget'
    rfl
  refine ⟨hc.released_of_item hanswers, ?_⟩
  intro hacquired
  have hone : (c.poll t.backend).1.acquired = 1 :=
    Nat.le_antisymm (hc.poll t.backend).acquired_le (Nat.pos_of_ne_zero hacquired)
  exact ⟨hone, hc.lingering hanswers hkind hone⟩

theorem Sound.poll_lingering (h : t.Sound n) (hget : t.consumers[i]? = some ⟨o, c⟩)
    (hc : c.Lingering) : ∃ c' : Consumer o, (t.step (.poll i)).consumers[i]? = some ⟨o, c'⟩ ∧
      c'.answers = c.answers ++ [.finished] ∧ c'.released = 1 ∧
      (t.step (.poll i)).backend.pool = t.backend.pool.giveBack := by
  obtain ⟨hfinished, hreleased, hpool⟩ := hc.poll (h.consumer hget) t.backend
  refine ⟨_, (getElem?_onConsumer hget i Consumer.poll).trans (if_pos rfl), hfinished,
    hreleased, ?_⟩
  rw [Traffic.step, onConsumer_of_some hget]
  exact hpool

theorem drop_lingering (hget : t.consumers[i]? = some ⟨o, c⟩) (hc : c.Lingering) :
    ∃ c' : Consumer o, (t.step (.drop i)).consumers[i]? = some ⟨o, c'⟩ ∧
      c'.stream = none ∧ c'.released = 1 ∧
      (t.step (.drop i)).backend.pool = t.backend.pool.giveBack := by
  obtain ⟨hnone, hreleased, hrelease⟩ := hc.drop t.backend
  refine ⟨_, (getElem?_onConsumer hget i Consumer.drop).trans (if_pos rfl), hnone, hreleased, ?_⟩
  rw [step, onConsumer_of_some hget, hrelease]
  rfl

/-- Let a poll of a stream be answered with a failure of the driver. Nothing is left to give back
just when no connection was acquired. Else the connection stays checked out as long as the stream
is neither polled again nor dropped, whatever else is done on the backend, and if it is the only
one no query is sent; the next poll and the drop give it back. So it is with a stream of any kind
and with any replies before the failure. -/
theorem failure_keeps_connection {moves : List Move} {x : Error}
    (hget : (run n moves).consumers[i]? = some ⟨o, c⟩)
    (hget' : ((run n moves).step (.poll i)).consumers[i]? = some ⟨o, c'⟩)
    (hanswers : c'.answers = c.answers ++ [.item (.error x)])
    (hkind : x.kind? = some .execution) :
    (c'.released = c'.acquired ↔ c'.acquired = 0) ∧
    (c'.acquired ≠ 0 → ∀ later : List Move, (∀ m ∈ later, m ≠ .poll i ∧ m ≠ .drop i) →
      let t := (run n moves).step (.poll i)
      let t' := later.foldl step t
      (t'.consumers[i]? = some ⟨o, c'⟩ ∧ c'.acquired = 1 ∧ c'.released = 0 ∧
        0 < t'.backend.pool.checkedOut ∧ (n = 1 → t'.backend.executed = t.backend.executed)) ∧
      (∃ c'' : Consumer o, (t'.step (.poll i)).consumers[i]? = some ⟨o, c''⟩ ∧
        c''.answers = c'.answers ++ [.finished] ∧ c''.released = 1 ∧
        (t'.step (.poll i)).backend.pool = t'.backend.pool.giveBack) ∧
      ∃ c'' : Consumer o, (t'.step (.drop i)).consumers[i]? = some ⟨o, c''⟩ ∧
        c''.stream = none ∧ c''.released = 1 ∧
        (t'.step (.drop i)).backend.pool = t'.backend.pool.giveBack) ∧
    ∀ {α : Type} (reader : Reader α) (q : Query) (logged : Bool) {replies : List Reply}
        {e : Error} {rest : Response} {b : Backend}, b.acquireFailure = none → 0 < b.pool.free →
      b.responses.head? = some (replies.map .ok ++ .error e :: rest) →
      (∃ b', (⟨.idle q logged, reader⟩ : ResultStream α).pollTimes b
          ((replies.filterMap reader.show?).length + 1) =
        ((replies.filterMap reader.show?).map .item ++ [.item (.error (executionError q e))],
          ⟨.failed, reader⟩, b') ∧
        b'.pool = { b.pool with free := b.pool.free - 1 } ∧ b'.acquired = b.acquired + 1 ∧
        b'.released = b.released) ∧
      ∀ b', (⟨.failed, reader⟩ : ResultStream α).poll b' =
          (.finished, ⟨.ended, reader⟩, b'.release) ∧
        Cursor.failed.drop b' = b'.release := by
  have hsound : (run n moves).Sound n := sound_run n moves
  obtain ⟨hreleased, hacquires⟩ := hsound.lingering_of_failure hget hget' hanswers hkind
  refine ⟨by rw [hreleased, eq_comm], ?kept, ?anyReader⟩
  case kept =>
    intro hacquired later hlater t t'
    obtain ⟨hone, hlingering⟩ := hacquires hacquired
    have hpolled : t.Sound n := hsound.step (.poll i)
    have hlaterSound : t'.Sound n := hpolled.foldl later
    have hkept : t'.consumers[i]? = some ⟨o, c'⟩ := getElem?_foldl hget' hlater
    refine ⟨⟨hkept, hone, hreleased, hlaterSound.checkedOut_pos hkept hlingering.holds, ?only⟩,
      hlaterSound.poll_lingering hkept hlingering, drop_lingering hkept hlingering⟩
    case only =>
      rintro rfl
      exact hpolled.executed_foldl hget' hlingering.holds hlater
  case anyReader =>
    intro α reader q logged replies e rest b h hfree hresponse
    exact ⟨ResultStream.pollTimes_failure reader q logged h hfree hresponse,
      fun b' => ⟨ResultStream.poll_failed reader b', rfl⟩⟩

def twoReaders : List Move :=
  [.push Client.fullDisk, .openStream readBooks, .openStream readBooks]

/-- The first stream has failed and keeps the connection while the second one is polled. -/
theorem failure_keeps_connection_twoReaders :
    let t := (run 1 twoReaders).step (.poll 0)
    ∃ c : Consumer readBooks, t.consumers[0]? = some ⟨readBooks, c⟩ ∧
      c.answers = [.item (.error (executionError Client.selectBooks (.ofText "disk full")))] ∧
      c.acquired ≠ 0 ∧ c.released ≠ c.acquired ∧
      (t.step (.poll 1)).consumers[0]? = some ⟨readBooks, c⟩ ∧
      0 < (t.step (.poll 1)).backend.pool.checkedOut ∧
      (t.step (.poll 1)).backend.executed = t.backend.executed := by
  intro t
  let c := ((Consumer.start readBooks).poll (run 1 twoReaders).backend).1
  have hget : (run 1 twoReaders).consumers[0]? = some ⟨readBooks, .start readBooks⟩ := rfl
  have hget' : t.consumers[0]? = some ⟨readBooks, c⟩ := rfl
  have hacquired : c.acquired ≠ 0 := by decide
  have hothers : ∀ m ∈ [Move.poll 1], m ≠ .poll 0 ∧ m ≠ .drop 0 := by simp
  obtain ⟨hback, hkept, -⟩ := failure_keeps_connection hget hget' rfl rfl
  obtain ⟨⟨hsame, -, -, hchecked, honly⟩, -⟩ := hkept hacquired [.poll 1] hothers
  exact ⟨c, hget', rfl, hacquired, fun h => hacquired (hback.1 h), hsame, hchecked, honly rfl⟩

/-- The consumer has the failure, its connection is not back, and another stream has to wait. -/
theorem failure_before_release :
    let t := run 1 (twoReaders ++ [.poll 0, .poll 1])
    (∃ c c' : Consumer readBooks, t.consumers = [⟨readBooks, c⟩, ⟨readBooks, c'⟩] ∧
      c.answers = [.item (.error (executionError Client.selectBooks (.ofText "disk full")))] ∧
      c'.answers = [.pending]) ∧
    t.backend.pool.checkedOut = 1 ∧
    ∃ b, (Client.default.replies Client.selectBooks id).pollTimes
        ((Backend.ofSize 1).push Client.fullDisk) 1 =
      ([.item (.error (executionError Client.selectBooks (.ofText "disk full")))],
        ⟨.failed, .replies id⟩, b) ∧ b.pool.checkedOut = 1 := by
  refine ⟨⟨_, _, rfl, rfl, rfl⟩, rfl, _, rfl, rfl⟩

end Traffic
end Quarry
