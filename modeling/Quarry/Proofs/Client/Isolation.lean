import Quarry.Proofs.Client.Traffic

/-!
# Streams side by side

When no stream has to wait, what the streams of a shared backend answer depends on the order in
which responses are pushed and queries are sent, and on nothing else: each query takes the next
response of the queue, and the answers of its stream are the visible items of that response
(`Traffic.run_isolated`).
-/

namespace Quarry

inductive Arrival where
  | pushed (r : Response)
  | asked (stream : Nat) (query : Query)

def Arrival.pushed? : Arrival → Option Response
  | pushed r => some r
  | asked _ _ => none

/-- The query of a stream with what it takes of the queue, which is nothing when that is empty. -/
structure Deal where
  stream : Nat
  query : Query
  taken : Option Response

def Deal.items (d : Deal) : Response := d.taken.getD []

structure Dealer where
  queue : List Response
  deals : List Deal

namespace Dealer

def serve (d : Dealer) : Arrival → Dealer
  | .pushed r => { d with queue := d.queue ++ [r] }
  | .asked i q => ⟨d.queue.tail, d.deals ++ [⟨i, q, d.queue.head?⟩]⟩

def after (arrivals : List Arrival) : Dealer := arrivals.foldl serve ⟨[], []⟩

/-- The responses are taken in the order in which they were pushed, and those that were not
taken are still in the queue. -/
theorem taken_foldl_serve (d : Dealer) (l : List Arrival) :
    (l.foldl serve d).deals.filterMap Deal.taken ++ (l.foldl serve d).queue =
      d.deals.filterMap Deal.taken ++ d.queue ++ l.filterMap Arrival.pushed? := by
  induction l generalizing d with
  | nil => simp
  | cons a l ih =>
    rw [List.foldl_cons, ih]
    cases a with
    | pushed r => simp [serve, Arrival.pushed?]
    | asked i q =>
      have hpushed : (Arrival.asked i q :: l).filterMap Arrival.pushed? =
          l.filterMap Arrival.pushed? := rfl
      rw [hpushed]
      rcases hqueue : d.queue with _ | ⟨r, queue⟩ <;> simp [serve, hqueue]

/-- What the query of a stream was dealt, if it was sent. -/
def dealTo (d : Dealer) (i : Nat) : Option Deal := d.deals.find? fun deal => deal.stream == i

end Dealer

/-- No query was sent, and what is armed stays so. -/
def Backend.Undisturbed (b b' : Backend) : Prop :=
  b'.responses = b.responses ∧ b'.executed = b.executed ∧ b'.acquireFailure = b.acquireFailure

def Opening.items (o : Opening) (deal : Option Deal) : Option (List (Except Error o.Result)) :=
  match o.client.compile o.statement with
  | .error e => some [.error e]
  | .ok q => deal.map fun d => d.items.visible.map (o.shape.deliver q)

theorem Opening.exists_compile {o : Opening} {deal : Option Deal} (h : o.items deal = none) :
    ∃ q, o.client.compile o.statement = .ok q := by
  rw [items] at h
  rcases hq : o.client.compile o.statement with e | q
  · rw [hq] at h
    cases h
  · exact ⟨q, rfl⟩

namespace Consumer

open Poll

variable {o : Opening} {c : Consumer o} {b : Backend} {q : Query}

def asks? (c : Consumer o) : Option Query :=
  match c.stream, c.answers, o.client.compile o.statement with
  | some _, [], .ok q => some q
  | _, _, _ => none

/-- The answers go through these items, and the stream is about to go on; it is as it was opened
when its query was not sent. -/
def Follows (c : Consumer o) : Option (List (Except Error o.Result)) → Prop
  | none => c.answers = [] ∧ ∀ s, c.stream = some s → s = o.stream
  | some xs => c.answers = answersTo xs c.answers.length ∧
      ∀ s, c.stream = some s → s.reader = .rows o.shape ∧ s.cursor.unsent = none ∧
        s.cursor.remaining.map o.shape.settle = xs.drop c.answers.length

theorem follows_snoc {xs rest : List (Except Error o.Result)} {s : ResultStream o.Result}
    {b' : Backend} (hanswers : c.answers = answersTo xs c.answers.length)
    (hdrop : xs.drop c.answers.length = rest) (hs : s.reader = .rows o.shape)
    (hsent : s.cursor.unsent = none) (hrest : s.cursor.remaining.map o.shape.settle = rest.tail) :
    ({ c with
      stream := some s
      answers := c.answers ++ [next rest] }.charge b b').Follows (some xs) := by
  subst hdrop
  constructor
  · change c.answers ++ _ = answersTo xs (c.answers ++ _).length
    rw [List.length_append, List.length_singleton, answersTo_snoc, ← hanswers]
  · intro s' hs'
    obtain rfl := Option.some.inj hs'
    refine ⟨hs, hsent, ?_⟩
    change _ = xs.drop (c.answers ++ _).length
    rw [hrest, List.tail_drop, List.length_append, List.length_singleton]

/-- Two streams that go through the same items differ in how often they were polled. -/
theorem Follows.isPrefix {c' : Consumer o} {xs : Option (List (Except Error o.Result))}
    (h : c.Follows xs) (h' : c'.Follows xs) :
    c.answers <+: c'.answers ∨ c'.answers <+: c.answers := by
  cases xs with
  | none =>
    rw [h.1]
    exact .inl List.nil_prefix
  | some xs =>
    rw [h.1, h'.1]
    exact (Nat.le_total c.answers.length c'.answers.length).imp (answersTo_isPrefix xs)
      (answersTo_isPrefix xs)

theorem follows_start (o : Opening) : (start o).Follows (o.items none) := by
  have hstream : ∀ s, (start o).stream = some s → s = o.stream := by
    intro s hs
    exact (Option.some.inj hs).symm
  rcases h : o.client.compile o.statement with e | q
  · rw [Opening.items, h]
    refine ⟨(answersTo_zero _).symm, ?_⟩
    intro s hs
    rw [hstream s hs, Opening.stream, Client.stream_of_error h]
    exact ⟨rfl, rfl, rfl⟩
  · rw [Opening.items, h]
    exact ⟨rfl, hstream⟩

/-- A stream whose query was sent goes on. -/
theorem Follows.poll {xs : List (Except Error o.Result)} (h : c.Follows (some xs)) (b : Backend) :
    (c.poll b).1.Follows (some xs) ∧ b.Undisturbed (c.poll b).2 := by
  rcases hstream : c.stream with _ | s
  · rw [poll_of_none hstream]
    exact ⟨h, rfl, rfl, rfl⟩
  · obtain ⟨hreader, hsent, hremaining⟩ := h.2 s hstream
    obtain ⟨p, cursor, b', log, hp, hpoll⟩ := exists_polled hstream hreader b
    obtain ⟨rfl, hrest, hsent', hundisturbed, -⟩ := hp.of_sent hsent
    rw [hpoll, settle_next, hremaining]
    refine ⟨follows_snoc h.1 rfl rfl hsent' ?_, hundisturbed⟩
    rw [hrest, List.map_tail, hremaining]

theorem asks?_eq_some_iff : c.asks? = some q ↔
    c.stream ≠ none ∧ c.answers = [] ∧ o.client.compile o.statement = .ok q := by
  rw [asks?]
  rcases c.stream with _ | s
  · simp
  · rcases c.answers with _ | ⟨p, ps⟩
    · rcases o.client.compile o.statement with e | q' <;> simp
    · simp

/-- The query of a stream is sent at the first poll and takes the next response; the stream goes
through the items of that. -/
theorem poll_of_asks (h : c.asks? = some q) (hfollows : c.Follows none)
    (harmed : b.acquireFailure = none) (hwaits : ∀ p ∈ (c.poll b).1.answers, p ≠ .pending) :
    (c.poll b).1.Follows
        (some ((b.responses.head?.getD []).visible.map (o.shape.deliver q))) ∧
      (c.poll b).1.answers ≠ [] ∧ (c.poll b).2.responses = b.responses.tail ∧
      (c.poll b).2.executed = b.executed ++ [q] ∧ (c.poll b).2.acquireFailure = none := by
  obtain ⟨hlive, hnil, hq⟩ := asks?_eq_some_iff.1 h
  obtain ⟨s, hstream⟩ := Option.ne_none_iff_exists'.1 hlive
  have hs : s = ⟨.idle q o.client.logsQueries, .rows o.shape⟩ := by
    rw [hfollows.2 s hstream, Opening.stream, Client.stream_of_compile hq]
  obtain ⟨p, cursor, b', log, hp, hpoll⟩ := exists_polled hstream (by rw [hs]) b
  rw [hpoll] at hwaits ⊢
  have hgoes : p ≠ .pending := by
    rintro rfl
    exact hwaits .pending (List.mem_append_right _ List.mem_cons_self) rfl
  rw [hs] at hp
  obtain ⟨rfl, hrest, hsent, hresponses, hexecuted, hunarmed⟩ := hp.of_opened harmed hgoes
  refine ⟨?_, ?_, hresponses, hexecuted, hunarmed⟩
  · rw [settle_next, Shape.settle_remaining]
    have hzero : c.answers.length = 0 := by rw [hnil, List.length_nil]
    refine follows_snoc (by rw [hzero, hnil, answersTo_zero]) ?_ rfl hsent ?_
    · rw [hzero, List.drop_zero]
    · rw [hrest, List.map_tail, Shape.settle_remaining]
  · exact List.append_ne_nil_of_right_ne_nil _ (List.cons_ne_nil _ _)

theorem Follows.poll_of_not_asks {xs : Option (List (Except Error o.Result))} (h : c.Follows xs)
    (hasks : c.asks? = none) (hxs : xs = none → ∃ q, o.client.compile o.statement = .ok q)
    (b : Backend) : (c.poll b).1.Follows xs ∧ b.Undisturbed (c.poll b).2 := by
  cases xs with
  | some xs => exact h.poll b
  | none =>
    -- nothing was answered yet, so a live stream would ask now
    obtain ⟨q, hq⟩ := hxs rfl
    have hdropped : c.stream = none := by
      by_contra hlive
      rw [asks?_eq_some_iff.2 ⟨hlive, h.1, hq⟩] at hasks
      cases hasks
    rw [poll_of_none hdropped]
    exact ⟨h, rfl, rfl, rfl⟩

theorem Follows.drop {xs : Option (List (Except Error o.Result))} (h : c.Follows xs) (b : Backend) :
    (c.drop b).1.Follows xs ∧ b.Undisturbed (c.drop b).2 := by
  rcases hstream : c.stream with _ | s
  · rw [drop_of_none hstream]
    exact ⟨h, rfl, rfl, rfl⟩
  · obtain ⟨-, -, hexecuted, hresponses, hunarmed⟩ := s.cursor.counts_drop b
    have hnone : ∀ s', (c.drop b).1.stream ≠ some s' := by
      intro s'
      rw [c.stream_drop]
      exact (Option.some_ne_none s').symm
    have hanswers := c.answers_drop b
    refine ⟨?_, ?_⟩
    · cases xs with
      | none => exact ⟨hanswers.trans h.1, fun s' hs' => absurd hs' (hnone s')⟩
      | some xs => exact ⟨by rw [hanswers]; exact h.1, fun s' hs' => absurd hs' (hnone s')⟩
    · rw [drop_of_some hstream]
      exact ⟨hresponses, hexecuted, hunarmed⟩

end Consumer

namespace Move

def ofStreams : Move → Bool
  | push _ | openStream _ | poll _ | drop _ => true
  | failNextAcquire _ | perform _ _ _ => false

def pushed? : Move → Option Response
  | push r => some r
  | _ => none

end Move

namespace Traffic

open Dealer

variable {t : Traffic} {d : Dealer} {i n : Nat} {o : Opening} {c : Consumer o}

def NeverWaits (t : Traffic) : Prop := ∀ x ∈ t.consumers, ∀ p ∈ x.2.answers, p ≠ .pending

def arrival? (t : Traffic) : Move → Option Arrival
  | .push r => some (.pushed r)
  | .poll i => t.consumers[i]?.bind fun x => x.2.asks?.map (.asked i)
  | _ => none

/-- The order of the pushes and of the first polls in these moves. -/
def arrivals (t : Traffic) : List Move → List Arrival
  | [] => []
  | m :: ms => (t.arrival? m).toList ++ (t.step m).arrivals ms

theorem pushed_arrivals (t : Traffic) (moves : List Move) :
    (t.arrivals moves).filterMap Arrival.pushed? = moves.filterMap Move.pushed? := by
  induction moves generalizing t with
  | nil => rfl
  | cons m ms ih =>
    rw [arrivals, List.filterMap_append, ih]
    cases m with
    | push r => rfl
    | failNextAcquire _ | perform _ _ _ | openStream _ | drop _ => rfl
    | poll i =>
      rw [arrival?]
      rcases t.consumers[i]? with _ | x
      · rfl
      · rw [Option.bind_some]
        rcases x.2.asks? with _ | q <;> rfl

theorem NeverWaits.of_step {m : Move} (h : (t.step m).NeverWaits) : t.NeverWaits := by
  rintro ⟨o, c⟩ hx p hp
  obtain ⟨i, hget⟩ := List.mem_iff_getElem?.1 hx
  obtain ⟨c', hget', hc'⟩ := exists_step hget m
  refine h ⟨o, c'⟩ (List.mem_of_getElem? hget') p ?_
  rcases hc' with rfl | ⟨-, rfl⟩ | ⟨-, rfl⟩
  · exact hp
  · exact (c.answers_poll _).subset hp
  · rw [c.answers_drop]
    exact hp

theorem NeverWaits.of_foldl {moves : List Move} (h : NeverWaits (moves.foldl step t)) :
    t.NeverWaits := by
  induction moves generalizing t with
  | nil => exact h
  | cons m ms ih => exact (ih h).of_step

instance (p : Poll o.Result) : Decidable (p = .pending) :=
  match p with
  | .pending => isTrue rfl
  | .item _ | .finished => isFalse nofun

instance (t : Traffic) : Decidable t.NeverWaits :=
  inferInstanceAs (Decidable (∀ x ∈ t.consumers, ∀ p ∈ x.2.answers, p ≠ .pending))

/-- The backend is where the dealer is, and each stream follows what it was dealt. -/
structure Dealt (t : Traffic) (d : Dealer) : Prop where
  responses : t.backend.responses = d.queue
  executed : t.backend.executed = d.deals.map Deal.query
  unarmed : t.backend.acquireFailure = none
  distinct : (d.deals.map Deal.stream).Nodup
  asked : ∀ deal ∈ d.deals, ∃ o, ∃ c : Consumer o, t.consumers[deal.stream]? = some ⟨o, c⟩ ∧
    c.answers ≠ [] ∧ o.client.compile o.statement = .ok deal.query
  follows : ∀ {i : Nat} {o : Opening} {c : Consumer o}, t.consumers[i]? = some ⟨o, c⟩ →
    c.Follows (o.items (d.dealTo i))

theorem Dealt.not_asked (h : t.Dealt d) (hget : t.consumers[i]? = some ⟨o, c⟩)
    (hanswers : c.answers = []) : i ∉ d.deals.map Deal.stream := by
  intro hmem
  obtain ⟨deal, hdeal, rfl⟩ := List.mem_map.1 hmem
  obtain ⟨o', c', hget', hsome, -⟩ := h.asked deal hdeal
  rw [hget] at hget'
  cases hget'
  exact hsome hanswers

theorem dealt_ofSize (n : Nat) : (ofSize n).Dealt ⟨[], []⟩ where
  responses := rfl
  executed := rfl
  unarmed := rfl
  distinct := .nil
  asked _ h := absurd h List.not_mem_nil
  follows h := absurd h (Option.some_ne_none _).symm

/-- One consumer goes on, and at most its query was dealt with. -/
theorem Dealt.set (h : t.Dealt d) (hget : t.consumers[i]? = some ⟨o, c⟩) {c' : Consumer o}
    {b' : Backend} {d' : Dealer} (hresponses : b'.responses = d'.queue)
    (hexecuted : b'.executed = d'.deals.map Deal.query) (hunarmed : b'.acquireFailure = none)
    (hdistinct : (d'.deals.map Deal.stream).Nodup)
    (hdeals : ∀ deal ∈ d'.deals, deal ∈ d.deals ∨ deal.stream = i ∧ c'.answers ≠ [] ∧
      o.client.compile o.statement = .ok deal.query)
    (hothers : ∀ j, i ≠ j → d'.dealTo j = d.dealTo j) (hanswers : c.answers <+: c'.answers)
    (hfollows : c'.Follows (o.items (d'.dealTo i))) :
    Dealt ⟨b', t.consumers.set i ⟨o, c'⟩⟩ d' := by
  have hset : (t.consumers.set i ⟨o, c'⟩)[i]? = some ⟨o, c'⟩ :=
    List.getElem?_set_self (List.getElem?_eq_some_iff.1 hget).1
  refine ⟨hresponses, hexecuted, hunarmed, hdistinct, ?asked, ?follows⟩
  case asked =>
    intro deal hdeal
    rcases hdeals deal hdeal with hold | ⟨rfl, hsome, hq⟩
    · obtain ⟨o', c₀, hget', hsome, hq⟩ := h.asked deal hold
      by_cases hi : i = deal.stream
      · subst hi
        rw [hget] at hget'
        cases hget'
        refine ⟨o, c', hset, ?_, hq⟩
        intro hnil
        rw [hnil] at hanswers
        exact hsome (List.prefix_nil.1 hanswers)
      · exact ⟨o', c₀, (List.getElem?_set_ne hi).trans hget', hsome, hq⟩
    · exact ⟨o, c', hset, hsome, hq⟩
  case follows =>
    intro j o' c₀ hget'
    by_cases hi : i = j
    · subst hi
      rw [hset] at hget'
      cases hget'
      exact hfollows
    · have hkept : t.consumers[j]? = some ⟨o', c₀⟩ := (List.getElem?_set_ne hi).symm.trans hget'
      rw [hothers j hi]
      exact h.follows hkept

theorem Dealt.keep (h : t.Dealt d) (hget : t.consumers[i]? = some ⟨o, c⟩) {c' : Consumer o}
    {b' : Backend} (hundisturbed : t.backend.Undisturbed b')
    (hanswers : c.answers <+: c'.answers) (hfollows : c'.Follows (o.items (d.dealTo i))) :
    Dealt ⟨b', t.consumers.set i ⟨o, c'⟩⟩ d := by
  obtain ⟨hresponses, hexecuted, hunarmed⟩ := hundisturbed
  exact h.set hget (hresponses.trans h.responses) (hexecuted.trans h.executed)
    (hunarmed.trans h.unarmed) h.distinct (fun _ hdeal => .inl hdeal) (fun _ _ => rfl) hanswers
    hfollows

theorem Dealt.ask (h : t.Dealt d) (hget : t.consumers[i]? = some ⟨o, c⟩) {q : Query}
    (hasks : c.asks? = some q) (hwaits : ∀ p ∈ (c.poll t.backend).1.answers, p ≠ .pending) :
    Dealt ⟨(c.poll t.backend).2, t.consumers.set i ⟨o, (c.poll t.backend).1⟩⟩
      (d.serve (.asked i q)) := by
  obtain ⟨-, hnil, hq⟩ := Consumer.asks?_eq_some_iff.1 hasks
  have hnew := h.not_asked hget hnil
  have hnone : d.dealTo i = none := by
    rw [dealTo, List.find?_eq_none]
    intro deal hdeal heq
    exact hnew (List.mem_map.2 ⟨deal, hdeal, eq_of_beq heq⟩)
  have hdealt : (d.serve (.asked i q)).dealTo i = some ⟨i, q, d.queue.head?⟩ := by
    rw [dealTo] at hnone ⊢
    simp [serve, hnone]
  have hothers : ∀ j, i ≠ j → (d.serve (.asked i q)).dealTo j = d.dealTo j := by
    intro j hj
    simp [serve, dealTo, hj]
  have hfollows := h.follows hget
  rw [Opening.items, hq, hnone] at hfollows
  obtain ⟨hgoes, hsome, hresponses, hexecuted, hunarmed⟩ :=
    Consumer.poll_of_asks hasks hfollows h.unarmed hwaits
  refine h.set hget (hresponses.trans (congrArg List.tail h.responses)) ?_ hunarmed ?_ ?_ hothers
    (c.answers_poll _) ?_
  · rw [hexecuted, h.executed, serve, List.map_append]
    rfl
  · rw [serve, List.map_append]
    exact h.distinct.append (List.nodup_singleton i) (List.disjoint_singleton.2 hnew)
  · intro deal hdeal
    rcases List.mem_append.1 hdeal with hdeal | hdeal
    · exact .inl hdeal
    · obtain rfl := List.mem_singleton.1 hdeal
      exact .inr ⟨rfl, hsome, hq⟩
  · rw [Opening.items, hq, hdealt, ← h.responses]
    exact hgoes

theorem Dealt.openStream (h : t.Dealt d) (o : Opening) : (t.step (.openStream o)).Dealt d where
  responses := h.responses
  executed := h.executed
  unarmed := h.unarmed
  distinct := h.distinct
  asked := by
    intro deal hdeal
    obtain ⟨o', c, hget, hsome, hq⟩ := h.asked deal hdeal
    have hlt := (List.getElem?_eq_some_iff.1 hget).1
    exact ⟨o', c, (List.getElem?_append_left hlt).trans hget, hsome, hq⟩
  follows := by
    intro i o' c hget
    rcases Nat.lt_trichotomy i t.consumers.length with hlt | rfl | hgt
    · exact h.follows ((List.getElem?_append_left hlt).symm.trans hget)
    · have hnone : d.dealTo t.consumers.length = none := by
        rw [dealTo, List.find?_eq_none]
        intro deal hdeal heq
        obtain ⟨o', c, hget, -⟩ := h.asked deal hdeal
        have hlt := (List.getElem?_eq_some_iff.1 hget).1
        exact Nat.ne_of_lt hlt (eq_of_beq heq)
      have hlast : (t.step (.openStream o)).consumers[t.consumers.length]? =
          some ⟨o, .start o⟩ := List.getElem?_concat_length
      rw [hlast] at hget
      cases hget
      rw [hnone]
      exact Consumer.follows_start o
    · have hbeyond : (t.step (.openStream o)).consumers[i]? = none := by
        rw [List.getElem?_eq_none_iff]
        exact List.length_append.trans_le hgt
      rw [hbeyond] at hget
      cases hget

theorem Dealt.step (h : t.Dealt d) {m : Move} (hm : m.ofStreams = true)
    (hwaits : (t.step m).NeverWaits) : (t.step m).Dealt ((t.arrival? m).toList.foldl serve d) := by
  cases m with
  | failNextAcquire _ | perform _ _ _ => cases hm
  | push r =>
    exact ⟨congrArg (· ++ [r]) h.responses, h.executed, h.unarmed, h.distinct, h.asked, h.follows⟩
  | openStream o => exact h.openStream o
  | poll i =>
    rcases hget : t.consumers[i]? with _ | ⟨o, c⟩
    · rw [Traffic.step, onConsumer_of_none hget, arrival?, hget]
      exact h
    · rw [Traffic.step, onConsumer_of_some hget] at hwaits ⊢
      rcases hasks : c.asks? with _ | q
      · have harrival : t.arrival? (.poll i) = none := by
          rw [arrival?, hget, Option.bind_some, hasks]
          rfl
        obtain ⟨hfollows, hundisturbed⟩ :=
          (h.follows hget).poll_of_not_asks hasks Opening.exists_compile t.backend
        rw [harrival]
        exact h.keep hget hundisturbed (c.answers_poll _) hfollows
      · have harrival : t.arrival? (.poll i) = some (.asked i q) := by
          rw [arrival?, hget, Option.bind_some, hasks]
          rfl
        rw [harrival]
        have hmem : ⟨o, (c.poll t.backend).1⟩ ∈ t.consumers.set i ⟨o, (c.poll t.backend).1⟩ :=
          List.mem_set (List.getElem?_eq_some_iff.1 hget).1 _
        exact h.ask hget hasks fun p hp => hwaits _ hmem p hp
  | drop i =>
    rcases hget : t.consumers[i]? with _ | ⟨o, c⟩
    · rw [Traffic.step, onConsumer_of_none hget]
      exact h
    · rw [Traffic.step, onConsumer_of_some hget]
      obtain ⟨hfollows, hundisturbed⟩ := (h.follows hget).drop t.backend
      exact h.keep hget hundisturbed (c.answers_drop _ ▸ List.prefix_refl _) hfollows

theorem Dealt.foldl {moves : List Move} (h : t.Dealt d)
    (hstreams : ∀ m ∈ moves, m.ofStreams = true)
    (hwaits : NeverWaits (moves.foldl Traffic.step t)) :
    Dealt (moves.foldl Traffic.step t) ((t.arrivals moves).foldl serve d) := by
  induction moves generalizing t d with
  | nil => exact h
  | cons m ms ih =>
    have hrest : NeverWaits (ms.foldl Traffic.step (t.step m)) := hwaits
    rw [arrivals, List.foldl_append]
    exact ih (h.step (hstreams m List.mem_cons_self) hrest.of_foldl)
      (fun m' hm' => hstreams m' (List.mem_cons_of_mem m hm')) hrest

theorem dealt_run {moves : List Move} (hstreams : ∀ m ∈ moves, m.ofStreams = true)
    (hwaits : (run n moves).NeverWaits) :
    (run n moves).Dealt (after ((ofSize n).arrivals moves)) :=
  (dealt_ofSize n).foldl hstreams hwaits

/-- Let streams be opened, polled and dropped amid pushes, and let none of them wait. Each query
takes the next response of the queue, or an empty one when nothing is queued, and the answers of
its stream are the items of this response in order. The same order of pushes and first polls
gives each stream the same items. -/
theorem run_isolated {moves : List Move} (hstreams : ∀ m ∈ moves, m.ofStreams = true)
    (hwaits : (run n moves).NeverWaits) :
    let t := run n moves
    let d := after ((ofSize n).arrivals moves)
    (t.backend.executed = d.deals.map Deal.query ∧
      moves.filterMap Move.pushed? = d.deals.filterMap Deal.taken ++ t.backend.responses) ∧
    ((d.deals.map Deal.stream).Nodup ∧ ∀ deal ∈ d.deals, ∃ o, ∃ c : Consumer o,
      t.consumers[deal.stream]? = some ⟨o, c⟩ ∧
        o.client.compile o.statement = .ok deal.query) ∧
    (∀ {i : Nat} {o : Opening} {c : Consumer o}, t.consumers[i]? = some ⟨o, c⟩ →
      match o.items (d.dealTo i) with
      | none => c.answers = []
      | some xs => c.answers = Poll.answersTo xs c.answers.length) ∧
    ∀ {n' : Nat} {moves' : List Move}, (∀ m ∈ moves', m.ofStreams = true) →
      (run n' moves').NeverWaits → (ofSize n').arrivals moves' = (ofSize n).arrivals moves →
      ∀ {i : Nat} {o : Opening} {c c' : Consumer o}, t.consumers[i]? = some ⟨o, c⟩ →
        (run n' moves').consumers[i]? = some ⟨o, c'⟩ →
        c.answers <+: c'.answers ∨ c'.answers <+: c.answers := by
  intro t d
  have h : t.Dealt d := dealt_run hstreams hwaits
  refine ⟨⟨h.executed, ?pushes⟩, ⟨h.distinct, ?asked⟩, ?items, ?orders⟩
  case pushes =>
    have htaken := taken_foldl_serve ⟨[], []⟩ ((ofSize n).arrivals moves)
    rw [pushed_arrivals] at htaken
    rw [h.responses]
    exact htaken.symm
  case asked =>
    intro deal hdeal
    obtain ⟨o, c, hget, -, hq⟩ := h.asked deal hdeal
    exact ⟨o, c, hget, hq⟩
  case items =>
    intro i o c hget
    have hfollows := h.follows hget
    cases hitems : o.items (d.dealTo i) <;> rw [hitems] at hfollows <;> exact hfollows.1
  case orders =>
    intro n' moves' hstreams' hwaits' horder i o c c' hget hget'
    have h' := dealt_run hstreams' hwaits'
    rw [horder] at h'
    exact (h.follows hget).isPrefix (h'.follows hget')

def titled (title : String) : Except Error Reply := .ok (.row ⟨["title"], [.ofString title]⟩)

def crossed : List Move :=
  [.openStream readBooks, .openStream readBooks, .push [titled "Atlas", titled "Almanac"],
    .poll 1, .push [titled "Primer"], .poll 0, .poll 1, .poll 0, .drop 1]

def inTurn : List Move :=
  [.push [titled "Atlas", titled "Almanac"], .openStream readBooks, .openStream readBooks,
    .poll 1, .poll 1, .poll 1, .push [titled "Primer"], .poll 0, .poll 0]

/-- What was pushed first goes to the second stream, and in both orders of the polls. -/
theorem run_isolated_crossed :
    (∀ m ∈ crossed, m.ofStreams = true) ∧ (run 2 crossed).NeverWaits ∧
      (∀ m ∈ inTurn, m.ofStreams = true) ∧ (run 2 inTurn).NeverWaits ∧
      (ofSize 2).arrivals inTurn = (ofSize 2).arrivals crossed ∧
      (run 2 crossed).backend.executed = [Client.selectBooks, Client.selectBooks] ∧
      ∃ c c' : Consumer readBooks, (run 2 crossed).consumers[1]? = some ⟨readBooks, c⟩ ∧
        (run 2 inTurn).consumers[1]? = some ⟨readBooks, c'⟩ ∧
        c.answers = [.item (.ok "Atlas"), .item (.ok "Almanac")] ∧
        (c.answers <+: c'.answers ∨ c'.answers <+: c.answers) := by
  have hcrossed : ∀ m ∈ crossed, m.ofStreams = true := by decide
  have hinTurn : ∀ m ∈ inTurn, m.ofStreams = true := by decide
  have hwaits : (run 2 crossed).NeverWaits := by decide
  have hwaits' : (run 2 inTurn).NeverWaits := by decide
  have horder : (ofSize 2).arrivals inTurn = (ofSize 2).arrivals crossed := by rfl
  obtain ⟨⟨hexecuted, -⟩, -, hitems, horders⟩ := run_isolated hcrossed hwaits
  refine ⟨hcrossed, hwaits, hinTurn, hwaits', horder, hexecuted.trans rfl, _, _, rfl, rfl,
    hitems (i := 1) rfl, ?_⟩
  exact horders hinTurn hwaits' horder (i := 1) rfl rfl

end Traffic
end Quarry
