import Quarry.Proofs.Client.Terminal

/-!
# Terminals as polls of a cursor

Who runs a statement to the end polls its cursor until the answer is known, and drops the cursor
then. What becomes of an item is told by an uptake: it gives the answer, or what is to be known at
the next item. The answer of a terminal and what it leaves of the backend are those of the polls and
the drop (`Terminal.polls_iff`). So a connection goes back as that of a stream does, and the first
row is the item of one poll (`Client.first_eq_poll`).
-/

namespace Quarry

variable {σ ρ α β γ : Type}

/-- How items are taken one by one: what is known after an item, or the answer, and the answer when
no other item comes; each with what is reported. -/
structure Uptake (σ ρ β : Type) where
  take : σ → Except Error ρ → (σ ⊕ β) × List LogRecord
  finish : σ → β × List LogRecord

namespace Uptake

/-- A poll that has to wait is the last one, and there is no answer. -/
def meet (u : Uptake σ ρ β) (a : σ) : Poll ρ → (σ ⊕ Option β) × List LogRecord
  | .pending => (.inr none, [])
  | .item x =>
    match u.take a x with
    | (.inl a, log) => (.inl a, log)
    | (.inr y, log) => (.inr (some y), log)
  | .finished => (.inr (some (u.finish a).1), (u.finish a).2)

def ofRows (u : Uptake σ Row β) : Uptake σ Reply β where
  take a
    | .ok (.row r) => u.take a (.ok r)
    | .ok (.affected _) => (.inl a, [])
    | .error e => u.take a (.error e)
  finish := u.finish

def first (s : Shape α) : Uptake Unit Row (Except Error (Option α)) where
  take _
    | .ok r => (.inr ((s.apply r).map some), s.report r)
    | .error e => (.inr (.error e), [])
  finish _ := (.ok none, [])

def one (s : Shape α) : Uptake (Option Row) Row (Except Error (Option α)) where
  take
    | none, .ok r => (.inl (some r), [])
    | some _, .ok _ =>
      (.inr (.error (.ofKind (.resultSize 1))), (Error.ofKind (.resultSize 1)).report)
    | _, .error e => (.inr (.error e), [])
  finish
    | none => (.ok none, [])
    | some r => ((s.apply r).map some, s.report r)

def collect (f : ρ → Except Error α) (report : ρ → List LogRecord) :
    Uptake (List (Except Error α)) ρ (List (Except Error α)) where
  take xs
    | .ok r => (.inl (xs ++ [f r]), report r)
    | .error e => (.inl (xs ++ [.error e]), [])
  finish xs := (xs, [])

def fold (step : σ → Reply → σ) (total : σ → γ) : Uptake σ Reply (Except Error γ) where
  take a
    | .ok r => (.inl (step a r), [])
    | .error e => (.inr (.error e), [])
  finish a := (.ok (total a), [])

def read (u : Uptake σ Reply β) (a : σ) : List Pull → Reading β
  | [] => ⟨(u.finish a).1, (u.finish a).2, []⟩
  | p :: pulls =>
    match u.take a p.item with
    | (.inl a, log) =>
      let next := u.read a pulls
      { next with log := p.log ++ log ++ next.log }
    | (.inr y, log) => ⟨y, p.log ++ log, pulls⟩

section

variable {u : Uptake σ Reply β} {a a' : σ} {p : Pull} {log : List LogRecord}

theorem meet_of_take_inl {u : Uptake σ ρ β} {x : Except Error ρ}
    (h : u.take a x = (.inl a', log)) : u.meet a (.item x) = (.inl a', log) := by
  rw [meet, h]

theorem meet_of_take_inr {u : Uptake σ ρ β} {x : Except Error ρ} {y : β}
    (h : u.take a x = (.inr y, log)) : u.meet a (.item x) = (.inr (some y), log) := by
  rw [meet, h]

theorem read_of_take_inl (h : u.take a p.item = (.inl a', log)) (pulls : List Pull) :
    u.read a (p :: pulls) =
      { u.read a' pulls with log := p.log ++ log ++ (u.read a' pulls).log } := by
  rw [read, h]

theorem read_of_take_inr {y : β} (h : u.take a p.item = (.inr y, log)) (pulls : List Pull) :
    u.read a (p :: pulls) = ⟨y, p.log ++ log, pulls⟩ := by
  rw [read, h]

end

theorem length_rest_read_le (u : Uptake σ Reply β) (a : σ) (pulls : List Pull) :
    (u.read a pulls).rest.length ≤ pulls.length := by
  induction pulls generalizing a with
  | nil => exact Nat.le_refl _
  | cons p pulls ih =>
    match h : u.take a p.item with
    | (.inl a', log) =>
      rw [read_of_take_inl h]
      exact Nat.le_succ_of_le (ih a')
    | (.inr y, log) =>
      rw [read_of_take_inr h]
      exact Nat.le_succ _

theorem rest_read_singleton (u : Uptake σ Reply β) (a : σ) (p : Pull) :
    (u.read a [p]).rest = [] := by
  match h : u.take a p.item with
  | (.inl a', log) =>
    rw [read_of_take_inl h]
    rfl
  | (.inr y, log) => rw [read_of_take_inr h]

/-- The counts before the next row or failure are skipped, and what was reported stays. -/
theorem read_ofRows (u : Uptake σ Row β) (a : σ) (pulls : List Pull) :
    u.ofRows.read a pulls = (match Reading.nextRow pulls with
      | ⟨none, log, rest⟩ => ⟨(u.finish a).1, log ++ (u.finish a).2, rest⟩
      | ⟨some x, log, rest⟩ => match u.take a x with
        | (.inl a, log') =>
          let next := u.ofRows.read a rest
          { next with log := log ++ log' ++ next.log }
        | (.inr y, log') => ⟨y, log ++ log', rest⟩) := by
  induction pulls with
  | nil => rfl
  | cons p pulls ih =>
    match p with
    | ⟨.ok (.row r), log⟩ | ⟨.error e, log⟩ => rfl
    | ⟨.ok (.affected n), log⟩ =>
      rw [read_of_take_inl rfl, ih, Reading.nextRow, List.append_nil]
      rcases Reading.nextRow pulls with ⟨_ | x, log', rest⟩
      · simp only [List.append_assoc]
      · dsimp only
        rcases u.take a x with ⟨a' | y, log''⟩
        · simp only [List.append_assoc]
        · simp only [List.append_assoc]

theorem read_first (s : Shape α) (pulls : List Pull) :
    (first s).ofRows.read () pulls = Reading.first s pulls := by
  rw [read_ofRows, Reading.first]
  rcases Reading.nextRow pulls with ⟨_ | e | r, log, rest⟩
  · simp only [first, List.append_nil]
  · simp only [first, List.append_nil]
  · rfl

theorem read_one (s : Shape α) (pulls : List Pull) :
    (one s).ofRows.read none pulls = Reading.one s pulls := by
  rw [read_ofRows, Reading.one]
  rcases Reading.nextRow pulls with ⟨_ | e | r, log, rest⟩
  · simp only [one, List.append_nil]
  · simp only [one, List.append_nil]
  · -- the row is kept, and what follows it decides
    simp only [one, List.append_nil]
    rw [read_ofRows]
    rcases Reading.nextRow rest with ⟨_ | e | r', log', rest⟩
    all_goals simp only [List.append_nil, List.append_assoc]

theorem read_all (s : Shape α) (xs : List (Except Error α)) (pulls : List Pull) :
    (collect s.apply s.report).ofRows.read xs pulls = (Reading.all s pulls).map (xs ++ ·) := by
  induction pulls generalizing xs with
  | nil => simp [read, ofRows, collect, Reading.all, Reading.map]
  | cons p pulls ih =>
    rcases p with ⟨e | r | n, log⟩
    all_goals
      rw [read_of_take_inl rfl, ih]
      simp [Reading.all, Reading.map]

theorem read_rows (xs : List (Except Error Row)) (pulls : List Pull) :
    (collect .ok fun _ => []).ofRows.read xs pulls = (Reading.rows pulls).map (xs ++ ·) := by
  induction pulls generalizing xs with
  | nil => simp [read, ofRows, collect, Reading.rows, Reading.replies, Reading.map]
  | cons p pulls ih =>
    rcases p with ⟨e | r | n, log⟩
    all_goals
      rw [read_of_take_inl rfl, ih]
      simp [Reading.rows, Reading.replies, Reading.map]

theorem read_replies (xs : List (Except Error Reply)) (pulls : List Pull) :
    (collect .ok fun _ => []).read xs pulls = (Reading.replies pulls).map (xs ++ ·) := by
  induction pulls generalizing xs with
  | nil => simp [read, collect, Reading.replies, Reading.map]
  | cons p pulls ih =>
    rcases p with ⟨e | r, log⟩
    all_goals
      rw [read_of_take_inl rfl, ih]
      simp [Reading.replies, Reading.map]

theorem read_fold (step : σ → Reply → σ) (total : σ → γ) (a : σ) (pulls : List Pull) :
    (fold step total).read a pulls = (Reading.foldReplies step a pulls).map (·.map total) := by
  induction pulls generalizing a with
  | nil => rfl
  | cons p pulls ih =>
    match p with
    | ⟨.ok r, log⟩ =>
      rw [read_of_take_inl rfl, ih, List.append_nil]
      rfl
    | ⟨.error e, log⟩ =>
      rw [read_of_take_inr rfl, List.append_nil]
      rfl

theorem read_affected (pulls : List Pull) :
    (fold Reading.countUp id).read .zero pulls = Reading.affected pulls := by
  rw [read_fold, Except.map_id]
  rfl

end Uptake

theorem Backend.countPulled_record (b : Backend) (k : Nat) (log : List LogRecord) :
    (b.record log).countPulled k = (b.countPulled k).record log := rfl

namespace Cursor

open Backend

variable {pull : Query → Response → Backend → Poll ρ × Cursor × Backend} {u : Uptake σ ρ β}
variable {a : σ} {c : Cursor} {b b' : Backend} {y : Option β}

/-- The cursor is polled until there is an answer or a poll has to wait, and is dropped then. -/
inductive ReadBy (u : Uptake σ ρ β)
    (pull : Query → Response → Backend → Poll ρ × Cursor × Backend) :
    σ → Cursor → Backend → Option β → Backend → Prop where
  | stop {a : σ} {c c' : Cursor} {b b' : Backend} {p : Poll ρ} {y : Option β}
      {log : List LogRecord} (hpoll : c.poll pull b = (p, c', b'))
      (hmeet : u.meet a p = (.inr y, log)) :
    ReadBy u pull a c b y (c'.drop (b'.record log))
  | next {a a' : σ} {c c' : Cursor} {b b' b'' : Backend} {p : Poll ρ} {y : Option β}
      {log : List LogRecord} (hpoll : c.poll pull b = (p, c', b'))
      (hmeet : u.meet a p = (.inl a', log)) (later : ReadBy u pull a' c' (b'.record log) y b'') :
    ReadBy u pull a c b y b''

/-- The polls are determined, so there is one answer and one backend after the drop. -/
theorem ReadBy.unique {z : Option β} {b₁ b₂ : Backend} (h : ReadBy u pull a c b y b₁)
    (h' : ReadBy u pull a c b z b₂) : y = z ∧ b₁ = b₂ := by
  induction h with
  | stop hpoll hmeet =>
    cases h' with
    | stop hpoll' hmeet' =>
      cases hpoll.symm.trans hpoll'
      cases hmeet.symm.trans hmeet'
      exact ⟨rfl, rfl⟩
    | next hpoll' hmeet' =>
      cases hpoll.symm.trans hpoll'
      cases hmeet.symm.trans hmeet'
  | next hpoll hmeet _ ih =>
    cases h' with
    | stop hpoll' hmeet' =>
      cases hpoll.symm.trans hpoll'
      cases hmeet.symm.trans hmeet'
    | next hpoll' hmeet' later' =>
      cases hpoll.symm.trans hpoll'
      cases hmeet.symm.trans hmeet'
      exact ih later'

theorem ReadBy.of_poll_eq {c₁ : Cursor} {b₁ : Backend} (h : ReadBy u pull a c₁ b₁ y b')
    (heq : c.poll pull b = c₁.poll pull b₁) : ReadBy u pull a c b y b' := by
  cases h with
  | stop hpoll hmeet => exact .stop (heq.trans hpoll) hmeet
  | next hpoll hmeet later => exact .next (heq.trans hpoll) hmeet later

/-- What a poll for a row makes of a poll for a reply: behind a count it polls again. -/
def skipCount : Poll Reply × Cursor × Backend → Poll Row × Cursor × Backend
  | (.pending, c, b) => (.pending, c, b)
  | (.item (.ok (.row r)), c, b) => (.item (.ok r), c, b)
  | (.item (.ok (.affected _)), c, b) => c.poll pullRow b
  | (.item (.error e), c, b) => (.item (.error e), c, b)
  | (.finished, c, b) => (.finished, c, b)

theorem pullRow_eq_skipCount (q : Query) (items : Response) (b : Backend) :
    pullRow q items b = skipCount (pullReply q items b) := by
  match items with
  | [] | .ok (.row r) :: items | .ok (.affected n) :: items | .error e :: items => rfl

theorem poll_pullRow (c : Cursor) (b : Backend) :
    c.poll pullRow b = skipCount (c.poll pullReply b) := by
  cases c with
  | refused e | failed | ended => rfl
  | running q items => exact pullRow_eq_skipCount q items b
  | idle q logged =>
    rw [poll, poll]
    obtain ⟨outcome, b⟩ := b.start q logged
    cases outcome with
    | failed e | queued t => rfl
    | opened items => exact pullRow_eq_skipCount q items b
  | waiting q t =>
    rw [poll, poll]
    cases b.takeUp? q t with
    | none => rfl
    | some opened => exact pullRow_eq_skipCount q opened.1 opened.2

theorem ReadBy.rows {u : Uptake σ Row β} (h : ReadBy u.ofRows pullReply a c b y b') :
    ReadBy u pullRow a c b y b' := by
  induction h with
  | @stop _ c _ b _ p _ _ hpoll hmeet =>
    have hrow := c.poll_pullRow b
    rw [hpoll] at hrow
    match p with
    | .pending | .item (.ok (.row r)) | .item (.error e) | .finished => exact .stop hrow hmeet
    | .item (.ok (.affected n)) => cases hmeet
  | @next _ _ c _ b _ _ p _ _ hpoll hmeet _ ih =>
    have hrow := c.poll_pullRow b
    rw [hpoll] at hrow
    match p with
    | .item (.ok (.row r)) | .item (.error e) => exact .next hrow hmeet ih
    | .item (.ok (.affected n)) =>
      cases hmeet
      rw [record_nil] at ih
      exact ih.of_poll_eq hrow
    | .pending | .finished => cases hmeet

section

variable {u : Uptake σ Reply β}

theorem drop_record (c : Cursor) (b : Backend) (log : List LogRecord) :
    c.drop (b.record log) = (c.drop b).record log := by
  cases c <;> rfl

/-- Behind the last item of a cursor comes the end, and the connection goes back. -/
theorem readBy_last {c' : Cursor} {p : Pull}
    (hpoll : c.poll pullReply b = (.item p.item, c', b'.record p.log))
    (hend : ∀ b, c'.poll pullReply b = (.finished, ended, c'.drop b)) (a : σ) :
    ReadBy u pullReply a c b (some (u.read a [p]).result)
      ((c'.drop b').record (u.read a [p]).log) := by
  rw [← drop_record]
  match h : u.take a p.item with
  | (.inr z, log) =>
    rw [u.read_of_take_inr h, ← record_record]
    exact .stop hpoll (u.meet_of_take_inr h)
  | (.inl a', log) =>
    rw [u.read_of_take_inl h, ← record_record, ← record_record, drop_record]
    exact .next hpoll (u.meet_of_take_inl h) (.stop (hend _) rfl)

theorem readBy_running (u : Uptake σ Reply β) (a : σ) (q : Query) (items : Response)
    (b : Backend) :
    ReadBy u pullReply a (running q items) b (some (u.read a (pullsOf q items)).result)
      ((b.countPulled ((pullsOf q items).length - (u.read a (pullsOf q items)).rest.length)).record
        (u.read a (pullsOf q items)).log).release := by
  induction items generalizing a b with
  | nil => exact .stop rfl rfl
  | cons x items ih =>
    match x with
    | .ok r =>
      have hpulls : pullsOf q (.ok r :: items) = ⟨.ok r, []⟩ :: pullsOf q items := rfl
      match h : u.take a (.ok r) with
      | (.inr z, log) =>
        rw [hpulls, u.read_of_take_inr h, List.length_cons, Nat.add_sub_cancel_left]
        exact .stop rfl (u.meet_of_take_inr h)
      | (.inl a', log) =>
        have hle := u.length_rest_read_le a' (pullsOf q items)
        have hlater := ih a' ((b.countPulled 1).record log)
        rw [countPulled_record, countPulled_countPulled, record_record, Nat.add_comm 1,
          ← Nat.sub_add_comm hle] at hlater
        rw [hpulls, u.read_of_take_inl h]
        exact .next rfl (u.meet_of_take_inl h) hlater
    | .error e =>
      have hpulls : pullsOf q (.error e :: items) =
          [⟨.error (executionError q e), (executionError q e).report⟩] := rfl
      have hpoll : (running q (.error e :: items)).poll pullReply b =
          (.item (.error (executionError q e)), failed,
            (b.countPulled 1).record (executionError q e).report) := rfl
      rw [hpulls, u.rest_read_singleton]
      exact readBy_last (p := ⟨_, _⟩) hpoll (fun _ => rfl) a

theorem readBy_refusal {refuse : Error → β} {e : Error}
    (hrefuse : ∀ e, u.read a [⟨.error e, []⟩] = ⟨refuse e, [], []⟩)
    (hpoll : c.poll pullReply b = (.item (.error e), ended, b')) :
    ReadBy u pullReply a c b (some (refuse e)) b' := by
  rw [← b'.record_nil] at hpoll
  have hlast := readBy_last (u := u) (p := ⟨.error e, []⟩) hpoll (fun _ => rfl) a
  rw [hrefuse, record_nil] at hlast
  exact hlast

/-- The answer to a query, and what it leaves of the backend, are those of the polls of a cursor
that was not polled yet. -/
theorem readBy_perform (u : Uptake σ Reply β) (a : σ) {refuse : Error → β}
    {consume : List Pull → Reading β} (hread : ∀ pulls, u.read a pulls = consume pulls)
    (hrefuse : ∀ e, u.read a [⟨.error e, []⟩] = ⟨refuse e, [], []⟩) (q : Query) (logged : Bool)
    (b : Backend) :
    ReadBy u pullReply a (idle q logged) b (b.perform q logged refuse consume).1
      (b.perform q logged refuse consume).2 := by
  unfold perform
  match h : b.start q logged with
  | (.failed e, b') => exact readBy_refusal hrefuse (by rw [poll, h])
  | (.queued t, b') =>
    have hpoll : (idle q logged).poll pullReply b = (.pending, waiting q t, b') := by rw [poll, h]
    have hstop := ReadBy.stop (u := u) (a := a) hpoll rfl
    rw [record_nil] at hstop
    exact hstop
  | (.opened items, b') =>
    have hpoll : (idle q logged).poll pullReply b = (running q items).poll pullReply b' := by
      rw [poll, h]
      rfl
    have hrunning := (readBy_running u a q items b').of_poll_eq hpoll
    rw [hread] at hrunning
    exact hrunning

theorem readBy_cursor (u : Uptake σ Reply β) (a : σ) {refuse : Error → β}
    {consume : List Pull → Reading β} (hread : ∀ pulls, u.read a pulls = consume pulls)
    (hrefuse : ∀ e, u.read a [⟨.error e, []⟩] = ⟨refuse e, [], []⟩) (client : Client)
    (s : Statement) (b : Backend) :
    ReadBy u pullReply a (client.cursor s) b (client.perform s refuse consume b).1
      (client.perform s refuse consume b).2 := by
  rw [Client.cursor, Client.perform]
  cases client.compile s with
  | error e => exact readBy_refusal hrefuse rfl
  | ok q => exact readBy_perform u a hread hrefuse q client.logsQueries b

end

end Cursor

namespace Terminal

open Cursor

def Polls : Terminal β → Cursor → Backend → Option β → Backend → Prop
  | first s => ReadBy (.first s) pullRow ()
  | one s => ReadBy (.one s) pullRow none
  | all s => ReadBy (.collect s.apply s.report) pullRow []
  | rowsUpdated => ReadBy (.fold Reading.Tally.add Reading.Tally.total) pullReply ⟨0, none⟩
  | execute => ReadBy (.fold Reading.countUp id) pullReply .zero

variable {b b' : Backend} {x : Option β}

theorem Polls.unique {t : Terminal β} {c : Cursor} {y : Option β} {b₁ b₂ : Backend}
    (h : t.Polls c b x b₁) (h' : t.Polls c b y b₂) : x = y ∧ b₁ = b₂ := by
  cases t <;> exact ReadBy.unique h h'

theorem polls_run (t : Terminal β) (c : Client) (s : Statement) (b : Backend) :
    t.Polls (c.cursor s) b (t.run c s b).1 (t.run c s b).2 := by
  cases t with
  | first shape => exact (readBy_cursor _ () (Uptake.read_first shape) (fun _ => rfl) c s b).rows
  | one shape => exact (readBy_cursor _ none (Uptake.read_one shape) (fun _ => rfl) c s b).rows
  | all shape => exact (readBy_cursor _ [] (Uptake.read_all shape []) (fun _ => rfl) c s b).rows
  | rowsUpdated => exact readBy_cursor _ _ (Uptake.read_fold _ _ _) (fun _ => rfl) c s b
  | execute => exact readBy_cursor _ _ Uptake.read_affected (fun _ => rfl) c s b

/-- To run a statement to the end is to poll its cursor until the answer is known, and to drop the
cursor then. -/
theorem polls_iff (t : Terminal β) (c : Client) (s : Statement) :
    t.Polls (c.cursor s) b x b' ↔ t.run c s b = (x, b') := by
  constructor
  · intro h
    obtain ⟨hx, hb⟩ := (t.polls_run c s b).unique h
    exact Prod.ext hx hb
  · intro h
    have hpolls := t.polls_run c s b
    rw [h] at hpolls
    exact hpolls

end Terminal

namespace Client

open Cursor

/-- A query that is sent as it is comes to its polls and a drop as well, whether for its replies,
its rows or the count of the affected rows. -/
theorem readBy_query (c : Client) (q : Query) (b : Backend) :
    ReadBy (.collect .ok fun _ => []) pullReply [] (.idle q c.logsQueries) b (c.run q b).1
        (c.run q b).2 ∧
      ReadBy (.collect .ok fun _ => []) pullRow [] (.idle q c.logsQueries) b (c.fetch q b).1
        (c.fetch q b).2 ∧
      ReadBy (.fold Reading.countUp id) pullReply .zero (.idle q c.logsQueries) b
        (c.change q b).1 (c.change q b).2 :=
  ⟨readBy_perform _ _ (Uptake.read_replies []) (fun _ => rfl) q c.logsQueries b,
    (readBy_perform _ _ (Uptake.read_rows []) (fun _ => rfl) q c.logsQueries b).rows,
    readBy_perform _ _ Uptake.read_affected (fun _ => rfl) q c.logsQueries b⟩

/-- The first row is what the first poll of the stream of rows yields, which is dropped then. -/
theorem first_eq_poll (c : Client) (s : Statement) (shape : Shape α) (b : Backend) :
    c.first s shape b = (match (c.stream s shape).poll b with
      | (.pending, stream, b) => (none, stream.cursor.drop b)
      | (.item x, stream, b) => (some (x.map some), stream.cursor.drop b)
      | (.finished, stream, b) => (some (.ok none), stream.cursor.drop b)) := by
  apply ((Terminal.first shape).polls_iff c s).1
  rw [stream, ResultStream.poll]
  rcases h : (c.cursor s).poll pullRow b with ⟨_ | ⟨e | r⟩ | _, cursor, b'⟩
  case item.ok => exact .stop h rfl
  all_goals
    rw [← b'.record_nil]
    exact .stop h rfl

end Client

end Quarry
