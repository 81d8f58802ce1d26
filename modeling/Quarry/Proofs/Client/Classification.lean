import Quarry.Proofs.Client.Cardinality
import Quarry.Proofs.Client.Terminal
import Quarry.Proofs.Sql.Outcome

/-!
# The kinds of errors

Whatever the driver, the mapper or the statement did wrong, the kind of the error that a caller
gets is that of the stage that failed, and the chain of the cause is the end of the chain of the
error (`Failure.Returned`). This holds of every error in every answer of a client
(`Client.errors_classified`).
-/

namespace Quarry

namespace Error

def beneath (above : List Layer) (e : Error) : Error := above.foldr within e

theorem beneath_chain (above contexts : List Layer) (root : Layer) :
    beneath above (chain contexts root) = chain (above ++ contexts) root := by
  induction above with
  | nil => rfl
  | cons l above ih => exact congrArg (within l) ih

theorem beneath_aborted (above : List Layer) : beneath above aborted = aborted := by
  induction above with
  | nil => rfl
  | cons l above ih => exact congrArg (within l) ih

theorem layers_suffix_beneath (above : List Layer) (e : Error) :
    e.layers <:+ (beneath above e).layers := by
  cases e with
  | chain contexts root =>
    rw [beneath_chain, layers, layers, List.append_assoc]
    exact List.suffix_append _ _
  | aborted => exact List.nil_suffix

/-- Layers that classify nothing leave the kind as it is. -/
theorem kind?_beneath {above : List Layer} (h : ∀ l ∈ above, l.kind? = none) (e : Error) :
    (beneath above e).kind? = e.kind? := by
  cases e with
  | chain contexts root =>
    rw [beneath_chain, kind?, kind?, layers, layers, List.append_assoc, List.findSome?_append,
      List.findSome?_eq_none_iff.2 h, Option.none_or]
  | aborted => rw [beneath_aborted]

theorem kind?_within_kind {e : Error} (h : e ≠ aborted) (k : ErrorKind) :
    (e.within (.kind k)).kind? = some k := by
  cases e with
  | chain contexts root => rfl
  | aborted => exact absurd rfl h

end Error

open Error

/-- What goes wrong when a statement is run, told by the stage at which it does. -/
inductive Failure where
  | invalid (cause : BuildError)
  | unwritable (dialect : String) (cause : CompileError)
  | driver (cause : Error)
  | mapping (cause : Error)
  | secondRow

namespace Failure

def kind : Failure → ErrorKind
  | invalid e => .build e
  | unwritable d e => .compile d e
  | driver _ => .execution
  | mapping _ => .mapping
  | secondRow => .resultSize 1

def cause? : Failure → Option Error
  | driver e | mapping e => some e
  | invalid _ | unwritable _ _ | secondRow => none

/-- A caller gets the error `x` for a failure: its kind is that of the stage, also beneath layers
that classify nothing, and its last layers are those of the cause. Only an abort has no kind. -/
structure Returned (f : Failure) (x : Error) : Prop where
  kind : f.cause? ≠ some .aborted → ∀ above : List Layer, (∀ l ∈ above, l.kind? = none) →
    (beneath above x).kind? = some f.kind
  chain : ∀ e, f.cause? = some e → ∀ above : List Layer, e.layers <:+ (beneath above x).layers
  aborted : f.cause? = some .aborted → x = .aborted

theorem returned_ofKind {f : Failure} (h : f.cause? = none) : f.Returned (.ofKind f.kind) where
  kind _ above habove := kind?_beneath habove _
  chain e he := by
    rw [h] at he
    cases he
  aborted he := by
    rw [h] at he
    cases he

/-- The kind of the stage is put around the cause, beneath layers that classify nothing. -/
theorem returned_of_cause {f : Failure} {e : Error} {outer : List Layer} (h : f.cause? = some e)
    (houter : ∀ l ∈ outer, l.kind? = none) :
    f.Returned (beneath outer (e.within (.kind f.kind))) where
  kind he above habove := by
    have hne : e ≠ .aborted := fun heq => he (heq ▸ h)
    rw [kind?_beneath habove, kind?_beneath houter, kind?_within_kind hne]
  chain e' he' above := by
    obtain rfl : e = e' := Option.some.inj (h.symm.trans he')
    exact ((layers_suffix_beneath [.kind f.kind] e).trans (layers_suffix_beneath outer _)).trans
      (layers_suffix_beneath above _)
  aborted he := by
    obtain rfl : e = .aborted := Option.some.inj (h.symm.trans he)
    exact beneath_aborted outer

theorem returned_driver (q : Query) (e : Error) : (driver e).Returned (executionError q e) := by
  have hquery : ∀ l ∈ [Layer.runningQuery q.summary], l.kind? = none := by simp [Layer.kind?]
  exact returned_of_cause rfl hquery

theorem returned_mapping (e : Error) : (mapping e).Returned (e.within (.kind .mapping)) := by
  have hnone : ∀ l ∈ ([] : List Layer), l.kind? = none := fun _ h => absurd h List.not_mem_nil
  exact returned_of_cause rfl hnone

end Failure

open Failure

variable {α β : Type}

def errorsOf : Except Error α → List Error
  | .ok _ => []
  | .error e => [e]

theorem errorsOf_map (f : α → β) (x : Except Error α) :
    errorsOf (x.map f) = errorsOf x := by
  cases x <;> rfl

def Shape.failures (s : Shape α) : Except Error Row → List Failure
  | .ok r =>
    match s.read r with
    | .ok _ => []
    | .error e => [.mapping e]
  | .error e => [.driver e]

def Shape.failuresOfOnly (s : Shape α) : List (Except Error Row) → List Failure
  | [] => []
  | [x] => s.failures x
  | .error e :: _ :: _ | .ok _ :: .error e :: _ => [.driver e]
  | .ok _ :: .ok _ :: _ => [.secondRow]

def Response.failures : Response → List Failure
  | [] => []
  | .ok _ :: items => failures items
  | .error e :: _ => [.driver e]

/-- What a backend has for the next query: a failure to connect, no free connection, or a
response. -/
inductive Outcome where
  | denied (e : Error)
  | busy
  | answered (items : Response)

def Backend.outcome (b : Backend) : Outcome :=
  match b.acquireFailure with
  | some m => .denied (.ofText m)
  | none => if b.pool.free = 0 then .busy else .answered (b.responses.head?.getD [])

def Client.rejection? (c : Client) (s : Statement) : Option Failure :=
  match s.validate with
  | .error e => some (.invalid e)
  | .ok () => (c.dialect.script s).failure.map (.unwritable c.dialect.name)

theorem Client.compile_cases (c : Client) (s : Statement) :
    (∃ q, c.compile s = .ok q ∧ c.rejection? s = none) ∨
      ∃ f, c.compile s = .error (.ofKind f.kind) ∧ c.rejection? s = some f ∧ f.cause? = none := by
  rw [compile, rejection?]
  rcases hvalid : s.validate with e | ⟨⟩
  · rw [Statement.compile_of_validate_error hvalid]
    exact .inr ⟨.invalid e, rfl, rfl, rfl⟩
  · rw [Statement.compile_of_valid hvalid]
    rcases (c.dialect.script s).failure with _ | e
    · exact .inl ⟨_, rfl, rfl⟩
    · exact .inr ⟨.unwritable c.dialect.name e, rfl, rfl, rfl⟩

theorem Shape.returned_apply (s : Shape α) (r : Row) :
    List.Forall₂ Returned (s.failures (.ok r)) (errorsOf (s.apply r)) := by
  rw [failures, apply]
  rcases s.read r with e | x
  · exact .cons (returned_mapping e) .nil
  · exact .nil

/-- A row that cannot be mapped yields the kind of the mapping, or an abort. -/
theorem Shape.kind?_of_apply {s : Shape α} {r : Row} {x : Error} (h : s.apply r = .error x) :
    x = .aborted ∨ x.kind? = some .mapping := by
  rw [apply] at h
  rcases hread : s.read r with e | y
  · rw [hread] at h
    obtain rfl := Except.error.inj h
    by_cases he : e = .aborted
    · subst he
      exact .inl rfl
    · exact .inr (kind?_within_kind he .mapping)
  · rw [hread] at h
    cases h

theorem Shape.returned_deliver (s : Shape α) (q : Query) (x : Except Error Row) :
    List.Forall₂ Returned (s.failures x) (errorsOf (s.deliver q x)) := by
  rcases x with e | r
  · exact .cons (returned_driver q e) .nil
  · exact s.returned_apply r

theorem Shape.returned_only (s : Shape α) (q : Query) (xs : List (Except Error Row)) :
    List.Forall₂ Returned (s.failuresOfOnly xs) (errorsOf (Reading.only s q xs)) := by
  rcases xs with _ | ⟨e | r, _ | ⟨e' | r', xs⟩⟩
  · exact .nil
  · exact .cons (returned_driver q e) .nil
  · exact .cons (returned_driver q e) .nil
  · exact .cons (returned_driver q e) .nil
  · rw [Reading.only, errorsOf_map]
    exact s.returned_apply r
  · exact .cons (returned_driver q e') .nil
  · exact .cons (returned_ofKind rfl) .nil

/-- A fold of the replies fails with the failure of the driver and nothing else. -/
theorem Reading.returned_foldReplies (step : α → Reply → α) (a : α) (q : Query)
    (items : Response) : List.Forall₂ Returned items.failures
      (errorsOf (foldReplies step a (Backend.pullsOf q items)).result) := by
  induction items generalizing a with
  | nil => exact .nil
  | cons x items ih =>
    match x with
    | .ok r => exact ih (step a r)
    | .error e => exact .cons (returned_driver q e) .nil

namespace Terminal

def errors : Terminal β → β → List Error
  | first _, x | one _, x | rowsUpdated, x | execute, x => errorsOf x
  | all _, xs => xs.flatMap errorsOf

def failuresIn : Terminal β → Response → List Failure
  | first shape, items =>
    match items.visible with
    | [] => []
    | x :: _ => shape.failures x
  | one shape, items => shape.failuresOfOnly items.visible
  | all shape, items => items.visible.flatMap shape.failures
  | rowsUpdated, items | execute, items => items.failures

theorem errors_refuse (t : Terminal β) (e : Error) : t.errors (t.refuse e) = [e] := by
  cases t <;> rfl

theorem returned_reading (t : Terminal β) (q : Query) (items : Response) :
    List.Forall₂ Returned (t.failuresIn items)
      (t.errors (t.reading (Backend.pullsOf q items)).result) := by
  cases t with
  | first shape =>
    simp only [failuresIn, errors, reading, (Reading.first_pullsOf shape q items).1]
    rcases items.visible with _ | ⟨x, xs⟩
    · exact .nil
    · rw [errorsOf_map]
      exact shape.returned_deliver q x
  | one shape =>
    simp only [failuresIn, errors, reading, Reading.result_one_pullsOf]
    exact shape.returned_only q items.visible
  | all shape =>
    simp only [failuresIn, errors, reading, (Reading.all_pullsOf shape q items).1]
    induction items.visible with
    | nil => exact .nil
    | cons x xs ih => exact List.rel_append (shape.returned_deliver q x) ih
  | rowsUpdated =>
    simp only [failuresIn, errors, reading, Reading.rowsUpdated, Reading.map, errorsOf_map]
    exact Reading.returned_foldReplies _ _ q items
  | execute => exact Reading.returned_foldReplies _ _ q items

def answerTo (t : Terminal β) (q : Query) : Outcome → Option β
  | .denied e => some (t.refuse (executionError q e))
  | .busy => none
  | .answered items => some (t.reading (Backend.pullsOf q items)).result

/-- The answer to a statement; there is none when no connection is free. -/
def answer (t : Terminal β) (c : Client) (s : Statement) (x : Outcome) : Option β :=
  match c.compile s with
  | .ok q => t.answerTo q x
  | .error e => some (t.refuse e)

/-- What goes wrong behind the compiling, in the order of the errors in the answer. -/
def failuresTo (t : Terminal β) : Outcome → List Failure
  | .denied e => [.driver e]
  | .busy => []
  | .answered items => t.failuresIn items

def failures (t : Terminal β) (c : Client) (s : Statement) (x : Outcome) : List Failure :=
  match c.rejection? s with
  | some f => [f]
  | none => t.failuresTo x

theorem returned_answerTo (t : Terminal β) (q : Query) (x : Outcome) :
    List.Forall₂ Returned (t.failuresTo x) ((t.answerTo q x).elim [] t.errors) := by
  cases x with
  | denied e =>
    simp only [answerTo, Option.elim, errors_refuse]
    exact .cons (returned_driver q e) .nil
  | busy => exact .nil
  | answered items => exact t.returned_reading q items

theorem returned_answer (t : Terminal β) (c : Client) (s : Statement) (x : Outcome) :
    List.Forall₂ Returned (t.failures c s x) ((t.answer c s x).elim [] t.errors) := by
  obtain ⟨q, hq, hnone⟩ | ⟨f, hf, hsome, hcause⟩ := c.compile_cases s
  · rw [failures, answer, hq, hnone]
    exact t.returned_answerTo q x
  · simp only [failures, answer, hf, hsome, Option.elim, errors_refuse]
    exact .cons (returned_ofKind hcause) .nil

theorem run_eq_answer (t : Terminal β) (c : Client) (s : Statement) (b : Backend) :
    (t.run c s b).1 = t.answer c s b.outcome := by
  rcases h : c.compile s with e | q
  · rw [t.run_of_error h, answer, h]
  · have hp := t.performs h b
    rw [answer, h]
    generalize t.run c s b = ran at hp
    obtain ⟨x, b'⟩ := ran
    cases hp with
    | failed m log harmed => simp only [Backend.outcome, harmed, answerTo]
    | gaveUp log harmed hfree => simp only [Backend.outcome, harmed, hfree, if_true, answerTo]
    | read k log harmed hfree hpulls =>
      subst hpulls
      simp only [Backend.outcome, harmed, hfree, Nat.succ_ne_zero, if_false, answerTo]

end Terminal

namespace Cursor

variable {c c' c₀ : Cursor} {b b' b₀ : Backend} {p : Poll Row} {x : Except Error Row}

theorem Connected.holds (hc : Connected c b c₀ b₀) : c₀.holdsConnection = true := by
  cases hc with
  | held h => exact h
  | opened _ _ _ _ | takenUp _ => rfl

theorem exists_of_remaining {rest : List (Except Error Row)} (h : c.holdsConnection = true)
    (hx : c.remaining = x :: rest) : ∃ q y, x = Except.mapError (executionError q) y := by
  cases c with
  | running q items =>
    obtain ⟨y, -, -, rfl, -⟩ := List.map_eq_cons_iff.1 hx
    exact ⟨q, y, rfl⟩
  | failed => cases hx
  | refused _ | idle _ _ | waiting _ _ | ended => cases h

/-- Whatever a cursor yields that was not refused comes from the driver. -/
theorem Polled.exists_of_item (hp : Polled c b (.item x) c' b') (h : ∀ e, c ≠ .refused e) :
    ∃ q y, x = Except.mapError (executionError q) y := by
  cases hp with
  | refused e => exact absurd rfl (h e)
  | @denied _ q _ m log _ => exact ⟨q, .error (.ofText m), rfl⟩
  | item k log hc hx _ _ => exact exists_of_remaining hc.holds hx

theorem Polled.ne_refused (hp : Polled c b p c' b') (e : Error) : c' ≠ .refused e := by
  cases hp with
  | refused _ | denied _ _ _ | queued _ _ _ | passedOver _ | finished _ _ _ _ | ended => nofun
  | item k log _ _ holds _ =>
    rintro rfl
    cases holds

end Cursor

theorem Poll.exists_of_settle {shape : Shape α} {p : Poll Row} {x : Except Error α}
    (h : p.settle shape = .item x) : ∃ y, p = .item y ∧ shape.settle y = x := by
  match p with
  | .item y => exact ⟨y, rfl, Poll.item.inj h⟩

theorem Shape.exists_failure_of_deliver {s : Shape α} {q : Query} {y : Except Error Row} {x : Error}
    (h : s.deliver q y = .error x) : ∃ f ∈ s.failures y, f.Returned x := by
  have hreturned := s.returned_deliver q y
  rw [h] at hreturned
  obtain ⟨f, fs, hf, -, hfailures⟩ := List.forall₂_cons_right_iff.1 hreturned
  exact ⟨f, hfailures ▸ List.mem_cons_self, hf⟩

/-- Whatever happens to the backend between two polls, an error of a stream whose query compiled
is what a caller gets for a failure of the driver or of the mapping. -/
theorem ResultStream.exists_failure_of_mem_pollAmid {s : ResultStream α} {shape : Shape α}
    {bs : List Backend} {turn : Turn α} {x : Error} (hs : s.reader = .rows shape)
    (hc : ∀ e, s.cursor ≠ .refused e) (h : turn ∈ s.pollAmid bs)
    (hx : turn.answer = .item (.error x)) : ∃ f y, f ∈ shape.failures y ∧ f.Returned x := by
  induction bs generalizing s with
  | nil => cases h
  | cons b bs ih =>
    obtain ⟨p, c', b', log, hp, hpoll⟩ := exists_polled hs b
    rw [pollAmid, hpoll] at h
    rcases List.mem_cons.1 h with rfl | hlater
    · obtain ⟨y, rfl, hsettle⟩ := Poll.exists_of_settle hx
      obtain ⟨q, z, rfl⟩ := hp.exists_of_item hc
      rw [Shape.settle_mapError] at hsettle
      obtain ⟨f, hf, hreturned⟩ := Shape.exists_failure_of_deliver hsettle
      exact ⟨f, z, hf, hreturned⟩
    · exact ih (s := ⟨c', .rows shape⟩) rfl hp.ne_refused hlater

namespace Client

variable {c : Client} {s : Statement} {b : Backend}

/-- A stream that is denied a connection answers with that, and is at its end. -/
theorem pollTimes_stream_of_armed {q : Query} {m : String} (hq : c.compile s = .ok q)
    (shape : Shape α) (h : b.acquireFailure = some m) (n : Nat) :
    ((c.stream s shape).pollTimes b n).1 =
      Poll.answersTo [.error (executionError q (.ofText m))] n := by
  cases n with
  | zero => exact (Poll.answersTo_zero _).symm
  | succ n =>
    obtain ⟨p, c', b', log, hp, hpoll⟩ := ResultStream.exists_polled
      (s := ⟨.idle q c.logsQueries, .rows shape⟩) rfl b
    have hidle := hp.of_idle
    rw [h] at hidle
    obtain ⟨rfl, rfl, -⟩ := hidle
    obtain ⟨hrest, -⟩ := ResultStream.answers_pollTimes (s := ⟨.ended, .rows shape⟩) rfl rfl
      (b'.record log) n
    rw [stream_of_compile hq, ResultStream.pollTimes, hpoll, Poll.answersTo_succ]
    exact congrArg (_ :: ·) hrest

theorem pollTimes_stream_of_answer (c : Client) (s : Statement) (shape : Shape α) (b : Backend)
    (n : Nat) {xs : List (Except Error α)}
    (h : (Terminal.all shape).answer c s b.outcome = some xs) :
    ((c.stream s shape).pollTimes b n).1 = Poll.answersTo xs n := by
  rcases hq : c.compile s with e | q
  · rw [Terminal.answer, hq] at h
    obtain rfl := Option.some.inj h
    rw [stream_of_error hq]
    exact (ResultStream.answers_pollTimes rfl rfl b n).1
  · rw [Terminal.answer, hq, Backend.outcome] at h
    rcases harmed : b.acquireFailure with _ | m
    · rw [harmed] at h
      by_cases hfree : b.pool.free = 0
      · rw [if_pos hfree] at h
        cases h
      · rw [if_neg hfree] at h
        obtain rfl := Option.some.inj h
        rw [(pollTimes_stream hq shape harmed (Nat.pos_of_ne_zero hfree) n).1]
        exact congrArg (Poll.answersTo · n) (Reading.all_pullsOf shape q _).1.symm
    · rw [harmed] at h
      obtain rfl := Option.some.inj h
      exact pollTimes_stream_of_armed hq shape harmed n

theorem exists_failure_of_mem_pollAmid (c : Client) (s : Statement) (shape : Shape α)
    {bs : List Backend} {turn : Turn α} {x : Error} (h : turn ∈ (c.stream s shape).pollAmid bs)
    (hx : turn.answer = .item (.error x)) :
    ∃ f, f.Returned x ∧ match c.rejection? s with
      | some g => f = g
      | none => ∃ y, f ∈ shape.failures y := by
  obtain ⟨q, hq, hnone⟩ | ⟨f, hf, hsome, hcause⟩ := c.compile_cases s
  · rw [stream_of_compile hq] at h
    obtain ⟨f, y, hmem, hreturned⟩ :=
      ResultStream.exists_failure_of_mem_pollAmid rfl (fun _ => Cursor.noConfusion) h hx
    rw [hnone]
    exact ⟨f, hreturned, y, hmem⟩
  · rw [stream_of_error hf] at h
    rw [hsome]
    cases bs with
    | nil => cases h
    | cons b bs =>
      rcases List.mem_cons.1 h with rfl | hlater
      · obtain rfl := Except.error.inj (Poll.item.inj hx)
        exact ⟨f, returned_ofKind hcause, rfl⟩
      · -- behind the refusal the stream is at its end
        have hended : turn ∈ (⟨.ended, .rows shape⟩ : ResultStream α).pollAmid bs := hlater
        rw [ResultStream.pollAmid_ended] at hended
        obtain ⟨b', -, rfl⟩ := List.mem_map.1 hended
        cases hx

/-- However a statement is run, the errors of the answer are, one by one and in order, what its
caller gets for the failures of the stages: the check of the statement or of the dialect, the
driver, the mapping of a row, or a second row where there has to be one at most. This holds for
any failure to connect; what a backend makes of its own, and the items of a stream, are such
answers. A stream that has to wait meets the same failures. -/
theorem errors_classified (c : Client) (s : Statement) :
    (∀ {β : Type} (t : Terminal β) (x : Outcome),
      List.Forall₂ Failure.Returned (t.failures c s x) ((t.answer c s x).elim [] t.errors)) ∧
    (∀ {β : Type} (t : Terminal β) (b : Backend), (t.run c s b).1 = t.answer c s b.outcome) ∧
    (∀ {α : Type} (shape : Shape α) (b : Backend) (n : Nat) (xs : List (Except Error α)),
      (Terminal.all shape).answer c s b.outcome = some xs →
      ((c.stream s shape).pollTimes b n).1 = Poll.answersTo xs n) ∧
    ∀ {α : Type} (shape : Shape α) (bs : List Backend) (turn : Turn α) (x : Error),
      turn ∈ (c.stream s shape).pollAmid bs → turn.answer = .item (.error x) →
      ∃ f, f.Returned x ∧ match c.rejection? s with
        | some g => f = g
        | none => ∃ y, f ∈ shape.failures y :=
  ⟨fun t x => t.returned_answer c s x, fun t b => t.run_eq_answer c s b,
    fun shape b n _ h => pollTimes_stream_of_answer c s shape b n h,
    fun shape _ _ _ h hx => exists_failure_of_mem_pollAmid c s shape h hx⟩

-- A driver may classify its errors as it likes.
example :
    let broken := (Error.ofText "connection reset").within (.kind .mapping)
    let answer := (Terminal.one bookTitle).answer .default books (.answered [.error broken])
    (answer.elim [] (Terminal.one bookTitle).errors).map Error.kind? = [some .execution] := by
  rfl

end Client
end Quarry
