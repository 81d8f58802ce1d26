import Quarry.Proofs.Client.Streaming

/-!
# The rows that a client gets

What the first row, the only row and all rows of a statement are, told by the visible items
of the response to it, and how far the response is read for them (`Client.first_one_all`).
-/

namespace Quarry

open Response

namespace Backend

/-- With a free connection a query is answered, and what was consumed of its response was
pulled. -/
theorem perform_of_free {β : Type} {b : Backend} (h : b.acquireFailure = none)
    (hfree : 0 < b.pool.free) (q : Query) (logged : Bool) (refuse : Error → β)
    (consume : List Pull → Reading β) :
    ∃ b', b.perform q logged refuse consume =
        (some (consume (pullsOf q (b.responses.head?.getD []))).result, b') ∧
      b'.pulled = b.pulled + ((pullsOf q (b.responses.head?.getD [])).length -
        (consume (pullsOf q (b.responses.head?.getD []))).rest.length) := by
  have hp := b.performs q logged refuse consume
  generalize b.perform q logged refuse consume = performed at hp
  obtain ⟨x, b'⟩ := performed
  cases hp with
  | failed m log harmed =>
    rw [h] at harmed
    cases harmed
  | gaveUp log _ hnone => omega
  | read k log _ _ hpulls =>
    subst hpulls
    exact ⟨_, rfl, rfl⟩

end Backend

namespace Client

variable {α : Type} {c : Client} {s : Statement} {q : Query} {b : Backend}

/-- Polls of a stream on a backend with a free connection, told by the response that its
query takes. -/
theorem pollTimes_stream (hq : c.compile s = .ok q) (shape : Shape α)
    (h : b.acquireFailure = none) (hfree : 0 < b.pool.free) (n : Nat) :
    ((c.stream s shape).pollTimes b n).1 =
        Poll.answersTo ((visible (b.responses.head?.getD [])).map (shape.deliver q)) n ∧
      ((c.stream s shape).pollTimes b n).2.2.pulled =
        b.pulled + reach n (b.responses.head?.getD []) := by
  cases n with
  | zero => exact ⟨(Poll.answersTo_zero _).symm, by rw [reach_zero]; rfl⟩
  | succ n =>
    obtain ⟨b₀, hpoll, hpulled⟩ :=
      ResultStream.poll_of_free (stream_of_compile hq shape) h hfree
    -- from the first poll on, the stream is one whose query was sent before
    have hsent : (c.stream s shape).pollTimes b (n + 1) =
        (⟨.running q (b.responses.head?.getD []), .rows shape⟩ :
          ResultStream α).pollTimes b₀ (n + 1) := by
      rw [ResultStream.pollTimes, hpoll, ← ResultStream.pollTimes]
    rw [hsent, ← Shape.settle_remaining, ← hpulled]
    exact ResultStream.answers_pollTimes rfl rfl b₀ (n + 1)

/-- Let the response to a query be any list of rows, counts and failures. The first row is the
first visible item, the only row is there when there is no more than it, and a stream goes
through all of them; each row is mapped. The response is read up to and including the first
visible item, the second, the last one that was asked for; when there are fewer, up to and
including the failure, or else to its end. -/
theorem first_one_all (shape : Shape α) (hq : c.compile s = .ok q)
    (h : b.acquireFailure = none) (hfree : 0 < b.pool.free) :
    let items : Response := b.responses.head?.getD []
    (∃ b' k, c.first s shape b = (some (match items.visible with
        | [] => .ok none
        | x :: _ => (shape.deliver q x).map some), b') ∧
      b'.pulled = b.pulled + k ∧ items.ReadFor 1 k) ∧
    (∃ b' k, c.one s shape b = (some (Reading.only shape q items.visible), b') ∧
      b'.pulled = b.pulled + k ∧ items.ReadFor 2 k) ∧
    (∃ b' k, c.all s shape b = (some (items.visible.map (shape.deliver q)), b') ∧
      b'.pulled = b.pulled + k ∧ items.ReadFor (items.visible.length + 1) k) ∧
    ∀ n, ∃ stream b' k, (c.stream s shape).pollTimes b n =
        (Poll.answersTo (items.visible.map (shape.deliver q)) n, stream, b') ∧
      b'.pulled = b.pulled + k ∧ items.ReadFor n k := by
  intro items
  refine ⟨?first, ?one, ?all, ?stream⟩
  case first =>
    obtain ⟨b', hperform, hpulled⟩ := Backend.perform_of_free h hfree q c.logsQueries .error
      (Reading.first shape)
    rw [Reading.taken_first] at hpulled
    rw [(Reading.first_pullsOf shape q items).1, ← perform_of_compile hq] at hperform
    exact ⟨b', _, hperform, hpulled, readFor_reach items 1⟩
  case one =>
    obtain ⟨b', hperform, hpulled⟩ := Backend.perform_of_free h hfree q c.logsQueries .error
      (Reading.one shape)
    rw [Reading.taken_one] at hpulled
    rw [Reading.result_one_pullsOf, ← perform_of_compile hq] at hperform
    exact ⟨b', _, hperform, hpulled, readFor_reach items 2⟩
  case all =>
    obtain ⟨b', hperform, hpulled⟩ := Backend.perform_of_free h hfree q c.logsQueries
      (fun e => [.error e]) (Reading.all shape)
    rw [(Reading.all_pullsOf shape q items).2, Reading.taken_all] at hpulled
    rw [(Reading.all_pullsOf shape q items).1, ← perform_of_compile hq] at hperform
    exact ⟨b', _, hperform, hpulled, readFor_reach items _⟩
  case stream =>
    intro n
    obtain ⟨hanswers, hpulled⟩ := pollTimes_stream (s := s) hq shape h hfree n
    exact ⟨_, _, _, Prod.ext hanswers rfl, hpulled, readFor_reach items n⟩

def books : Statement := .select (.new (.named ⟨"", "book"⟩))

def selectBooks : Query := ⟨"SELECT *\nFROM \"book\"", []⟩

def bookTitle : Shape String := .custom fun r => r.getAs (.plain .text) "title"

/-- Between two counts a book without a title and one with it, then a failure before the end. -/
def brokenResponse : Response :=
  [.ok (.affected ⟨2, none⟩), .ok (.row ⟨["title"], [.null]⟩),
    .ok (.row ⟨["title"], [.ofString "Atlas"]⟩), .ok (.affected ⟨1, none⟩),
    .error (.ofText "disk full"), .ok (.row ⟨["title"], [.ofString "Almanac"]⟩)]

/-- Two rows are too many for the only row, even though the first one has no title. The stream
has three items, and the book behind the failure is not pulled. -/
theorem first_one_all_brokenResponse :
    let b := (Backend.ofSize 1).push brokenResponse
    default.compile books = .ok selectBooks ∧ b.acquireFailure = none ∧ 0 < b.pool.free ∧
    (∃ e b', default.first books bookTitle b = (some (.error e), b') ∧ b'.pulled = 2) ∧
    (∃ b', default.one books bookTitle b = (some (.error (.ofKind (.resultSize 1))), b') ∧
      b'.pulled = 3) ∧
    ∃ e stream b', (default.stream books bookTitle).pollTimes b 5 =
        ([.item (.error e), .item (.ok "Atlas"),
          .item (.error (executionError selectBooks (.ofText "disk full"))), .finished, .finished],
          stream, b') ∧ b'.pulled = 5 := by
  intro b
  have hq : default.compile books = .ok selectBooks := by rfl
  have hfree : 0 < b.pool.free := Nat.one_pos
  obtain ⟨⟨b₁, k₁, hfirst, hpulled₁, hk₁⟩, ⟨b₂, k₂, hone, hpulled₂, hk₂⟩, -, hstream⟩ :=
    first_one_all (b := b) bookTitle hq rfl hfree
  obtain ⟨stream, b₃, k₃, hpoll, hpulled₃, hk₃⟩ := hstream 5
  refine ⟨hq, rfl, hfree, ⟨_, b₁, hfirst, ?_⟩, ⟨b₂, hone, ?_⟩, ⟨_, stream, b₃, hpoll, ?_⟩⟩
  · rw [hpulled₁, hk₁.eq_reach]
    rfl
  · rw [hpulled₂, hk₂.eq_reach]
    rfl
  · rw [hpulled₃, hk₃.eq_reach]
    rfl

def fullDisk : Response := [.error (.ofText "disk full"), .ok (.affected ⟨1, none⟩)]

/-- A stream that is polled past a failure has not read its response to the end. -/
theorem pollTimes_fullDisk :
    let polled := (default.stream books bookTitle).pollTimes ((Backend.ofSize 1).push fullDisk) 2
    fullDisk.visible = [.error (.ofText "disk full")] ∧
      polled.1 = [.item (.error (executionError selectBooks (.ofText "disk full"))), .finished] ∧
      polled.2.2.pulled = 1 ∧ polled.2.2.pulled ≠ fullDisk.length := by
  have hpulled : ((default.stream books bookTitle).pollTimes
      ((Backend.ofSize 1).push fullDisk) 2).2.2.pulled = 1 := by rfl
  exact ⟨rfl, rfl, hpulled, by rw [hpulled]; decide⟩

end Client
end Quarry
