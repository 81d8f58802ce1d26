import Quarry.Proofs.Client.Cardinality

/-!
# Two ways to count

How many rows a statement affected is counted in two ways: the count of an execution adds up the
counts of the response and skips its rows, and the number of updated rows takes the rows for the
count when no count is there. On each response the two stop at the same failure or read it to the
end and agree on the sum, and executions add up when responses are put together
(`Client.counts_agree`).
-/

namespace Quarry

namespace RowsAffected

def totalRows (as : List RowsAffected) : Nat := as.foldr (fun a n => a.rows + n) 0

/-- The identifier that was made last, among those that are told. -/
def lastId? (as : List RowsAffected) : Option Int := (as.filterMap lastId).getLast?

theorem totalRows_cons (a : RowsAffected) (as : List RowsAffected) :
    totalRows (a :: as) = a.rows + totalRows as := rfl

theorem totalRows_append (as bs : List RowsAffected) :
    totalRows (as ++ bs) = totalRows as + totalRows bs := by
  induction as with
  | nil => exact (Nat.zero_add _).symm
  | cons a as ih => rw [List.cons_append, totalRows_cons, totalRows_cons, ih, Nat.add_assoc]

theorem lastId?_append (as bs : List RowsAffected) :
    lastId? (as ++ bs) = (lastId? bs).or (lastId? as) := by
  rw [lastId?, List.filterMap_append, List.getLast?_append]
  rfl

theorem lastId?_cons (a : RowsAffected) (as : List RowsAffected) :
    lastId? (a :: as) = (lastId? as).or a.lastId := by
  have hsingle : lastId? [a] = a.lastId := by
    cases h : a.lastId <;> simp [lastId?, h]
  rw [← hsingle]
  exact lastId?_append [a] as

end RowsAffected

def Reply.count? : Reply → Option RowsAffected
  | .row _ => none
  | .affected a => some a

namespace Response

def failure? (items : Response) : Option Error :=
  items.findSome? fun
    | .ok _ => none
    | .error e => some e

def replies (items : Response) : List Reply := items.filterMap Except.toOption

def counts (items : Response) : List RowsAffected := items.replies.filterMap Reply.count?

def rowCount (items : Response) : Nat := items.replies.countP (·.count?.isNone)

theorem failure?_eq_none_iff {items : Response} :
    items.failure? = none ↔ ∀ e, .error e ∉ items := by
  rw [failure?, List.findSome?_eq_none_iff]
  constructor
  · intro h e he
    exact Option.some_ne_none e (h _ he)
  · intro h x hx
    cases x with
    | ok r => rfl
    | error e => exact absurd hx (h e)

theorem failure?_append (l r : Response) : (l ++ r).failure? = l.failure?.or r.failure? :=
  List.findSome?_append

theorem counts_append (l r : Response) : (l ++ r).counts = l.counts ++ r.counts := by
  rw [counts, replies, List.filterMap_append, List.filterMap_append]
  rfl

end Response

namespace Reading

open Response RowsAffected

variable {α : Type}

/-- A fold of the replies ends at the first failure, or has taken all of them. -/
theorem foldReplies_pullsOf (step : α → Reply → α) (a : α) (q : Query) (items : Response) :
    (foldReplies step a (Backend.pullsOf q items)).result = (match items.failure? with
      | some e => .error (executionError q e)
      | none => .ok (items.replies.foldl step a)) ∧
    (foldReplies step a (Backend.pullsOf q items)).rest = [] := by
  induction items generalizing a with
  | nil => exact ⟨rfl, rfl⟩
  | cons x items ih =>
    cases x with
    | error e => exact ⟨rfl, rfl⟩
    | ok r => exact ih (step a r)

/-- The tally of some replies on top of one that was made before. -/
theorem foldl_tally (rs : List Reply) (t : Tally) :
    rs.foldl Tally.add t = ⟨t.rows + rs.countP (·.count?.isNone),
      if rs.filterMap Reply.count? = [] then t.affected
      else some (t.affected.getD 0 + totalRows (rs.filterMap Reply.count?))⟩ := by
  induction rs generalizing t with
  | nil => rfl
  | cons r rs ih =>
    rw [List.foldl_cons, ih]
    cases r with
    | row r =>
      rw [List.countP_cons_of_pos rfl, List.filterMap_cons_none rfl, Tally.add,
        Nat.add_right_comm]
      rfl
    | affected a =>
      have hcounts : (Reply.affected a :: rs).filterMap Reply.count? =
          a :: rs.filterMap Reply.count? := rfl
      rw [List.countP_cons_of_neg Bool.false_ne_true, hcounts, if_neg (List.cons_ne_nil _ _),
        totalRows_cons, Tally.add]
      by_cases hnone : rs.filterMap Reply.count? = []
      · rw [if_pos hnone, hnone]
        rfl
      · rw [if_neg hnone, Option.getD_some, Nat.add_assoc]

/-- The counts of some replies on top of those that were added before. -/
theorem foldl_countUp (rs : List Reply) (a : RowsAffected) :
    rs.foldl countUp a = ⟨a.rows + totalRows (rs.filterMap Reply.count?),
      (lastId? (rs.filterMap Reply.count?)).or a.lastId⟩ := by
  induction rs generalizing a with
  | nil => rfl
  | cons r rs ih =>
    rw [List.foldl_cons, ih]
    cases r with
    | row r => rfl
    | affected b =>
      have hcounts : (Reply.affected b :: rs).filterMap Reply.count? =
          b :: rs.filterMap Reply.count? := rfl
      rw [hcounts, totalRows_cons, lastId?_cons, countUp, RowsAffected.add, Nat.add_assoc,
        Option.or_assoc]

theorem rowsUpdated_pullsOf (q : Query) (items : Response) :
    (rowsUpdated (Backend.pullsOf q items)).result = (match items.failure? with
      | some e => .error (executionError q e)
      | none => .ok (if items.counts = [] then items.rowCount else totalRows items.counts)) := by
  change Except.map Tally.total (foldReplies _ _ _).result = _
  rw [(foldReplies_pullsOf _ _ q items).1]
  cases items.failure? with
  | some e => rfl
  | none =>
    change Except.ok (Tally.total _) = Except.ok _
    rw [foldl_tally, ← counts, ← rowCount, Tally.total, Nat.zero_add]
    split
    · rfl
    · exact congrArg Except.ok (Nat.zero_add _)

theorem affected_pullsOf (q : Query) (items : Response) :
    (affected (Backend.pullsOf q items)).result = (match items.failure? with
      | some e => .error (executionError q e)
      | none => .ok ⟨totalRows items.counts, lastId? items.counts⟩) := by
  rw [affected, (foldReplies_pullsOf _ _ q items).1, foldl_countUp, ← counts,
    RowsAffected.zero, Nat.zero_add, Option.or_none]

end Reading

namespace Backend

/-- A connection is free, and this is the response to the next query. -/
structure Offers (b : Backend) (items : Response) : Prop where
  unarmed : b.acquireFailure = none
  free : 0 < b.pool.free
  response : b.responses.head?.getD [] = items

variable {β : Type} {b : Backend} {items : Response}

/-- A reader that leaves no pull gets a response without failure to its end. -/
theorem Offers.perform (h : b.Offers items) (q : Query) (logged : Bool) (refuse : Error → β)
    (consume : List Pull → Reading β) (hrest : (consume (pullsOf q items)).rest = []) :
    ∃ b', b.perform q logged refuse consume = (some (consume (pullsOf q items)).result, b') ∧
      (items.failure? = none → b'.pulled = b.pulled + items.length) := by
  obtain ⟨b', hperform, hpulled⟩ := perform_of_free h.unarmed h.free q logged refuse consume
  rw [h.response] at hperform hpulled
  refine ⟨b', hperform, fun hnone => ?_⟩
  rw [hpulled, hrest, List.length_nil, Nat.sub_zero, Reading.taken_all,
    Response.reach_eq_length (Nat.lt_succ_self _) (Response.failure?_eq_none_iff.1 hnone)]

end Backend

namespace Client

open Response RowsAffected

variable {c : Client} {s : Statement} {q : Query}

/-- On a response with a failure the two counts fail with the first one. On any other both read it
to the end: an execution yields the sum of the counts with the identifier that was told last, and
the number of updated rows is that sum if there is a count, and else the number of rows. What an
execution yields for two responses, put together, is the sum of both with the later identifier. -/
theorem counts_agree (hq : c.compile s = .ok q) (query : Query) :
    (∀ (b : Backend) (items : Response), b.Offers items →
      (∀ e, items.failure? = some e → ∃ b₁ b₂ b₃,
        c.rowsUpdated s b = (some (.error (executionError q e)), b₁) ∧
        c.execute s b = (some (.error (executionError q e)), b₂) ∧
        c.change query b = (some (.error (executionError query e)), b₃)) ∧
      (items.failure? = none → ∃ b₁ b₂ b₃,
        (c.rowsUpdated s b = (some (.ok
            (if items.counts = [] then items.rowCount else totalRows items.counts)), b₁) ∧
          b₁.pulled = b.pulled + items.length) ∧
        (c.execute s b = (some (.ok ⟨totalRows items.counts, lastId? items.counts⟩), b₂) ∧
          b₂.pulled = b.pulled + items.length) ∧
        (c.change query b = (some (.ok ⟨totalRows items.counts, lastId? items.counts⟩), b₃) ∧
          b₃.pulled = b.pulled + items.length))) ∧
    (∀ (b b' b'' : Backend) (l r : Response), b.Offers l → b'.Offers r → b''.Offers (l ++ r) →
      l.failure? = none → r.failure? = none →
      ∃ m n, (c.change query b).1 = some (.ok m) ∧ (c.change query b').1 = some (.ok n) ∧
        (c.change query b'').1 = some (.ok ⟨m.rows + n.rows, n.lastId.or m.lastId⟩)) := by
  have hall : ∀ (query : Query) (b : Backend) (items : Response), b.Offers items →
      ∃ b', b.perform query c.logsQueries .error Reading.affected =
          (some (Reading.affected (Backend.pullsOf query items)).result, b') ∧
        (items.failure? = none → b'.pulled = b.pulled + items.length) :=
    fun query b items hb =>
      hb.perform query _ _ _ (Reading.foldReplies_pullsOf Reading.countUp _ query items).2
  refine ⟨fun b items hb => ?_, fun b b' b'' l r hb hb' hb'' hl hr => ?_⟩
  · obtain ⟨b₁, hupdated, hpulled₁⟩ := hb.perform q c.logsQueries .error
      Reading.rowsUpdated (Reading.foldReplies_pullsOf Reading.Tally.add _ q items).2
    obtain ⟨b₂, hexecuted, hpulled₂⟩ := hall q b items hb
    obtain ⟨b₃, hchanged, hpulled₃⟩ := hall query b items hb
    rw [← perform_of_compile hq, Reading.rowsUpdated_pullsOf] at hupdated
    rw [← perform_of_compile hq, Reading.affected_pullsOf] at hexecuted
    rw [Reading.affected_pullsOf] at hchanged
    refine ⟨fun e he => ⟨b₁, b₂, b₃, ?_⟩, fun hnone => ⟨b₁, b₂, b₃, ?_⟩⟩
    · rw [he] at hupdated hexecuted hchanged
      exact ⟨hupdated, hexecuted, hchanged⟩
    · rw [hnone] at hupdated hexecuted hchanged
      exact ⟨⟨hupdated, hpulled₁ hnone⟩, ⟨hexecuted, hpulled₂ hnone⟩, hchanged, hpulled₃ hnone⟩
  · have hanswer : ∀ (b : Backend) (items : Response), b.Offers items → items.failure? = none →
        (c.change query b).1 = some (.ok ⟨totalRows items.counts, lastId? items.counts⟩) := by
      intro b items hb hnone
      obtain ⟨b', hchanged, -⟩ := hall query b items hb
      rw [Reading.affected_pullsOf, hnone] at hchanged
      exact congrArg Prod.fst hchanged
    have hboth : (l ++ r).failure? = none := by rw [failure?_append, hl, hr, Option.or_none]
    refine ⟨_, _, hanswer b l hb hl, hanswer b' r hb' hr, ?_⟩
    rw [hanswer b'' (l ++ r) hb'' hboth, counts_append, totalRows_append, lastId?_append]

def clearBooks : Statement := .delete (.new (.named ⟨"", "book"⟩))

def deleteBooks : Query := ⟨"DELETE FROM \"book\"", []⟩

def mixedResponse : Response :=
  [.ok (.row ⟨["title"], [.ofString "Atlas"]⟩), .ok (.affected ⟨0, some 7⟩),
    .ok (.row ⟨["title"], [.ofString "Almanac"]⟩), .ok (.affected ⟨2, none⟩)]

def plainResponse : Response :=
  [.ok (.row ⟨["title"], [.ofString "Atlas"]⟩), .ok (.row ⟨["title"], [.ofString "Almanac"]⟩),
    .ok (.row ⟨["title"], [.ofString "Lexicon"]⟩)]

theorem counts_agree_mixedResponse :
    let offering := fun items : Response => (Backend.ofSize 1).push items
    default.compile clearBooks = .ok deleteBooks ∧
      (∀ items, (offering items).Offers items) ∧
      (default.rowsUpdated clearBooks (offering mixedResponse)).1 = some (.ok 2) ∧
      (default.execute clearBooks (offering mixedResponse)).1 = some (.ok ⟨2, some 7⟩) ∧
      (default.rowsUpdated clearBooks (offering plainResponse)).1 = some (.ok 3) ∧
      (default.execute clearBooks (offering plainResponse)).1 = some (.ok ⟨0, none⟩) ∧
      (default.execute clearBooks (offering brokenResponse)).1 =
        some (.error (executionError deleteBooks (.ofText "disk full"))) ∧
      ∃ m n, (default.change deleteBooks (offering plainResponse)).1 = some (.ok m) ∧
        (default.change deleteBooks (offering mixedResponse)).1 = some (.ok n) ∧
        (default.change deleteBooks (offering (plainResponse ++ mixedResponse))).1 =
          some (.ok ⟨m.rows + n.rows, n.lastId.or m.lastId⟩) := by
  intro offering
  have hq : default.compile clearBooks = .ok deleteBooks := by rfl
  have hoffers : ∀ items, (offering items).Offers items := fun items => ⟨rfl, Nat.one_pos, rfl⟩
  obtain ⟨hanswers, htogether⟩ := counts_agree hq deleteBooks
  obtain ⟨b₁, b₂, -, ⟨hmixed, -⟩, ⟨hmixed', -⟩, -⟩ :=
    (hanswers _ mixedResponse (hoffers _)).2 rfl
  obtain ⟨b₃, b₄, -, ⟨hplain, -⟩, ⟨hplain', -⟩, -⟩ :=
    (hanswers _ plainResponse (hoffers _)).2 rfl
  obtain ⟨-, b₅, -, -, hbroken, -⟩ :=
    (hanswers _ brokenResponse (hoffers _)).1 (.ofText "disk full") rfl
  refine ⟨hq, hoffers, ?_, ?_, ?_, ?_, ?_, ?_⟩
  · rw [hmixed]
    rfl
  · rw [hmixed']
    rfl
  · rw [hplain]
    rfl
  · rw [hplain']
    rfl
  · rw [hbroken]
  · exact htogether _ _ _ _ _ (hoffers _) (hoffers _) (hoffers _) rfl rfl

end Client
end Quarry
