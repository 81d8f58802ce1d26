import Quarry.Result.Reply
import Quarry.Result.Shape

/-!
# Reading results

Results are read from a list of pulls: what one step of the source yields, with what it
reports. Each reader takes no more pulls than its answer needs and leaves the rest.
Counts among the rows are skipped by the readers of rows.
-/
namespace Quarry

structure Pull where
  item : Except Error Reply
  log : List LogRecord

/-- The answer of a reader, what it reported, and the pulls that it did not take. -/
structure Reading (α : Type) where
  result : α
  log : List LogRecord
  rest : List Pull

namespace Reading

variable {α β : Type}

def map (f : α → β) (r : Reading α) : Reading β := { r with result := f r.result }

def nextRow : List Pull → Reading (Option (Except Error Row))
  | [] => ⟨none, [], []⟩
  | ⟨.ok (.row r), log⟩ :: rest => ⟨some (.ok r), log, rest⟩
  | ⟨.error e, log⟩ :: rest => ⟨some (.error e), log, rest⟩
  | ⟨.ok (.affected _), log⟩ :: rest =>
    let next := nextRow rest
    { next with log := log ++ next.log }

def first (s : Shape α) (pulls : List Pull) : Reading (Except Error (Option α)) :=
  match nextRow pulls with
  | ⟨none, log, rest⟩ => ⟨.ok none, log, rest⟩
  | ⟨some (.error e), log, rest⟩ => ⟨.error e, log, rest⟩
  | ⟨some (.ok r), log, rest⟩ => ⟨(s.apply r).map some, log ++ s.report r, rest⟩

/-- The only row, if there is one; it is mapped after no other was found. -/
def one (s : Shape α) (pulls : List Pull) : Reading (Except Error (Option α)) :=
  match nextRow pulls with
  | ⟨none, log, rest⟩ => ⟨.ok none, log, rest⟩
  | ⟨some (.error e), log, rest⟩ => ⟨.error e, log, rest⟩
  | ⟨some (.ok r), log, rest⟩ =>
    match nextRow rest with
    | ⟨none, log', rest⟩ => ⟨(s.apply r).map some, log ++ log' ++ s.report r, rest⟩
    | ⟨some (.error e), log', rest⟩ => ⟨.error e, log ++ log', rest⟩
    | ⟨some (.ok _), log', rest⟩ =>
      let e := Error.ofKind (.resultSize 1)
      ⟨.error e, log ++ log' ++ e.report, rest⟩

def all (s : Shape α) : List Pull → Reading (List (Except Error α))
  | [] => ⟨[], [], []⟩
  | ⟨.ok (.row r), log⟩ :: rest =>
    let next := all s rest
    ⟨s.apply r :: next.result, log ++ s.report r ++ next.log, next.rest⟩
  | ⟨.error e, log⟩ :: rest =>
    let next := all s rest
    ⟨.error e :: next.result, log ++ next.log, next.rest⟩
  | ⟨.ok (.affected _), log⟩ :: rest =>
    let next := all s rest
    { next with log := log ++ next.log }

def replies (pulls : List Pull) : Reading (List (Except Error Reply)) :=
  ⟨pulls.map Pull.item, pulls.flatMap Pull.log, []⟩

def rows (pulls : List Pull) : Reading (List (Except Error Row)) :=
  (replies pulls).map fun l => l.filterMap fun
    | .ok (.row r) => some (.ok r)
    | .ok (.affected _) => none
    | .error e => some (.error e)

def foldReplies (step : α → Reply → α) : α → List Pull → Reading (Except Error α)
  | a, [] => ⟨.ok a, [], []⟩
  | _, ⟨.error e, log⟩ :: rest => ⟨.error e, log, rest⟩
  | a, ⟨.ok r, log⟩ :: rest =>
    let next := foldReplies step (step a r) rest
    { next with log := log ++ next.log }

/-- Rows seen, and the affected rows counted if there was any count. -/
structure Tally where
  rows : Nat
  affected : Option Nat

namespace Tally

def add (t : Tally) : Reply → Tally
  | .row _ => { t with rows := t.rows + 1 }
  | .affected a => { t with affected := some (t.affected.getD 0 + a.rows) }

def total (t : Tally) : Nat := t.affected.getD t.rows

end Tally

/-- The sum of the counts, or the number of rows when there is no count. -/
def rowsUpdated (pulls : List Pull) : Reading (Except Error Nat) :=
  (foldReplies Tally.add ⟨0, none⟩ pulls).map (·.map Tally.total)

def countUp (a : RowsAffected) : Reply → RowsAffected
  | .row _ => a
  | .affected b => a.add b

def affected (pulls : List Pull) : Reading (Except Error RowsAffected) :=
  foldReplies countUp .zero pulls

end Reading
end Quarry
