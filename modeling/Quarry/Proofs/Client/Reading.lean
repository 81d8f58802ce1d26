import Quarry.Proofs.Client.Response

/-!
# Readers on a response

What the readers of rows make of the pulls that a response offers, told by the visible items
of the response: the answers, and how many pulls are taken for them.
-/

namespace Quarry

open Response

/-- What a client gets for a visible item. -/
def Shape.deliver {α : Type} (s : Shape α) (q : Query) : Except Error Row → Except Error α
  | .ok r => s.apply r
  | .error e => .error (executionError q e)

namespace Reading

variable {α : Type} {q : Query} {items : Response}

theorem nextRow_of_visible_nil (h : items.visible = []) :
    nextRow (Backend.pullsOf q items) = ⟨none, [], []⟩ := by
  induction items with
  | nil => rfl
  | cons x items ih =>
    match x with
    | .ok (.row r) => cases h
    | .ok (.affected a) => rw [Backend.pullsOf, nextRow, ih h, List.nil_append]
    | .error e => cases h

theorem nextRow_of_visible_failure {e : Error} {rest : List (Except Error Row)}
    (h : items.visible = .error e :: rest) :
    nextRow (Backend.pullsOf q items) =
      ⟨some (.error (executionError q e)), (executionError q e).report, []⟩ := by
  induction items with
  | nil => cases h
  | cons x items ih =>
    match x with
    | .ok (.row r) => cases h
    | .ok (.affected a) => rw [Backend.pullsOf, nextRow, ih h, List.nil_append]
    | .error e' =>
      obtain rfl : e' = e := by simpa [visible] using (List.cons.inj h).1
      rfl

theorem nextRow_of_visible_row {r : Row} {rest : List (Except Error Row)}
    (h : items.visible = .ok r :: rest) :
    nextRow (Backend.pullsOf q items) =
      ⟨some (.ok r), [], Backend.pullsOf q (items.drop (reach 1 items))⟩ := by
  induction items with
  | nil => cases h
  | cons x items ih =>
    match x with
    | .ok (.row r') =>
      obtain rfl : r' = r := by simpa [visible] using (List.cons.inj h).1
      simp [Backend.pullsOf, nextRow, reach]
    | .ok (.affected a) =>
      rw [Backend.pullsOf, nextRow, ih h, List.nil_append]
      rfl
    | .error e => cases h

theorem length_pullsOf (q : Query) (items : Response) :
    (Backend.pullsOf q items).length =
      reach 1 items + (nextRow (Backend.pullsOf q items)).rest.length := by
  induction items with
  | nil => rfl
  | cons x items ih =>
    match x with
    | .ok (.row r) => simp [Backend.pullsOf, nextRow, reach, Nat.add_comm]
    | .ok (.affected a) =>
      have hcount : reach 1 (.ok (.affected a) :: items) = reach 1 items + 1 := rfl
      simp only [Backend.pullsOf, nextRow, List.length_cons, ih, hcount]
      omega
    | .error e => rfl

theorem first_pullsOf (s : Shape α) (q : Query) (items : Response) :
    (first s (Backend.pullsOf q items)).result = (match items.visible with
      | [] => .ok none
      | x :: _ => (s.deliver q x).map some) ∧
    (first s (Backend.pullsOf q items)).rest = (nextRow (Backend.pullsOf q items)).rest := by
  rw [first]
  match h : items.visible with
  | [] => rw [nextRow_of_visible_nil h]; exact ⟨rfl, rfl⟩
  | .error e :: rest => rw [nextRow_of_visible_failure h]; exact ⟨rfl, rfl⟩
  | .ok r :: rest => rw [nextRow_of_visible_row h]; exact ⟨rfl, rfl⟩

theorem taken_first (s : Shape α) (q : Query) (items : Response) :
    (Backend.pullsOf q items).length - (first s (Backend.pullsOf q items)).rest.length =
      reach 1 items := by
  rw [(first_pullsOf s q items).2, length_pullsOf q items, Nat.add_sub_cancel]

/-- The answer to the request for the only row. -/
def only (s : Shape α) (q : Query) : List (Except Error Row) → Except Error (Option α)
  | [] => .ok none
  | .error e :: _ => .error (executionError q e)
  | [.ok r] => (s.apply r).map some
  | .ok _ :: .error e :: _ => .error (executionError q e)
  | .ok _ :: .ok _ :: _ => .error (.ofKind (.resultSize 1))

theorem result_one_pullsOf (s : Shape α) (q : Query) (items : Response) :
    (one s (Backend.pullsOf q items)).result = only s q items.visible := by
  rw [one]
  match h : items.visible with
  | [] => rw [nextRow_of_visible_nil h]; rfl
  | .error e :: rest => rw [nextRow_of_visible_failure h]; rfl
  | .ok r :: rest =>
    have hrest := visible_drop_reach h
    simp only [nextRow_of_visible_row h]
    match rest with
    | [] => rw [nextRow_of_visible_nil hrest]; rfl
    | .error e :: rest => rw [nextRow_of_visible_failure hrest]; rfl
    | .ok r' :: rest => rw [nextRow_of_visible_row hrest]; rfl

theorem rest_one (s : Shape α) (pulls : List Pull) :
    (one s pulls).rest = (match nextRow pulls with
      | ⟨some (.ok _), _, rest⟩ => (nextRow rest).rest
      | next => next.rest) := by
  rw [one]
  match nextRow pulls with
  | ⟨none, _, _⟩ | ⟨some (.error _), _, _⟩ => rfl
  | ⟨some (.ok r), log, rest⟩ =>
    match h : nextRow rest with
    | ⟨none, _, _⟩ | ⟨some (.error _), _, _⟩ | ⟨some (.ok _), _, _⟩ => simp only [h]

theorem taken_one (s : Shape α) (q : Query) (items : Response) :
    (Backend.pullsOf q items).length - (one s (Backend.pullsOf q items)).rest.length =
      reach 2 items := by
  have hlength := length_pullsOf q items
  rw [rest_one]
  match h : items.visible with
  | [] =>
    have hreach : reach 2 items = reach 1 items :=
      (reach_of_visible_nil h 1).trans (reach_of_visible_nil h 0).symm
    rw [nextRow_of_visible_nil h] at hlength ⊢
    rw [hlength, hreach]
    exact Nat.add_sub_cancel _ _
  | .error e :: rest =>
    have hreach : reach 2 items = reach 1 items := reach_of_visible_failure h 1
    rw [nextRow_of_visible_failure h] at hlength ⊢
    rw [hlength, hreach]
    exact Nat.add_sub_cancel _ _
  | .ok r :: rest =>
    have hreach : reach 2 items = reach 1 items + reach 1 (items.drop (reach 1 items)) :=
      reach_of_visible_row h 1
    have hbehind := length_pullsOf q (items.drop (reach 1 items))
    rw [nextRow_of_visible_row h] at hlength ⊢
    simp only at hlength ⊢
    omega

theorem all_pullsOf (s : Shape α) (q : Query) (items : Response) :
    (all s (Backend.pullsOf q items)).result = items.visible.map (s.deliver q) ∧
    (all s (Backend.pullsOf q items)).rest = [] := by
  induction items with
  | nil => exact ⟨rfl, rfl⟩
  | cons x items ih =>
    match x with
    | .ok (.row r) => exact ⟨congrArg (s.apply r :: ·) ih.1, ih.2⟩
    | .ok (.affected a) => exact ih
    | .error e => exact ⟨rfl, rfl⟩

theorem taken_all (q : Query) (items : Response) :
    (Backend.pullsOf q items).length = reach (items.visible.length + 1) items := by
  induction items with
  | nil => rfl
  | cons x items ih =>
    match x with
    | .ok (.row r) | .ok (.affected a) => exact congrArg (· + 1) ih
    | .error e => rfl

end Reading
end Quarry
