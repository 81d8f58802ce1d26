import Mathlib.Order.Bounds.Basic
import Quarry.Client.Backend

/-!
# What is read of a response

A reader of rows sees the rows and the failures of a response and skips the counts, and
nothing is seen behind a failure (`visible`). Who asks for `n` of these items takes the
response up to and including the last of them, and no further (`readFor_reach`).
-/

namespace Quarry

namespace Response

/-- The rows and the failures in order, up to the first failure. -/
def visible : Response → List (Except Error Row)
  | [] => []
  | .ok (.row r) :: items => .ok r :: visible items
  | .ok (.affected _) :: items => visible items
  | .error e :: _ => [.error e]

def reach : Nat → Response → Nat
  | 0, _ => 0
  | _ + 1, [] => 0
  | n + 1, .ok (.row _) :: items => reach n items + 1
  | n + 1, .ok (.affected _) :: items => reach (n + 1) items + 1
  | _ + 1, .error _ :: _ => 1

@[simp]
theorem reach_zero (items : Response) : reach 0 items = 0 := by
  cases items <;> rfl

/-- The first `k` items are those up to and including the `n`-th visible one. When there are
fewer visible ones, they are those up to the failure, or all if there is no failure. -/
structure ReadFor (items : Response) (n k : Nat) : Prop where
  enough : n ≤ items.visible.length →
    IsLeast {j | n ≤ (visible (items.take j)).length} k
  failed : items.visible.length < n → (∃ e, .error e ∈ items) →
    IsLeast {j | ∃ e, .error e ∈ items.take j} k
  exhausted : items.visible.length < n → (∀ e, .error e ∉ items) → k = items.length

theorem visible_eq_nil_iff {items : Response} :
    items.visible = [] ↔ ∀ x ∈ items, ∃ a, x = .ok (.affected a) := by
  induction items with
  | nil => simp [visible]
  | cons x items ih =>
    match x with
    | .ok (.row r) => simp [visible]
    | .ok (.affected a) => simp [visible, ih]
    | .error e => simp [visible]

theorem le_visible_take_reach {items : Response} {n : Nat} (h : n ≤ items.visible.length) :
    n ≤ (visible (items.take (reach n items))).length := by
  induction items generalizing n with
  | nil => simpa using h
  | cons x items ih =>
    cases n with
    | zero => exact Nat.zero_le _
    | succ n =>
      match x with
      | .ok (.row r) => exact Nat.succ_le_succ (ih (Nat.le_of_succ_le_succ h))
      | .ok (.affected a) => exact ih (n := n + 1) h
      | .error e => exact h

theorem reach_le_of_le_visible_take {items : Response} {n j : Nat}
    (h : n ≤ (visible (items.take j)).length) : reach n items ≤ j := by
  induction items generalizing n j with
  | nil => cases n <;> exact Nat.zero_le _
  | cons x items ih =>
    cases n with
    | zero => exact Nat.zero_le _
    | succ n =>
      -- no item is visible among none, so at least the first one is taken
      cases j with
      | zero => exact absurd h (Nat.not_succ_le_zero n)
      | succ j =>
        match x with
        | .ok (.row r) => exact Nat.succ_le_succ (ih (Nat.le_of_succ_le_succ h))
        | .ok (.affected a) => exact Nat.succ_le_succ (ih (n := n + 1) h)
        | .error e => exact Nat.succ_le_succ (Nat.zero_le j)

theorem reach_eq_length {items : Response} {n : Nat} (hn : items.visible.length < n)
    (h : ∀ e, .error e ∉ items) : reach n items = items.length := by
  induction items generalizing n with
  | nil => cases n <;> rfl
  | cons x items ih =>
    have hrest : ∀ e, .error e ∉ items := fun e he => h e (List.mem_cons_of_mem x he)
    cases n with
    | zero => exact absurd hn (Nat.not_lt_zero _)
    | succ n =>
      match x with
      | .ok (.row r) => exact congrArg (· + 1) (ih (Nat.lt_of_succ_lt_succ hn) hrest)
      | .ok (.affected a) => exact congrArg (· + 1) (ih (n := n + 1) hn hrest)
      | .error e => exact absurd List.mem_cons_self (h e)

theorem isLeast_reach_of_failure {items : Response} {n : Nat} (hn : items.visible.length < n)
    (h : ∃ e, .error e ∈ items) : IsLeast {j | ∃ e, .error e ∈ items.take j} (reach n items) := by
  induction items generalizing n with
  | nil =>
    obtain ⟨e, he⟩ := h
    cases he
  | cons x items ih =>
    cases n with
    | zero => exact absurd hn (Nat.not_lt_zero _)
    | succ n =>
      -- behind a reply the failure stands one place further
      have hbehind : ∀ (y : Reply) k, IsLeast {j | ∃ e, .error e ∈ items.take j} k →
          IsLeast {j | ∃ e, .error e ∈ (.ok y :: items).take j} (k + 1) := by
        intro y k hk
        obtain ⟨⟨e, he⟩, hleast⟩ := hk
        refine ⟨⟨e, List.mem_cons_of_mem _ he⟩, ?_⟩
        rintro j ⟨e, he⟩
        cases j with
        | zero => cases he
        | succ j =>
          have he : .error e ∈ items.take j := by simpa using he
          exact Nat.succ_le_succ (hleast ⟨e, he⟩)
      match x with
      | .ok (.row r) =>
        have hrest : ∃ e, .error e ∈ items := by simpa using h
        exact hbehind _ _ (ih (Nat.lt_of_succ_lt_succ hn) hrest)
      | .ok (.affected a) =>
        have hrest : ∃ e, .error e ∈ items := by simpa using h
        exact hbehind _ _ (ih (n := n + 1) hn hrest)
      | .error e =>
        refine ⟨⟨e, List.mem_cons_self⟩, ?_⟩
        rintro j ⟨e', he'⟩
        cases j with
        | zero => cases he'
        | succ j => exact Nat.succ_le_succ (Nat.zero_le j)

theorem readFor_reach (items : Response) (n : Nat) : items.ReadFor n (reach n items) where
  enough h := ⟨le_visible_take_reach h, fun _ hj => reach_le_of_le_visible_take hj⟩
  failed hn h := isLeast_reach_of_failure hn h
  exhausted hn h := reach_eq_length hn h

theorem ReadFor.eq_reach {items : Response} {n k : Nat} (h : items.ReadFor n k) :
    k = reach n items := by
  have hreach := readFor_reach items n
  by_cases hn : n ≤ items.visible.length
  · exact (h.enough hn).unique (hreach.enough hn)
  · have hlt : items.visible.length < n := Nat.lt_of_not_le hn
    by_cases he : ∃ e, .error e ∈ items
    · exact (h.failed hlt he).unique (hreach.failed hlt he)
    · have hnone : ∀ e, .error e ∉ items := fun e hmem => he ⟨e, hmem⟩
      rw [h.exhausted hlt hnone, hreach.exhausted hlt hnone]

theorem reach_of_visible_nil {items : Response} (h : items.visible = []) (n : Nat) :
    reach (n + 1) items = items.length := by
  refine reach_eq_length (by rw [h]; exact Nat.succ_pos n) ?_
  intro e he
  obtain ⟨a, ha⟩ := visible_eq_nil_iff.1 h _ he
  cases ha

theorem reach_of_visible_failure {items : Response} {e : Error} {rest : List (Except Error Row)}
    (h : items.visible = .error e :: rest) (n : Nat) : reach (n + 1) items = reach 1 items := by
  induction items with
  | nil => rfl
  | cons x items ih =>
    match x with
    | .ok (.row r) => cases h
    | .ok (.affected a) => exact congrArg (· + 1) (ih h)
    | .error e => rfl

theorem reach_of_visible_row {items : Response} {r : Row} {rest : List (Except Error Row)}
    (h : items.visible = .ok r :: rest) (n : Nat) :
    reach (n + 1) items = reach 1 items + reach n (items.drop (reach 1 items)) := by
  induction items with
  | nil => cases h
  | cons x items ih =>
    match x with
    | .ok (.row r) => simp [reach, Nat.add_comm]
    | .ok (.affected a) =>
      have hr : reach (n + 1) items = reach 1 items + reach n (items.drop (reach 1 items)) := ih h
      change reach (n + 1) items + 1 = reach 1 items + 1 + reach n (items.drop (reach 1 items))
      omega
    | .error e => cases h

theorem visible_drop_reach {items : Response} {r : Row} {rest : List (Except Error Row)}
    (h : items.visible = .ok r :: rest) : visible (items.drop (reach 1 items)) = rest := by
  induction items with
  | nil => cases h
  | cons x items ih =>
    match x with
    | .ok (.row r) => simpa [reach] using (List.cons.inj h).2
    | .ok (.affected a) => exact ih h
    | .error e => cases h

end Response
end Quarry
