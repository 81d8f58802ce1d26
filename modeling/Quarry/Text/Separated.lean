/-!
# Separated lists

The parts of a list are written one after another, and a separator behind each part
that wrote something and has a successor.
-/
namespace Quarry.Text

/-- Join `parts`, with `separator` behind each part that is not empty and not the last. -/
def separated {α : Type} (separator : List α) : List (List α) → List α
  | [] => []
  | [part] => part
  | part :: next :: parts =>
    part ++ (if part.isEmpty then [] else separator) ++ separated separator (next :: parts)

@[simp] theorem separated_nil {α : Type} (s : List α) : separated s [] = [] := rfl

@[simp] theorem separated_singleton {α : Type} (s p : List α) : separated s [p] = p := rfl

/-- Between parts that all write something there is a separator each time. -/
theorem separated_eq_intercalate {α : Type} {s : List α} {parts : List (List α)}
    (h : ∀ p ∈ parts, p ≠ []) : separated s parts = s.intercalate parts := by
  induction parts with
  | nil => rfl
  | cons p parts ih =>
    cases parts with
    | nil => simp [List.intercalate]
    | cons q parts =>
      have hp : p ≠ [] := h p (by simp)
      have hq : separated s (q :: parts) = s.intercalate (q :: parts) :=
        ih fun r hr => h r (List.mem_cons_of_mem _ hr)
      simp [separated, hq, hp, List.intercalate]

def joinSeparated (start : String) (separator : String) (parts : List String) : String :=
  start ++ String.ofList (separated separator.toList (parts.map String.toList))

end Quarry.Text
