import Quarry.Proofs.Sql.Predicate

/-!
# What a predicate says of a row

A predicate is true, false or unknown of a row. What its conditions say of the row is left
open: it is given by a function `holds`, and statements about all such functions are
statements about all rows.
-/

namespace Quarry

/-- Nothing is known when this is `none`. -/
abbrev Truth := Option Bool

namespace Truth

def not : Truth → Truth := Option.map Bool.not

def and : Truth → Truth → Truth
  | some true, b => b
  | some false, _ => some false
  | none, some false => some false
  | none, _ => none

def or : Truth → Truth → Truth
  | some false, b => b
  | some true, _ => some true
  | none, some true => some true
  | none, _ => none

theorem and_eq_true_iff (a b : Truth) : a.and b = some true ↔ a = some true ∧ b = some true := by
  cases a with
  | none => rcases b with _ | _ | _ <;> simp [and]
  | some a => cases a <;> simp [and]

end Truth

def Combinator.truth : Combinator → Truth → Truth → Truth
  | and => Truth.and
  | or => Truth.or

namespace Predicate

variable {α : Type}

def truth (holds : Condition α → Truth) : Predicate α → Truth
  | leaf negated c => if negated then (holds c).not else holds c
  | combine l o r => o.truth (l.truth holds) (r.truth holds)

theorem truth_and_iff (holds : Condition α → Truth) (p q : Predicate α) :
    (combine p .and q).truth holds = some true ↔
      p.truth holds = some true ∧ q.truth holds = some true :=
  Truth.and_eq_true_iff _ _

end Predicate
end Quarry
