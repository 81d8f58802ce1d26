import Quarry.Error

/-!
# Criteria

The predicate of a statement is a tree: comparisons at the leaves, joined two by two.
A tree that is extended becomes the left side of a new one, so the nesting is the
order of construction.
-/
namespace Quarry

structure Comparison where
  column : String
  operator : Operator
  operands : List Value
  negated : Bool

namespace Comparison

def WellFormed (c : Comparison) : Prop := c.operator.arity.Admits c.operands.length

def equals (a b : Comparison) : Bool :=
  a.column == b.column && a.operator == b.operator && Value.allEqual a.operands b.operands &&
    a.negated == b.negated

end Comparison

inductive Criteria where
  | leaf (c : Comparison)
  | combine (lhs : Criteria) (combinator : Combinator) (rhs : Criteria)

/-- A leaf that lacks its operator and operands, and the tree that it will be joined to, if there
is one. -/
structure PendingLeaf where
  previous : Option (Criteria × Combinator)
  column : String
  negated : Bool

namespace PendingLeaf

def not (p : PendingLeaf) : PendingLeaf := { p with negated := !p.negated }

def finish (p : PendingLeaf) (operator : Operator) (operands : List Value) : Criteria :=
  let leaf := .leaf ⟨p.column, operator, operands, p.negated⟩
  match p.previous with
  | some (previous, combinator) => .combine previous combinator leaf
  | none => leaf

def compare (p : PendingLeaf) (operator : Operator) (value : Value) : Criteria :=
  p.finish operator [value]

def oneOf (p : PendingLeaf) (values : List Value) : Criteria := p.finish .isIn values

def noneOf (p : PendingLeaf) (values : List Value) : Criteria := p.finish .notIn values

def isNull (p : PendingLeaf) : Criteria := p.finish .isNull []

def isNotNull (p : PendingLeaf) : Criteria := p.finish .isNotNull []

end PendingLeaf

namespace Criteria

def column (column : String) : PendingLeaf := ⟨none, column, false⟩

def joining (c : Criteria) (combinator : Combinator) (column : String) : PendingLeaf :=
  ⟨some (c, combinator), column, false⟩

/-- A leaf whose operands are counted. -/
def comparison (column : String) (operator : Operator) (operands : List Value) :
    Except BuildError Criteria :=
  match operator.arity with
  | .exactly n =>
    if operands.length = n then .ok (.leaf ⟨column, operator, operands, false⟩)
    else .error (.arityMismatch operator column n operands.length)
  | .any => .ok (.leaf ⟨column, operator, operands, false⟩)

def and (lhs rhs : Criteria) : Criteria := .combine lhs .and rhs

def or (lhs rhs : Criteria) : Criteria := .combine lhs .or rhs

def leaves : Criteria → List Comparison
  | leaf c => [c]
  | combine lhs _ rhs => lhs.leaves ++ rhs.leaves

def literals (c : Criteria) : List Value := c.leaves.flatMap Comparison.operands

def literalCount (c : Criteria) : Nat := c.literals.length

def isLeaf : Criteria → Bool
  | leaf _ => true
  | combine _ _ _ => false

def WellFormed (c : Criteria) : Prop := ∀ l ∈ c.leaves, l.WellFormed

/-- Equality of trees up to equality of values. -/
def equals : Criteria → Criteria → Bool
  | leaf a, leaf b => a.equals b
  | combine l o r, combine l' o' r' => l.equals l' && o == o' && r.equals r'
  | _, _ => false

@[simp] theorem leaves_leaf (c : Comparison) : (leaf c).leaves = [c] := rfl

@[simp] theorem leaves_combine (l r : Criteria) (o : Combinator) :
    (combine l o r).leaves = l.leaves ++ r.leaves := rfl

@[simp] theorem literals_leaf (c : Comparison) : (leaf c).literals = c.operands := by
  simp [literals]

@[simp] theorem literals_combine (l r : Criteria) (o : Combinator) :
    (combine l o r).literals = l.literals ++ r.literals := by
  simp [literals]

theorem wellFormed_leaf_iff {c : Comparison} : (leaf c).WellFormed ↔ c.WellFormed :=
  List.forall_mem_singleton

theorem wellFormed_combine_iff {l r : Criteria} {o : Combinator} :
    (combine l o r).WellFormed ↔ l.WellFormed ∧ r.WellFormed :=
  List.forall_mem_append

end Criteria
end Quarry
