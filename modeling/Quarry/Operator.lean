/-!
# Comparison operators

The operators of a comparison, how many operands each takes, and the words by which
messages name them.
-/
namespace Quarry

inductive Operator where
  | equal
  | notEqual
  | greater
  | greaterEqual
  | less
  | lessEqual
  | like
  | notLike
  /-- Pattern matching that ignores case; only some dialects have it. -/
  | ilike
  | isIn
  | notIn
  | isNull
  | isNotNull
  deriving DecidableEq

inductive Arity where
  | exactly (n : Nat)
  | any
  deriving DecidableEq

namespace Arity

def Admits : Arity → Nat → Prop
  | exactly n, k => k = n
  | any, _ => True

instance (a : Arity) (k : Nat) : Decidable (a.Admits k) := by
  cases a <;> unfold Admits <;> infer_instance

end Arity

namespace Operator

def all : List Operator :=
  [equal, notEqual, greater, greaterEqual, less, lessEqual, like, notLike, ilike, isIn, notIn,
    isNull, isNotNull]

def arity : Operator → Arity
  | isNull | isNotNull => .exactly 0
  | isIn | notIn => .any
  | _ => .exactly 1

def name : Operator → String
  | equal => "EQ"
  | notEqual => "NEQ"
  | greater => "GT"
  | greaterEqual => "GTE"
  | less => "LT"
  | lessEqual => "LTE"
  | like => "LIKE"
  | notLike => "NOT_LIKE"
  | ilike => "ILIKE"
  | isIn => "IN"
  | notIn => "NOT_IN"
  | isNull => "IS_NULL"
  | isNotNull => "IS_NOT_NULL"

end Operator

inductive Combinator where
  | and
  | or
  deriving DecidableEq

def Combinator.name : Combinator → String
  | and => "AND"
  | or => "OR"

end Quarry
