import Quarry.Criteria
import Quarry.Number.Integer
import Quarry.Sql.Script
import Quarry.Text.Separated

/-!
# Writing criteria

A combination is written between its two sides. A side is put in parentheses only
where it would be read otherwise: the left side when it binds less tightly than the
combination, the right side also when it binds as tightly, since combinations of equal
precedence are read from left to right. A leaf binds more tightly than anything.
-/
namespace Quarry

open Text (separated)

/-- Precedences are integers of 32 bits, and a leaf has the greatest of them. -/
def leafPrecedence : Int := IntegerType.int32.greatest

def Operator.symbol : Operator → String
  | equal => "="
  | notEqual => "!="
  | greater => ">"
  | greaterEqual => ">="
  | less => "<"
  | lessEqual => "<="
  | like => "LIKE"
  | notLike => "NOT LIKE"
  | ilike => "ILIKE"
  | isIn => "IN"
  | notIn => "NOT IN"
  | isNull => "IS NULL"
  | isNotNull => "IS NOT NULL"

def parameterList (values : List Value) : List Token :=
  separated [.word ", "] (values.map fun v => [.parameter v])

/-- The comparison without its negation. An empty list of alternatives has no SQL form and
becomes the constant that it means. -/
def Comparison.plainTokens (c : Comparison) : List Token :=
  match c.operator, c.operands with
  | .isIn, [] => [.word "1=0"]
  | .notIn, [] => [.word "1=1"]
  | operator, operands =>
    [.name c.column, .word " ", .word operator.symbol] ++
      match operator.arity with
      | .exactly 0 => []
      | .exactly _ => .word " " :: parameterList operands
      | .any => .word " (" :: parameterList operands ++ [.word ")"]

def Comparison.tokens (c : Comparison) : List Token :=
  if c.negated then .word "NOT (" :: c.plainTokens ++ [.word ")"] else c.plainTokens

namespace Dialect

def comparisonScript (d : Dialect) (c : Comparison) : Script :=
  if d.supports c.operator then .ofTokens c.tokens
  else .fail (.operatorUnsupported c.operator c.column)

def strength (d : Dialect) : Criteria → Int
  | .leaf _ => leafPrecedence
  | .combine _ o _ => d.precedence o

def criteriaScript (d : Dialect) : Criteria → Script
  | .leaf c => d.comparisonScript c
  | .combine lhs o rhs =>
    .parenthesizedIf (d.strength lhs < d.precedence o) (d.criteriaScript lhs) ++
      .word (" " ++ o.name ++ " ") ++
      .parenthesizedIf (d.strength rhs ≤ d.precedence o) (d.criteriaScript rhs)

end Dialect
end Quarry
