import Quarry.Sql.Dialect
import Quarry.Value.Basic

/-!
# Tokens

A statement is written as tokens: words as they are, names to be quoted, parameters
to be bound, and places where a value is left out. Only a parameter carries a value,
and its text is the mark of its number; so the text never depends on the values, and
the values stand in the order of their marks.
-/
namespace Quarry

inductive Token where
  /-- Keywords and punctuation with their spaces. -/
  | word (text : String)
  | name (name : String)
  | parameter (value : Value)
  | missing

def escape (search : Char) (replacement value : List Char) : List Char :=
  value.flatMap fun c => if c = search then replacement else [c]

namespace Dialect

/-- A name between its delimiters, the closing one doubled. -/
def quote (d : Dialect) (name : String) : String :=
  String.ofList (d.opening :: escape d.closing [d.closing, d.closing] name.toList ++ [d.closing])

end Dialect

namespace Token

def parameters : List Token → List Value
  | [] => []
  | parameter v :: ts => v :: parameters ts
  | word _ :: ts | name _ :: ts | missing :: ts => parameters ts

def render (d : Dialect) (bound : Nat) : List Token → String
  | [] => ""
  | word s :: ts => s ++ render d bound ts
  | name n :: ts => d.quote n ++ render d bound ts
  | parameter _ :: ts => d.markerText (bound + 1) ++ render d (bound + 1) ts
  | missing :: ts => d.nullWord ++ render d bound ts

@[simp] theorem parameters_nil : parameters [] = [] := rfl

@[simp]
theorem parameters_append (as bs : List Token) :
    parameters (as ++ bs) = parameters as ++ parameters bs := by
  induction as with
  | nil => rfl
  | cons a as ih => cases a <;> simp [parameters, ih]

theorem render_append (d : Dialect) (n : Nat) (as bs : List Token) :
    render d n (as ++ bs) = render d n as ++ render d (n + (parameters as).length) bs := by
  induction as generalizing n with
  | nil => simp [render]
  | cons a as ih =>
    cases a with
    | parameter v =>
      have h : n + ((parameters as).length + 1) = n + 1 + (parameters as).length := by omega
      simp [render, parameters, ih, h, String.append_assoc]
    | word s | name s | missing => simp [render, parameters, ih, String.append_assoc]

end Token
end Quarry
