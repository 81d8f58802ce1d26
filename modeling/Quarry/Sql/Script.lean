import Quarry.Error
import Quarry.Sql.Token

/-!
# Scripts

A script is what has been written: tokens, and the failure that stopped the writing if
there was one. Scripts are written one after another; nothing follows a failure.
-/
namespace Quarry

structure Script where
  tokens : List Token
  failure : Option CompileError

namespace Script

def ofTokens (tokens : List Token) : Script := ⟨tokens, none⟩

def word (s : String) : Script := ofTokens [.word s]

def empty : Script := ofTokens []

def fail (e : CompileError) : Script := ⟨[], some e⟩

/-- Write `b` after `a`, unless `a` failed. -/
def append (a b : Script) : Script :=
  match a.failure with
  | none => ⟨a.tokens ++ b.tokens, b.failure⟩
  | some _ => a

instance : Append Script := ⟨append⟩

def parenthesizedIf (p : Bool) (s : Script) : Script :=
  if p then word "(" ++ s ++ word ")" else s

theorem append_def (a b : Script) : a ++ b = a.append b := rfl

theorem append_of_failure {a : Script} {e : CompileError} (h : a.failure = some e) (b : Script) :
    a ++ b = a := by
  simp [append_def, append, h]

@[simp]
theorem failure_append (a b : Script) : (a ++ b).failure = a.failure.or b.failure := by
  rw [append_def, append]
  cases h : a.failure <;> simp [h]

end Script
end Quarry
