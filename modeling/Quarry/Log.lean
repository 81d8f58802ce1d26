import Quarry.Error

/-!
# Log records
-/
namespace Quarry

inductive LogLevel where
  | debug
  | error
  deriving DecidableEq

def LogLevel.name : LogLevel → String
  | debug => "DEBUG"
  | error => "ERROR"

structure LogRecord where
  level : LogLevel
  text : String
  deriving DecidableEq

/-- The records of an error that is reported; an abort reports nothing. -/
def Error.report : Error → List LogRecord
  | .aborted => []
  | e => [⟨.error, e.message⟩]

end Quarry
