import Quarry.Operator
import Quarry.Url.Basic
import Quarry.Value.Conversion

/-!
# Errors

An error is a chain of layers, the outermost first: each layer says what was going on
when the layer below arose. Some layers classify the error; its kind is the outermost
of these. A computation that stops without an answer leaves no chain at all.
-/
namespace Quarry

inductive BuildError where
  | tableMissing
  | nothingToInsert
  | nothingToUpdate
  | sourcesMixed
  | columnAssignedTwice (column : String)
  | columnProjectedTwice (column : String)
  | columnSortedTwice (column : String)
  | pageSizeZero
  | pageOffsetOutOfRange (number size : Nat)
  | pageNumberOutOfRange
  | keyMissing (typeName : String)
  | arityMismatch (operator : Operator) (column : String) (expected found : Nat)
  | other (message : String)
  deriving DecidableEq

def BuildError.message : BuildError → String
  | tableMissing => "The target table is missing"
  | nothingToInsert => "INSERT requires at least one column value"
  | nothingToUpdate => "UPDATE requires at least one column value"
  | sourcesMixed => "Values derived from an object cannot be combined with explicit column values"
  | columnAssignedTwice c => "Column \x60" ++ c ++ "\x60 is assigned more than once"
  | columnProjectedTwice c => "Column \x60" ++ c ++ "\x60 appears more than once in the projection"
  | columnSortedTwice c =>
    "Column \x60" ++ c ++ "\x60 appears more than once in the sort specification"
  | pageSizeZero => "The page size must be positive"
  | pageOffsetOutOfRange n s =>
    "Page " ++ toString n ++ " of size " ++ toString s ++ " has an offset out of range"
  | pageNumberOutOfRange => "Page number out of range"
  | keyMissing t => "Cannot update by object, " ++ t ++ " has no primary key value"
  | arityMismatch o c n k =>
    "Operator " ++ o.name ++ " on column \x60" ++ c ++ "\x60 expects " ++ toString n ++
      " operand" ++ (if n = 1 then "" else "s") ++ ", got " ++ toString k
  | other m => m

inductive CompileError where
  | operatorUnsupported (operator : Operator) (column : String)
  | returningUnsupported
  | invalidUrl (text : String) (reason : UrlError)
  | dialectUnknown (text : String)
  | other (message : String)
  deriving DecidableEq

def CompileError.message : CompileError → String
  | operatorUnsupported o c =>
    "Operator " ++ o.name ++ " (column \x60" ++ c ++ "\x60) is not supported"
  | returningUnsupported => "Returning generated values is not supported"
  | invalidUrl s e => "Invalid connection url \x60" ++ s ++ "\x60: " ++ e.message
  | dialectUnknown s => "No dialect is known for \x60" ++ s ++ "\x60"
  | other m => m

inductive ErrorKind where
  | build (cause : BuildError)
  | compile (dialect : String) (cause : CompileError)
  | resultSize (expected : Nat)
  | mapping
  | execution
  deriving DecidableEq

def ErrorKind.message : ErrorKind → String
  | build e => "Invalid statement: " ++ e.message
  | compile d e => "Cannot compile the statement for " ++ d ++ ": " ++ e.message
  | resultSize n =>
    "Incorrect result size: expected at most " ++ toString n ++ " row, got more"
  | mapping => "Could not map the row"
  | execution => "The driver reported an error"

inductive Layer where
  | kind (k : ErrorKind)
  | conversion (cause : ConversionError)
  | malformation (cause : Uuid.Malformation)
  | columnNotInRow (name : String) (available : List String)
  | columnNotPresent (name : String)
  | readingColumn (name : String)
  | runningQuery (query : String)
  | text (message : String)

namespace Layer

def message : Layer → String
  | kind k => k.message
  | conversion e => e.message
  | malformation m => m.message
  | columnNotInRow n available =>
    "Column \x60" ++ n ++ "\x60 is not present in the row, available columns: " ++
      ", ".intercalate available
  | columnNotPresent n => "Column \x60" ++ n ++ "\x60 is not present"
  | readingColumn n => "While reading the column \x60" ++ n ++ "\x60"
  | runningQuery q => "While executing the query:\n" ++ q
  | text m => m

def kind? : Layer → Option ErrorKind
  | kind k => some k
  | _ => none

/-- Whether the layer only tells details of the layer around it. -/
def isDetail : Layer → Bool
  | malformation _ => true
  | _ => false

end Layer

inductive Error where
  | chain (contexts : List Layer) (root : Layer)
  | aborted

namespace Error

def of (root : Layer) : Error := chain [] root

def ofKind (k : ErrorKind) : Error := of (.kind k)

def ofText (message : String) : Error := of (.text message)

def ofBuild (e : BuildError) : Error := ofKind (.build e)

/-- A conversion without an answer aborts. A cause that has a cause of its own is a layer around
it. -/
def ofConversion : ConversionError → Error
  | .outsideCalendar _ => aborted
  | e@(.malformedUuid _ m) => chain [.conversion e] (.malformation m)
  | e@(.fractionalPart d t) => chain [.conversion e] (.conversion (.decimalMisfit d t))
  | e => of (.conversion e)

def within (l : Layer) : Error → Error
  | chain contexts root => chain (l :: contexts) root
  | aborted => aborted

def layers : Error → List Layer
  | chain contexts root => contexts ++ [root]
  | aborted => []

def kind? (e : Error) : Option ErrorKind := e.layers.findSome? Layer.kind?

def message (e : Error) : String := ": ".intercalate (e.layers.map Layer.message)

/-- The message without details. -/
def brief (e : Error) : String :=
  ": ".intercalate ((e.layers.filter (!·.isDetail)).map Layer.message)

end Error
end Quarry
