import Quarry.Error
import Quarry.Sql.Dialect
import Quarry.Text.Ascii
import Quarry.Text.Blank

/-!
# Finding a dialect

A dialect is found by the name of a database or by the scheme of a connection url, of
which a transport behind a plus sign does not count. Case does not matter.
-/
namespace Quarry

def Dialect.ofName? (name : String) : Option Dialect :=
  if name ∈ ["postgres", "postgresql"] then some postgres
  else if name ∈ ["mysql", "mariadb"] then some mysql
  else if name ∈ ["sqlserver", "mssql"] then some sqlserver
  else if name ∈ ["generic", "h2", "sqlite"] then some generic
  else none

def containsChars (part : List Char) : List Char → Bool
  | [] => part.isEmpty
  | c :: cs => part.isPrefixOf (c :: cs) || containsChars part cs

def isUrlLike (s : String) : Bool := containsChars "://".toList s.toList

def beforePlus (scheme : String) : String :=
  String.ofList (scheme.toList.takeWhile (· ≠ '+'))

section

variable (scheme : String → Except UrlError String)

/-- The name that decides: the scheme of a url up to a plus sign, or the text without blanks
around it. -/
def deciderBy (s : String) : Except UrlError String :=
  if isUrlLike s then (scheme s).map beforePlus else .ok (Text.trim s)

def Dialect.resolveBy (s : String) : Except CompileError Dialect :=
  match deciderBy scheme s with
  | .error e => .error (.invalidUrl s e)
  | .ok name =>
    match ofName? (Text.asciiLower name) with
    | some d => .ok d
    | none => .error (.dialectUnknown s)

end

def Dialect.resolve : String → Except CompileError Dialect := resolveBy Url.scheme

def unknownDialectName : String := "unknown"

def resolveError (e : CompileError) : Error := .ofKind (.compile unknownDialectName e)

end Quarry
