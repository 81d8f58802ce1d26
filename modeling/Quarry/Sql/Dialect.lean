import Quarry.Operator

/-!
# Dialects

A dialect says how names are quoted, how parameters are marked, what it can express,
how tightly its combinators bind and how it cuts out a page of rows.
-/
namespace Quarry

inductive MarkerStyle where
  /-- The same mark for every parameter. -/
  | uniform (mark : String)
  /-- The number of the parameter, from 1, behind a sign. -/
  | numbered (sign : String)
  deriving DecidableEq

def MarkerStyle.text (ordinal : Nat) : MarkerStyle → String
  | uniform mark => mark
  | numbered sign => sign ++ toString ordinal

inductive PagingStyle where
  /-- The offset behind the limit, left out when it is 0. -/
  | limitOffset
  /-- The offset before the limit, left out when it is 0. -/
  | limitPair
  /-- Offset and limit in words. -/
  | fetchNext
  deriving DecidableEq

def PagingStyle.text (limit offset : Nat) : PagingStyle → String
  | limitOffset =>
    "\nLIMIT " ++ toString limit ++ (if offset = 0 then "" else " OFFSET " ++ toString offset)
  | limitPair =>
    "\nLIMIT " ++ (if offset = 0 then "" else toString offset ++ ", ") ++ toString limit
  | fetchNext =>
    "\nOFFSET " ++ toString offset ++ " ROWS FETCH NEXT " ++ toString limit ++ " ROWS ONLY"

structure Dialect where
  name : String
  /-- Opens a quoted name. -/
  opening : Char
  /-- Closes a quoted name, and is doubled inside of it. -/
  closing : Char
  marker : MarkerStyle
  /-- Stands for NULL in assignments that are not bound. -/
  nullWord : String
  /-- Whether NULL is bound in assignments like any other value. -/
  bindsNull : Bool
  returnsValues : Bool
  /-- Whether a page can only be cut out of ordered rows. -/
  pagesNeedOrder : Bool
  unsupported : List Operator
  andPrecedence : Int
  orPrecedence : Int
  paging : PagingStyle
  deriving DecidableEq

namespace Dialect

def supports (d : Dialect) (o : Operator) : Bool := !d.unsupported.contains o

def precedence (d : Dialect) : Combinator → Int
  | .and => d.andPrecedence
  | .or => d.orPrecedence

def markerText (d : Dialect) (ordinal : Nat) : String := d.marker.text ordinal

def generic : Dialect where
  name := "generic"
  opening := '"'
  closing := '"'
  marker := .uniform "?"
  nullWord := "NULL"
  bindsNull := false
  returnsValues := false
  pagesNeedOrder := false
  unsupported := [.ilike]
  andPrecedence := 200
  orPrecedence := 100
  paging := .limitOffset

def postgres : Dialect :=
  { generic with
    name := "postgres"
    marker := .numbered "$"
    bindsNull := true
    returnsValues := true
    unsupported := [] }

def mysql : Dialect :=
  { generic with
    name := "mysql"
    opening := '\x60'
    closing := '\x60'
    paging := .limitPair }

def sqlserver : Dialect :=
  { generic with
    name := "sqlserver"
    opening := '['
    closing := ']'
    marker := .numbered "@P"
    pagesNeedOrder := true
    paging := .fetchNext }

end Dialect
end Quarry
