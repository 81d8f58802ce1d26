import Quarry.Text.Blank
import Quarry.Error

/-!
# Tables and schemas

A statement works on a table that is named directly or that a schema maps. A schema
declares the columns of a table and which of them form the key. A record is what a
statement knows of an instance: its schema and the fields that are set.
-/
namespace Quarry

/-- A table name; the empty schema name stands for none. -/
structure TableName where
  schema : String
  name : String
  deriving DecidableEq

namespace TableName

def unqualified (name : String) : TableName := ⟨"", name⟩

def fullName (t : TableName) : String :=
  if t.schema.isEmpty then t.name else t.schema ++ "." ++ t.name

end TableName

inductive KeyRole where
  | none
  | whole
  | part
  deriving DecidableEq

structure Column where
  name : String
  field : String
  role : KeyRole
  deriving DecidableEq

def Column.isKey (c : Column) : Bool := c.role != .none

structure Schema where
  table : TableName
  columns : List Column
  /-- The name of the mapped type in messages. -/
  typeName : String
  deriving DecidableEq

namespace Schema

def columnNames (s : Schema) : List String := s.columns.map Column.name

def keyColumns (s : Schema) : List Column := s.columns.filter Column.isKey

def isKeyName (s : Schema) (name : String) : Bool := s.keyColumns.any (·.name == name)

end Schema

structure Record where
  schema : Schema
  fields : List (String × Value)

namespace Record

def key (r : Record) : List (String × Value) := r.fields.filter fun f => r.schema.isKeyName f.1

def nonKey (r : Record) : List (String × Value) :=
  r.fields.filter fun f => !r.schema.isKeyName f.1

end Record

inductive Target where
  | named (table : TableName)
  | mapped (schema : Schema)
  deriving DecidableEq

namespace Target

def table : Target → TableName
  | named t => t
  | mapped s => s.table

def isMapped : Target → Bool
  | named _ => false
  | mapped _ => true

def mappedColumns : Target → List String
  | named _ => []
  | mapped s => s.columnNames

/-- The table must have a name that is not blank. -/
def validate (t : Target) : Except BuildError Unit :=
  if Text.isAllBlank t.table.name then .error .tableMissing else .ok ()

end Target
end Quarry
