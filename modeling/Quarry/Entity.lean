import Quarry.Row
import Quarry.Statement.Target

/-!
# Entities

An entity ties a type to a table: its schema, how a row becomes an instance, and which
fields of an instance are set.
-/
namespace Quarry

structure Entity (α : Type) where
  schema : Schema
  ofRow : Row → Except Error α
  /-- The fields that are set, with the names of their columns. -/
  fields : α → List (String × Value)

namespace Entity

variable {α : Type}

def record (e : Entity α) (a : α) : Record := ⟨e.schema, e.fields a⟩

def key (e : Entity α) (a : α) : List (String × Value) := (e.record a).key

def target (e : Entity α) : Target := .mapped e.schema

end Entity

structure TypedColumn where
  column : Column
  type : FieldType

/-- Read the columns of a row in order, each as its type, and write them back as values. -/
def readColumns (r : Row) : List TypedColumn → Except Error (List (String × Value))
  | [] => .ok []
  | c :: cs => do
    let x ← r.getAs c.type c.column.name
    let rest ← readColumns r cs
    .ok ((c.column.name, c.type.toValue x) :: rest)

def Entity.ofColumns (table : TableName) (typeName : String) (columns : List TypedColumn) :
    Entity (List (String × Value)) where
  schema := ⟨table, columns.map TypedColumn.column, typeName⟩
  ofRow r := readColumns r columns
  fields := id

end Quarry
