import Quarry.Sql.Criteria
import Quarry.Statement.Basic

/-!
# Writing statements

Each statement is written clause by clause. Assignments are bound before the criteria,
as they stand in the text.
-/
namespace Quarry

open Text (separated)

def commaSeparated (parts : List (List Token)) : List Token := separated [.word ", "] parts

def TableName.tokens (t : TableName) : List Token :=
  if t.schema.isEmpty then [.name t.name] else [.name t.schema, .word ".", .name t.name]

def Projection.tokens (p : Projection) : List Token :=
  if p.isAll then [.word "*"] else commaSeparated (p.columns.map fun c => [.name c])

def Direction.word : Direction → String
  | ascending => " ASC"
  | descending => " DESC"

def SortOrder.tokens (s : SortOrder) : List Token :=
  if s.isUnsorted then []
  else .word "\nORDER BY " ::
    commaSeparated (s.keys.map fun k => [.name k.column, .word k.direction.word])

def Dialect.filterScript (d : Dialect) : Option Criteria → Script
  | none => .empty
  | some c => .word "\nWHERE " ++ d.criteriaScript c

/-- The value of an assignment: NULL is left out unless the dialect binds it. -/
def Dialect.assignedToken (d : Dialect) (v : Value) : Token :=
  if v.isNull && !d.bindsNull then .missing else .parameter v

def Dialect.pagingTokens (d : Dialect) (limit offset : Nat) : List Token :=
  [.word (d.paging.text limit offset)]

/-- The clause that cuts out a page, behind an order for dialects that need one. -/
def Dialect.pageTokens (d : Dialect) (s : SortOrder) : Option Page → List Token
  | none => []
  | some p =>
    (if s.isUnsorted && d.pagesNeedOrder then [.word "\nORDER BY (SELECT NULL)"] else []) ++
      d.pagingTokens p.limit p.offset

namespace Dialect

def selectScript (d : Dialect) (s : SelectStatement) : Script :=
  .ofTokens ([.word "SELECT "] ++ s.projection.tokens ++ [.word "\nFROM "] ++
      s.target.table.tokens) ++
    d.filterScript s.criteria ++
    .ofTokens (s.sort.tokens ++ d.pageTokens s.sort s.page)

def returningTokens (p : Projection) : List Token :=
  if p.isAll then [] else .word "\nRETURNING " :: p.tokens

def insertScript (d : Dialect) (s : InsertStatement) : Script :=
  if !s.returning.isAll && !d.returnsValues then .fail .returningUnsupported
  else
    let entries := s.assignments.entries
    .ofTokens ([.word "INSERT INTO "] ++ s.target.table.tokens ++ [.word " ("] ++
      commaSeparated (entries.map fun e => [.name e.1]) ++ [.word ") VALUES\n("] ++
      commaSeparated (entries.map fun e => [d.assignedToken e.2]) ++ [.word ")"] ++
      returningTokens s.returning)

def updateScript (d : Dialect) (s : UpdateStatement) : Script :=
  .ofTokens ([.word "UPDATE "] ++ s.target.table.tokens ++ [.word "\nSET "] ++
      commaSeparated (s.assignments.entries.map fun e =>
        [.name e.1, .word " = ", d.assignedToken e.2])) ++
    d.filterScript s.filter

def deleteScript (d : Dialect) (s : DeleteStatement) : Script :=
  .ofTokens ([.word "DELETE FROM "] ++ s.target.table.tokens) ++ d.filterScript s.criteria

def script (d : Dialect) : Statement → Script
  | .select s => d.selectScript s
  | .insert s => d.insertScript s
  | .update s => d.updateScript s
  | .delete s => d.deleteScript s

end Dialect
end Quarry
