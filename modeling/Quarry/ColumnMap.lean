import Quarry.Row
import Quarry.Text.Casing

/-!
# Column maps

A column map keeps the columns of a row in order with their names as they are. A column
is found by its exact name first, then by its folded name: an index holds for each
folded name the position of the first column that has it.
-/
namespace Quarry

structure ColumnMap where
  entries : List (String × Value)
  /-- Positions by folded name, each folded name once. -/
  index : List (String × Nat)

namespace ColumnMap

def empty : ColumnMap := ⟨[], []⟩

def replace (column : String) (v : Value) : List (String × Value) → List (String × Value)
  | [] => []
  | e :: es => if e.1 = column then (column, v) :: es else e :: replace column v es

/-- Put a value under a name. A column of exactly that name keeps its place and yields its
former value. -/
def insert (m : ColumnMap) (column : String) (v : Value) : Option Value × ColumnMap :=
  match m.entries.lookup column with
  | some former => (some former, { m with entries := replace column v m.entries })
  | none =>
    let folded := Text.fold column
    (none,
      { entries := m.entries ++ [(column, v)]
        index :=
          if (m.index.lookup folded).isSome then m.index
          else m.index ++ [(folded, m.entries.length)] })

def ofList (columns : List (String × Value)) : ColumnMap :=
  columns.foldl (fun m c => (m.insert c.1 c.2).2) empty

/-- The columns of a row; a label without a value gets NULL. -/
def ofRow (r : Row) : ColumnMap :=
  ofList (r.labels.zipIdx.map fun (name, i) => (name, r.values[i]?.getD .null))

def position? (m : ColumnMap) (column : String) : Option Nat :=
  (m.entries.findIdx? (·.1 == column)).or (m.index.lookup (Text.fold column))

def get? (m : ColumnMap) (column : String) : Option Value :=
  ((m.position? column).bind (m.entries[·]?)).map Prod.snd

def contains (m : ColumnMap) (column : String) : Bool := (m.position? column).isSome

def getAs (m : ColumnMap) (t : FieldType) (column : String) : Except Error t.Carrier :=
  match m.get? column with
  | none => .error (.of (.columnNotPresent column))
  | some v => (t.ofValue v).mapError fun e => (Error.ofConversion e).within (.readingColumn column)

def columns (m : ColumnMap) : List String := m.entries.map Prod.fst

def size (m : ColumnMap) : Nat := m.entries.length

def metadata (m : ColumnMap) : List ColumnInfo :=
  m.entries.zipIdx.map fun ((name, v), i) => ⟨name, i, v.typeName⟩

def sameEntries : List (String × Value) → List (String × Value) → Bool
  | [], [] => true
  | a :: as, b :: bs => a.1 == b.1 && a.2.equals b.2 && sameEntries as bs
  | _, _ => false

/-- Whether two indices answer alike. -/
def sameIndex (a b : List (String × Nat)) : Bool :=
  a.length == b.length && a.all fun e => b.lookup e.1 == some e.2

def equals (a b : ColumnMap) : Bool := sameEntries a.entries b.entries && sameIndex a.index b.index

def text (m : ColumnMap) : String :=
  "\x7b" ++ ", ".intercalate (m.entries.map fun e => e.1 ++ ": " ++ e.2.plainText) ++ "\x7d"

end ColumnMap
end Quarry
