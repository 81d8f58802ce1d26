import Quarry.Error

/-!
# Projections

A projection is a list of columns; the empty one stands for all of them. Projections
made by `ofColumns` name every column once; the columns of a mapped table are taken
as they are declared.
-/
namespace Quarry

structure Projection where
  columns : List String
  deriving DecidableEq

namespace Projection

def all : Projection := ⟨[]⟩

def add (p : Projection) (column : String) : Except BuildError Projection :=
  if column ∈ p.columns then .error (.columnProjectedTwice column)
  else .ok ⟨p.columns ++ [column]⟩

def ofColumns (columns : List String) : Except BuildError Projection :=
  columns.foldlM add all

def isAll (p : Projection) : Bool := p.columns.isEmpty

end Projection
end Quarry
