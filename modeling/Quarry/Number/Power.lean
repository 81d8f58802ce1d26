/-!
# Powers

Bounds and grids in this library are written with powers of natural numbers and
integers. They are the powers of the core library, also where a larger library offers
another instance for the same operation.
-/
namespace Quarry

scoped instance (priority := high) corePow {α : Type} [NatPow α] : Pow α Nat := instPowNat

end Quarry
