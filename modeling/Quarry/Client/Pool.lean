/-!
# Connection pools

A pool has a number of permits and serves requests in the order in which they came. A
permit that is given back goes at once to the request that waits longest, which takes
it up when it is asked again; until then it counts as checked out.
-/
namespace Quarry

abbrev Ticket := Nat

structure Pool where
  size : Nat
  free : Nat
  /-- Requests without a permit, longest waiting first. -/
  waiting : List Ticket
  /-- Requests that were given a permit and have not taken it up. -/
  granted : List Ticket
  deriving DecidableEq

namespace Pool

def ofSize (size : Nat) : Pool := ⟨size, size, [], []⟩

def checkedOut (p : Pool) : Nat := p.size - p.free

def take? (p : Pool) : Option Pool :=
  match p.free with
  | 0 => none
  | n + 1 => some { p with free := n }

def wait (p : Pool) (t : Ticket) : Pool := { p with waiting := p.waiting ++ [t] }

def claim? (p : Pool) (t : Ticket) : Option Pool :=
  if t ∈ p.granted then some { p with granted := p.granted.erase t } else none

def giveBack (p : Pool) : Pool :=
  match p.waiting with
  | [] => { p with free := p.free + 1 }
  | t :: ts => { p with waiting := ts, granted := p.granted ++ [t] }

/-- Withdraw a request; a permit that it was given is given back. -/
def withdraw (p : Pool) (t : Ticket) : Pool :=
  if t ∈ p.granted then { p with granted := p.granted.erase t }.giveBack
  else { p with waiting := p.waiting.erase t }

end Pool
end Quarry
