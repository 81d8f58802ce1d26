import Quarry.Text.CombiningClass
import Quarry.Text.Decomposition

/-!
# Composed text

Texts that differ only in how their characters are made have one composed form: each
character is taken apart, the marks behind a starter are put in the order of their
classes, and what has a composite is put together again.
-/
namespace Quarry.Text

/-- No character can be taken apart more often than this. -/
def decompositionDepth : Nat := 4

def decomposeChar : Nat → Char → List Char
  | 0, c => [c]
  | n + 1, c =>
    match decomposeOnce? c with
    | some cs => cs.flatMap (decomposeChar n)
    | none => [c]

def placeMark (c : Char) : List Char → List Char
  | [] => [c]
  | d :: ds =>
    if 0 < combiningClass d ∧ combiningClass d < combiningClass c then d :: placeMark c ds
    else c :: d :: ds

/-- Order marks by their classes; marks of one class keep their order. -/
def orderMarks (cs : List Char) : List Char := cs.foldr placeMark []

def decompose (cs : List Char) : List Char :=
  orderMarks (cs.flatMap (decomposeChar decompositionDepth))

/-- Join what follows a starter with it where it can be. Between them stand `marks`, nearest
first, which did not join it; only a mark of a class above theirs is not cut off. -/
def composeFrom (starter : Char) (marks : List Char) : List Char → List Char
  | [] => starter :: marks.reverse
  | c :: cs =>
    let joined :=
      if marks.all fun m => combiningClass m < combiningClass c then join? starter c else none
    match joined with
    | some d => composeFrom d marks cs
    | none =>
      if combiningClass c = 0 then starter :: marks.reverse ++ composeFrom c [] cs
      else composeFrom starter (c :: marks) cs

def composeMarks : List Char → List Char
  | [] => []
  | c :: cs => if combiningClass c = 0 then composeFrom c [] cs else c :: composeMarks cs

def compose (cs : List Char) : List Char := composeMarks (decompose cs)

def isComposed (cs : List Char) : Bool := compose cs == cs

end Quarry.Text
