import Quarry.Text.Blank

/-!
# Abbreviated texts

Texts are measured in bytes of their UTF-8 form and cut between characters.
-/
namespace Quarry.Text

def takeBytesChars : Nat → List Char → List Char
  | _, [] => []
  | max, c :: cs =>
    if c.utf8Size ≤ max then c :: takeBytesChars (max - c.utf8Size) cs else []

def takeBytes (max : Nat) (s : String) : String := String.ofList (takeBytesChars max s.toList)

/-- At most `max` bytes of the text without blanks at their end, and dots when it is longer. -/
def abbreviate (max : Nat) (s : String) : String :=
  trimEnd (takeBytes max s) ++ (if max < s.utf8ByteSize then "..." else "")

end Quarry.Text
