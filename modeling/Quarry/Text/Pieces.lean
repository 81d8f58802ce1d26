/-!
# Pieces of a text

A text is cut at every separator. There is one piece more than there are separators.
-/
namespace Quarry.Text

def pieces (separator : Char) : List Char → List (List Char)
  | [] => [[]]
  | c :: cs =>
    if c = separator then [] :: pieces separator cs
    else match pieces separator cs with
      | [] => [[c]]
      | piece :: rest => (c :: piece) :: rest

end Quarry.Text
