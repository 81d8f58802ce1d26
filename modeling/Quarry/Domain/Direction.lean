import Quarry.Text.Packed

/-!
# Directions

A domain name that has letters which run from right to left must not read differently
when its labels are shown. So each label runs in one direction, which its first letter
gives, and ends in a letter or a number of it.
-/
namespace Quarry.Domain

inductive Direction where
  | left
  | right
  | arabicLetter
  | europeanNumber
  | arabicNumber
  /-- A mark runs with the character before it. -/
  | mark
  | neutral
  deriving DecidableEq

/-- The characters of Unicode 17 that can stand in a domain name and do not run from left to
right, by the place of their direction in the list of the others. -/
def packedDirections : List String := [
  "0 1b 5;1 9 2;1 12 5;r 2k 5;w 0 5;ci 1 5;8 d 5;3 r 5;2 g 5;1 33 4;6 0 5;3l 0 5;3x 6 4;75 5 5",
  "2 18 4;1;1 0 4;1;1 1 4;1;1 1 4;1;1 0 4;9 10;i 1 5;1 0 1;1 1 5;1 0 1;1 0 5;1 0 1;1 1 5;1 a 4",
  "1 1b 1;1 k 4;1 9 3;1 0 5;1 1 3;1 2 1;1 0 4;1 2s 1;1 6 4;2 0 5;1 5 4;1 1 1;1 1 4;1 0 5;1 3 4",
  "1 1 1;1 9 2;1 m 1;1 0 4;1 t 1;1 q 4;3 2g 1;1 a 4;1 0 1;f 16;1 8 4;1 1;1 3 5;1;3 0 4;1 n",
  "1 3 4;1;1 8 4;1;1 2 4;1;1 4 4;3 14;1 2 4;3;2 1b 1;8 8 4;1 15 1;1 1k 4;1k 0 4;2 0 4;5 7 4",
  "5 0 4;4 6 4;b 1 4;u 0 4;1n 0 4;5 3 4;9 0 4;l 1 4;f 1 5;8 0 5;3 4 4;1m 0 4;5 g 4;v 1 4;4 0 4",
  "c 1 4;1m 0 4;5 7 4;5 0 4;l 1 4;e 0 5;9 7 4;1n 0 4;3 0 4;2 3 4;9 9 4;c 1 4;v 0 4;1q 0 4;d 0 4",
  "12 7 5;6 0 4;4 0 4;1k 0 4;2 2 4;6 g 4;c 1 4;l 6 5;3 0 4;1n 0 4;g 1 4;l 1 4;t 1 4;1m 1 4",
  "5 3 4;9 0 4;l 1 4;u 0 4;21 0 4;8 4 4;2j 0 4;3 6 4;5 0 5;8 7 4;2r 0 4;3 8 4;c 6 4;22 1 4",
  "s 0 4;2 0 4;2 0 4;1 3 5;1g d 4;2 4 4;2 1 4;6 1b 4;a 0 4;2v 3 4;2 5 4;2 1 4;3 1 4;q 1 4;5 2 4",
  "h 3 4;e 0 4;3 1 4;7 0 4;g 0 4;jk 2 4;1d 9 5;2v 0 5;ij 1 5;3a 2 4;u 1 4;v 1 4;v 1 4;1w 6 4",
  "9 0 4;3 a 4;8 0 5;2 0 4;j q 5;3f 1 4;z 0 4;3b 2 4;5 1 4;a 0 4;7 2 4;5 5 5;49 x 5;o 1 4;3 0 4",
  "1n 0 4;2 8 4;2 0 4;3 7 4;7 c 4;1d 2b 4;1d 0 4;2 4 4;2 0 4;6 0 4;15 8 4;d 1 4;x 3 4;3 1 4",
  "2 2 4;1l 0 4;2 1 4;4 0 4;2 2 4;1n 7 4;3 1 4;49 2 4;2 c 4;2 6 4;5 0 4;7 0 4;4 1 4;5j 1r 4",
  "el 51 5;f w 4;k 21 5;1p bv 5;1y p 5;2 lx 5;2 9e 5;75 lb 5;6e 5 5;5 2 4;8 6 5;3k 0 4;2p v 4",
  "1 ec 5;4 o 5;a 3 4;3 0 5;7 0 5;6 2 5;2i 1 4;6 0 5;2j 0 5;5h 11 5;5i3 1r 5;h3l 1i 5;93 2 5",
  "2o 3 4;1 0 5;1 9 4;1 1 5;v 1 4;29 1 4;f x 5;2v 0 5;3e 0 4;4 0 4;5 0 4;q 1 4;2 3 5;1 0 4",
  "c 1 5;1n 3 5;25 1 4;r h 4;e 0 4;13 7 4;q a 4;1b 2 4;1d 0 4;3 3 4;3 1 4;14 0 4;1w 5 4;3 1 4",
  "3 1 4;d 0 4;9 0 4;1c 0 4;1g 0 4;2 2 4;3 1 4;6 1 4;2 0 4;17 1 4;9 0 4;38 1 5;3e 0 4;3 0 4",
  "5 0 4;fn5 0 4;44 g 1;1 fw 5;x f 4;m 1 5;19 0 1;i6 0 5;1r 24 5;4 g 5;2l 0 4;6b 0 4;1 q 2",
  "3f 4 4;w6 7v;4 0 5;1 68;1 e 4;1 11;3 7 4;1 4k;1 1 4;5 22;4 6 5;1 cf;1 z 1;1 3 4;9 9 3;7 f",
  "q 4 4;1 0 5;1 w;5t u 3;2 15;2 1 4;1 4;h 5 1;9 8 5;y 5 4;1 13;9 l 1;1 a 4;1 8 1;n h;1 3 4",
  "1 34;b 0 4;1j e 4;c j 5;b 0 4;3 1 4;b 2 4;1e 3 4;3 1 4;8 0 4;1q 2 4;11 4 4;2 7 4;1r 0 4",
  "d 1 4;1h 8 4;b 3 4;3 0 4;2o 2 4;3 0 4;2 1 4;7 0 4;3 0 4;4e 0 4;4 7 4;m 1 4;1m 1 4;4 0 4",
  "12 e 4;1z 5 4;e 0 4;2 0 4;2 0 4;f 1 4;2e 7 4;3 2 4;2 0 4;o 0 4;2d 5 4;2 0 4;5 1 4;2 1 4",
  "6n 3 4;7 1 4;2 1 4;s 1 4;2e 7 4;3 0 4;2 1 4;w c 5;1r 0 4;2 0 4;3 5 4;2 0 4;2u 2 4;3 3 4",
  "2 4 4;78 8 4;2 1 4;75 1 4;2 0 4;5 0 4;41 7 4;5 0 4;x 5 4;3 1 4;15 5 4;3 3 4;9 0 4;a 5 4",
  "3 2 4;1b c 4;2 1 4;5j 0 4;2 2 4;2 0 4;5m d 4;2d l 4;3 6 4;2 1 4;2 1 4;3f k 4;2 0 4;21 1 4",
  "4 0 4;2 0 4;9o 1 4;c 1 4;1h 4 4;6 0 4;2 0 4;o 0 4;3f s 5;40f 0 4;7 e 4;8uh b 4;4 2 4;1xd 4 4",
  "1o 6 4;t5 0 4;1s 3 4;28 0 5;2 0 4;f5l 1 4;31e kw 5;g 1y 4;f5 2 4;i 7 4;3 6 4;v 3 4;1o 2g 5",
  "1 2 4;1 0 5;57 2e 5;1be 1i 4;5 1d 4;9 0 4;f 0 4;n k 4;11t 3z 4;4h 6 4;ag 0 4;1q 3 4;g 0 5",
  "dp 3 4;73 1 4;6s 0 4;3 0 4;8 1 4;6 0 4;7f 5r;1 6 4;24 x;1 6 4;1 k;lu 5o 1;c3 fz 5;1q 2 5",
  "1q 0 5;4z 1wa 5"]

def directionRanges : List ((Nat × Nat) × Nat) := Text.Packed.labelled packedDirections

namespace Direction

def ofChar (c : Char) : Direction :=
  match Text.Packed.label? directionRanges c with
  | none => left
  | some 0 => right
  | some 1 => arabicLetter
  | some 2 => europeanNumber
  | some 3 => arabicNumber
  | some 4 => mark
  | some _ => neutral

def isRightToLeft (d : Direction) : Bool := d ∈ [right, arabicLetter, arabicNumber]

def agree (first : Direction) (inner : List Direction) (last : Direction) : Bool :=
  if first = left then
    last ∈ [left, europeanNumber] && inner.all (!·.isRightToLeft)
  else
    last ∈ [right, arabicLetter, europeanNumber, arabicNumber] && inner.all (· ≠ left) &&
      !(europeanNumber ∈ last :: inner && arabicNumber ∈ last :: inner)

end Direction

/-- Whether a label of a name that runs in both directions runs in one; marks at its end do
not count. -/
def runsOneWay (label : List Char) : Bool :=
  match label.map Direction.ofChar with
  | [] => true
  | first :: rest =>
    first ∈ [Direction.left, .right, .arabicLetter] &&
      match rest.reverse.dropWhile (· == .mark) with
      | [] => true
      | last :: inner => first.agree inner last

def directionsFit (labels : List (List Char)) : Bool :=
  !labels.any (·.any fun c => (Direction.ofChar c).isRightToLeft) || labels.all runsOneWay

end Quarry.Domain
