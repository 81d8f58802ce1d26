import Quarry.Text.CombiningClass

/-!
# Joiners

Two characters that show nothing tell how their neighbours are joined. They may stand
behind a mark that takes the vowel from a consonant. The one that keeps its neighbours
apart may also stand between two letters that would otherwise be joined; marks between
do not count.
-/
namespace Quarry.Domain

inductive Joining where
  | transparent
  | left
  | right
  | both
  | none
  deriving DecidableEq

/-- The letters and marks of Unicode 17 that join, by the place of their way of joining in the
list of these. -/
def packedJoinings : List String := [
  "4t;gj 33;7o 6;7c 18;2;2 1;2 1;2;21 a;2;4 0 3;2 3 2;1 0 3;1 0 2;1 0 3;1 0 2;1 4 3;1 3 2;1 c 3",
  "2 6 3;1 0 2;1 1 3;1 k;f 1 3;1;1 2 2;2 2 2;1 f 3;1 h 2;1 11 3;1 0 2;1 1 3;1 8 2;1 0 3;1 0 2",
  "1 0 3;1 0 2;1 1 3;1 1 2;2 0 2;1 6;3 5;3 1;2 3;1 1 2;b 2 3;3 0 3;g;1 0 2;1;1 2 3;1 4 2;1 3 3",
  "1 0 2;1 8 3;1 0 2;1 0 3;1 0 2;1 0 3;1 0 2;1 1 3;1 0 2;1 q;3 0 2;1 a 3;1 2 2;1 e 3;1 1 2",
  "1 3 3;1 0 2;1 0 3;1 1 2;1 2 3;1 1 2;1 5 3;13 a;q w 3;1 8;a;p 3;2 8;2 2;2 4;j 0 2;1 4 3;1 1 2",
  "1 0 3;1 0 2;1 9 3;1 0 2;1 0 3;1 2 2;1 2;5 0 3;2 3 3;2 0 2;1 0 3;1 p 2;4 0 3;3 4 3;1 0 2",
  "1 0 3;8 8;1 9 3;1 2 2;2 0 2;1 1 3;1 1 2;1 5 3;1 0 2;1 e 3;2 n;2 v;1k;2;5 7;5;4 6;b 1;u;1n",
  "5 3;9;l 1;r 4;1m;5 g;v 1;4;c 1;1m;5 7;5;l 1;n 7;1n;3;2 3;9 9;c 1;v;1q;d;1f;4;1k;2 2;6 g;c 1",
  "u;1n;3;7;6 1;l 1;t 1;1m 1;5 3;9;l 1;u;21;8 4;2j;3 6;d 7;2r;3 8;c 6;22 1;s;2;2;1k d;2 4;2 1",
  "6 1b;a;2v 3;2 5;2 1;3 1;q 1;5 2;h 3;e;3 1;7;g;jk 2;qb 2;u 1;v 1;v 1;1t 1;2 6;9;3 a;a;16 0 3",
  "4 2;2;h 2g 3;d 1;1 x 3;1;1 0 3;3a 2;5 1;a;7 2;64 1;3;1n;2 8;2;3 7;7 c;1d 2b;1d;2 4;2;6;15 8",
  "d 1;x 3;3 1;2 2;1l;2 1;4;2 2;1n 7;3 1;49 2;2 c;2 6;5;7;4 1;5j 1r;ek;3 1;r 4;1e 4;6 5;2p w",
  "2db 2;3y;2p v;ff 3;30 1;n9x 3;2 9;x 1;29 1;7l;4;5;q 1;6;k 1d 3;1 0 1;2a 1;r h;e;13 7;q a",
  "1b 2;1d;3 3;3 1;14;1w 5;3 1;3 1;d;9;1c;1g;2 2;3 1;6 1;2;17 1;9;6n;3;5;fn5;ki f;h f;5s;6y 2",
  "ea;6b;46 4;1af e;15 7;3l 4 3;1 0 2;2 0 2;2 1 2;3 0 1;1 4 2;1 3 3;1 0 1;1 4 3;1 0 2;1 2 3",
  "1 0 2;3 0 2;1 1;5 3 3;1 0 2;41 0 3;1 0 2;1 0 3;1 2 2;1 2 3;1 0 2;1 1 3;1 0 2;1 0 3;1 1 2",
  "1 0 3;1 0 2;o 3 2;1 1 3;9e 0 1;1 w 3;1 0 2;1 0 3;1 3;1u 4;8u 1;m 0 2;1 1 3;2 1 3;1f 5;1d 2 3",
  "1 0 2;1 g 3;2 a;1 2 3;1 0 2;s 3 3;1 1 2;1 b 3;1 3;17 0 3;2 1 3;1 2 2;2 0 3;1 1 2;1 1 3;1 0 2",
  "1 1 3;2 0 3;1 1 2;1 0 3;5 0 2;1 0 3;1 0 1;1i;1j e;16;3 1;b 2;1e 3;3 1;8;1q 2;11 4;2 7;1r;d 1",
  "1h 8;b 3;3;2o 2;3;2 1;7;3;4e;4 7;m 1;1m 1;4;12 e;1z 5;e;2;2;f 1;2e 7;3 2;2;o;2d 5;2;5 1;2 1",
  "6n 3;7 1;2 1;s 1;2e 7;3;2 1;2z;2;3 5;2;2u;2;3 3;2 4;78 8;2 1;75 1;2;5;41 7;5;x 9;15 5;3 3;9",
  "a 5;3 2;1b c;2 1;5j;2 2;2;5m d;2;2b l;3 6;2 1;2 1;3f k;2;21 1;4;2;9o 1;c 1;1h 4;6;2;o;446 g",
  "7 e;8uh b;4 2;1xd 4;1o 6;t5;1s 3;2a;f5l 1;2 3;3ml 1y;f5 2;a f;3 6;v 3;45 2;1j0 1i;5 1d;9;f",
  "n k;11t 16;2t;4h 6;ag;1q 3;e5 3;73 1;6s;3;8 1;6;d7 6;16 1v 3;1 7;gzau dq"]

def joiningRanges : List ((Nat × Nat) × Nat) := Text.Packed.labelled packedJoinings

namespace Joining

def ofChar (c : Char) : Joining :=
  match Text.Packed.label? joiningRanges c with
  | some 0 => transparent
  | some 1 => left
  | some 2 => right
  | some 3 => both
  | _ => none

end Joining

def joiner : Char := '\u200D'

def nonJoiner : Char := '\u200C'

def meetsJoining (side : Joining) (cs : List Char) : Bool :=
  match (cs.map Joining.ofChar).dropWhile (· == .transparent) with
  | [] => false
  | j :: _ => j == side || j == .both

/-- Whether each joiner stands where it may, where `before` holds the characters to the
left, nearest first. -/
def joinersFit (before : List Char) : List Char → Bool
  | [] => true
  | c :: cs =>
    (c != joiner && c != nonJoiner || before.head?.any Text.isVirama ||
      c == nonJoiner && meetsJoining .left before && meetsJoining .right cs) &&
    joinersFit (c :: before) cs

end Quarry.Domain
