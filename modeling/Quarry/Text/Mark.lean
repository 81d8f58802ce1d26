import Quarry.Text.Packed

/-!
# Marks

Marks are the characters that modify the one before them, whether or not they take a
place of their own.
-/
namespace Quarry.Text

/-- The marks of Unicode 17; a code point without a character counts with its neighbours. -/
def packedMarks : List String := [
  "lc 33;7o 6;7c 18;2;2 1;2 1;2;21 a;1d k;h;2u 6;3 5;3 1;2 3;10;v q;2k a;1n 8;a;p 3;2 8;2 2;2 4",
  "18 2;1o 8;17 n;2 w;1j 2;2 h;2 6;b 1;u 2;1l;2 f;a;b 1;r 5;1l l;v 1;4;c 2;1l;2 f;l 1;n 9;1l",
  "2 p;b 1;v;1o f;a;15 4;1k;2 o;c 1;u 2;1l;2 o;c 1;g g;1k 1;2 f;a;b 1;u 2;1z l;j 1;1q;3 6;d 7",
  "2r;3 8;c 6;22 1;s;2;2;5 1;1e j;2 1;6 1b;a;2t j;o 3;5 2;2 2;3 6;4 3;e b;2;b 3;jk 2;qb 3;t 2",
  "u 1;v 1;1t v;a;1a 2;2;3a 1;z;3b r;64 4;1m 16;1d 2c;1c g;13 8;d 2;v c;1l d;1d j;49 2;2 k;5;7",
  "3 2;5j 1r;k1 w;2db 2;3y;2p v;ff 5;2y 1;n9x 3;2 9;x 1;29 1;7l;4;5;o 4;5;2c 1;1f h;r h;e;13 7",
  "q c;19 3;1c d;11;1w d;d;9 1;1a 2;1f;2 2;3 1;6 1;2;16 4;6 1;6l 7;2 1;fn5;ki f;h f;r2;6b;46 4",
  "1af e;15 7;4m 1;fy 3;1u 4;8u 1;26 5;1z a;1e 3;3f 2;1i e;16;3 1;b 3;1a a;8;1q 2;11 d;h 1;19",
  "d 2;1d d;9 3;2 1;2l b;7;3;4e b;m 3;1k 1;2 f;a;b i;1w o;2;f 1;2b h;o;2a j;6k h;s 1;2b g;2z c",
  "2u e;75 e;6u e;2;2 1;3y f;4;t 9;15 6;2 3;9;a a;1b f;5j 7;5k g;2b 10;3f k;2;1v d;9o 3;a 1;2",
  "1d e;o;44m;7 e;8uh h;1xd 4;1o 6;t5;2 1t;2a d;f58 1;3mq 1y;f3 4;4 5;9 7;3 6;v 3;45 2;1j0 1i",
  "5 1d;9;f;n k;11t 16;2t;4h 6;ag;1q 3;e5 3;73 1;6s;3;8 1;6;d7 6;32 6;gzhy 6n"]

def markRanges : Ranges := Packed.ranges packedMarks

def isMark (c : Char) : Bool := markRanges.contains c

end Quarry.Text
