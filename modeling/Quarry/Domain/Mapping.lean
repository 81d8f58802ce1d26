import Quarry.Text.Packed

/-!
# Characters of domain names

Before a domain name is looked at, each of its characters is mapped: upper case to lower
case, variants of a character to the plain one, and what shows nothing to no character
at all. Some characters no domain name can have.
-/
namespace Quarry.Domain

open Text (Ranges)

/-- The code points of Unicode 17 that no domain name can have. -/
def packedDisallowed : List String := [
  "3k v;k9 1;7 3;8;2;l;b2;13 1;1f 1;4;1k 7;s 3;7 g;n;5d;1d 1;1o 1;2u d;1o 1;1e 1;g;t 1;2;c 4",
  "x 6;24;4i;9 1;3 1;n;8;2 2;5 1;a 1;3 1;5 7;2 3;3;6 1;q 1;4;7 3;3 1;n;8;3;3;3 1;2;6 3;3 1;4 2",
  "2 6;5;2 6;i 9;4;a;4;n;8;3;6 1;b;4;4 1;2 e;5 1;d 6;8;4;9 1;3 1;n;8;3;6 1;a 1;3 1;4 6;4 3;3",
  "6 1;j 9;3;7 2;4;5 2;3;2;3 2;3 2;4 2;d 3;6 2;4;5 1;2 5;2 d;m 4;e;4;o;h 1;a;4;5 6;3;4;3 1;5 1",
  "b 6;n;4;o;b;6 1;a;4;5 6;3 4;4;5 1;b;4 b;e;4;1g;4;7 3;h 1;r;4;j 2;p;a;2 1;8 2;2 3;7;2;9 5;b 1",
  "4 b;1n 3;u 10;3;2;6;p;2;o 1;6;2;8;b 1;5 v;21;11 3;14;11;g;e 10;5j;2 4;2 1;ai;5 1;8;2;5 1;16",
  "5 1;y;5 1;8;2;5 1;g;1m;5 1;1w 1;x 2;r 5;2f 1;7 1;ht;t 2;2i 6;n 8;p 8;l b;e;4;3 b;2n 1;b 5",
  "b 5;r 5;2i 6;18 4;1z 9;w;d 3;d 3;2 2;17 1;6 a;19 3;r 5;c 2;1r 1;1u;u 1;c 5;b 5;f 1;1b 1;d j",
  "26;4n 7;1p 2;g 2;1r 4;18 1;c 7;18 4;ev 1;7 1;13 1;7 1;9;2;2;2;w 1;1i;g;f 1;7;k 1;4;a;f 1;l 2",
  "2 6;1j 4;9 1;s;e 2;z d;y e;3x 3;ij l;c k;15 j;1cp 1;an 4;1a;2 4;2 1;1l 6;3 d;p 8;8;8;8;8;8;8",
  "8;8;3j x;r;2i b;5z 15;1t;2f 1;2w 4;18;2n;2f 9;1c;bn;5;h;m9h 2;1k 8;9p j;55 7;66 j;1p 2;b 5",
  "1l 7;1z 7;d 5;39 a;v 2;27;c 3;y;1k 8;f 1;b 1;2w n;t 9;7 1;7 1;7 8;8;8;1p 3;3j 1;b 5;8md b",
  "o 3;1e 6ir;a7 1;2z 11;8 b;6 4;r;6;2;3;3;i3 v;z;7 6;h;y 1;k;5 3;6;3s 1;2;5b 2;7 1;7 1;7 1;4 2",
  "8;8 g;d;r;k;3;g 1;f x;3g 4;4 3;1a 2;2h;e 2;2 1a;1b 3l;u 2;1e e;t 3;11 8;v 4;18 4;v;12 3;f 15",
  "4f 1;b 5;11 3;11 3;15 7;1h a;d;g;8;3;c;g;8;3 2;1h b;8o 8;n 9;9 n;7;17;a 1w;7 1;2;19;3 2;2 1",
  "o;21 7;a 1b;k;3 4;y 2;s 4;s 11;1l 3;l 1;1f;3 4;9;4;u 1;4 3;b 6;a 6;1t v;14 3;d 8;1j 2;u 1",
  "s 4;r 6;5 b;8 27;22 1i;1g c;1g 6;1b 7;b 5;13 2;u 7;3 5r;w;17;4 1;3 f;7 7;a w;1b 7;17 l;r 11",
  "t j;o 8;27 3;11 8;1r;6 c;q 6;b 5;1i;j 7;14 8;2p;l a;j;1c 1p;8;2;5;g;c 5;1o 4;b 5;5;9 1;3 1;n",
  "8;3;6;b 1;3 1;4 1;2 5;2 4;8 1;8 2;6 a;b;2 1;2;13;b;2 1;2;5;b;3 7;3 s;2l;6 t;21 7;b 4l;1j 1",
  "13 x;1y a;b 5;e i;1n 5;b 5;l r;s 1;g 3;o 54;1p 2r;2c b;9 1;2 1;9;3;v;3 1;d 8;b 1x;9 1;1b 1",
  "c q;21 7;2c c;22 6;b 2d;9 2f;z d;b 5;a;1a;f 9;u 2;x 1;n;f 20;8;3;19 2;2;3;a 7;b 5;7;3;12;3",
  "7 6;b 5;19 3;b 6t;q 6;i;16 2;u 2c;2 e;1f c;po 2t;34;6 a;5h 217;2s c;tt f;n 9;330 4;g8 5a0",
  "1n 1c5;fu 6;w;b 3;2a;b 5;v 1;7 9;1z 9;b;8;m 4;k bz;1n 5h;2k 4;q 1;q 17;24 3;1m 6;i 1r;6 a",
  "8 8;5p3 14;x 2o;38 6po;5;8;3;84 e;2 s;4 1;2 d;5 7;b1 1s3;30 4;e 2;a 6;b 1;9 317;72 2;c5 5",
  "o e;i e;1b 1;o 8;39 1n;6v 9;14 1;5f k;1z 3d;l b;l b;2g 8;q 3q;2e;20;3 1;2 1;3 1;5;d;2;8;1u",
  "5 1;9;8;t;5;6;2 2;8;9h 1;85 1;jj e;6;g un;w 5;7 5w;8;i 1;8;3;6 4;1r w;2 33;1a 2;f 1;b 3;3 8v",
  "w g;1n 4;2 cv;17 5x;18 3;2 5b;w;n 7;3 67;8;5;3;g;5i 1;h 14;25 3;b 3;3 ls;1x 23;1q 5d;5;s;3",
  "2 1;2;b;5;2;2 5;2 3;2;2;2;4;3;2 1;2;2;2;2;2;3;2 1;5;8;5;5;2;b;i 4;4;6;i 1f;3 7h;19 3;2t b",
  "g 1;g;g;12 a;4u 1j;u c;19 3;a 6;3 d;7 49;re 2;i 2;e 2;63 5;d 3;2 e;d 3;1l 7;b 5;15 7;v 1;d 3",
  "3 d;a 12;9l 7;f 1;e 2;c 2;1m;2 3;h 1;d 3;b 6;44;2w sk;wyp v;3dr 1;4gf 1;5rm e;hb 1wh;f3 15t",
  "3t8 4;6jv f62t;6p 47bj"]

/-- The code points of Unicode 17 that do not count in a domain name. -/
def packedIgnored : List String := [
  "4t;iq;2s0 1;190 1;2e 4;1ks;2d 4;6 5;3cl;14f0 f;6o;4h;11c0 3;440 7;h47a 6n"]

/-- Runs of code points that are mapped to one character each: the first code point and what
it is mapped to, how many follow, and the step between two of them and between what they
are mapped to. -/
def packedShifts : List String := [
  "1t 2p p;2n w;a 2p;8 1e 1;3 qk;4 1d;1 33;6 68 m;o 6w 6;14 75 n 2 2;1g 8l 1 2 2;5 8q 2 2 2",
  "8 8y 3 2 2;9 97 m 2 2;1a 73;1 ai 2 2 2;6 37;2 gj;1 ar 1 2 2;4 gk;1 aw;2 gm 1;2 b0;3 d9",
  "1 gp 1 1 2;2 b6;2 gw;1 gz;2 h5;1 h4;1 bd;4 hb;1 he;2 hh;1 bl 2 2 2;6 hs;1 bs;2 hv;3 bx;2 i0",
  "1 c0;2 i2 1;2 c4 1 2 2;4 ia;1 c9;4 cd;h cu 7 2 2;h db 8 2 2;m dx;2 b9;1 cf;1 e1 j 2 2;14 bi",
  "2 f7 8 2 2;o 8rp;1 fw;2 be;1 8rq;3 g2;2 ao;1 i1;1 i4;1 g7 4 2 2;2y 2w;1 h2;1 2y;1 36",
  "1 hl 1 1 2;2 ht;1 3b 1 1 2;15 gz;1 30;1 37;1 3c;1 id;2p qh;17 oh 1 2 2;6 on;9 s3;7 q4 1 2 1",
  "3 q6 1;3 r0 1 2 1;3 r2;2 q9 g;i qr 8;18 rb;1 qa;1 qg;1 qt;1 r1;1 qz;1 qu;1 qo;2 rd b 2 2",
  "o qi;1 qp 1 1 2;3 qg;1 qd;2 s8;2 qr;1 sb;3 or 2;3 uo f;g ts v;28 v5 g 2 2;16 wb q 2 2;1i y7",
  "1 xu 6 2 2;f y9 1b 2 2;2p 129 11;1y3 2yz;b8 8w0 11;13 8x3;6 8x9;1b 3bw;l8 3xs 5;1oo tu 1 1 2",
  "2 u6;1 u9 1;2 ua;1 ui;1 v7;1 wuj;1 5my;7 3bk 16;19 3ct 2;33 2p;1 6e;1 2q 1 2 2;3 2t;1 d9",
  "1 2v 7;9 33;1 f7;1 34 2 1 2;3 39 1 1 2;2 2p;1 gg 1;2 5qa;1 2q 1 1 2;2 2t;1 gp 1 1 2;2 gs",
  "1 2v;2 2z 1 1 2;2 97;1 33;1 gk;1 5qu 1;2 34;1 38 1;2 5r1;1 hb;1 3a;1 5r9;1 qa 2;3 qu 1;2 2x",
  "1 36;1 39 1;2 qa 1;2 qp;1 qu 1;f u5;z gi;1 2r;1 gl;1 6o;1 gs;1 2u;1 gv 1 1 2;2 h1;1 h4 2",
  "3 5tn;1 il;1 h9;1 5tx;1 in;1 hd;1 hc 1 1 2;2 hf 2;3 hk;1 hu 1;2 bv;1 i1 1;2 5r0;1 i3 1;2 3e",
  "1 i8 2;3 qg;1t 5xd 22 2 2;4b 601;3 67;2 61t 1b 2 2;2w 64g 7;g 64w 5;g 65c 7;g 65s 7;g 668 5",
  "h 66p 3 2 2;f 674 7;28 69c 1;2 67k;1 q4;d 67m;1 q5;1 67o;1 q6;d 6a8 1;2 67q;1 q7;d 6ao 1",
  "2 67u;1 r1;1 6at;c 67s;1 r0;1 67w;1 r2;5 w a 1 0;h 6c0;u w;1c w;h 1c;1 2x;3 1g 5;6 17;1 6qa",
  "1 1p;1 14 1;2 32;1 1c 9;a 17;1 6qa;1 1p;1 14 1;3 2p;1 2t;1 33;1 3c;1 gp;1 2w;1 2z 3;4 34",
  "1 37 1;2v 2r;5 gr;3 2v 1;2 2w 2 1 0;3 87;1 2x 1 1 0;2 30 1 1 0;3 32;4 34 2;3 36 1 1 0;8 3e",
  "2 qx;2 3e;2 2z;1 6d;1 2q 1;3 2t 1 1 0;2 2u;1 6ku;1 31 1 1 2;2 15c 3;4 2x;3 qo;1 qb 1 1 0",
  "2 qo;1 6q9;5 2s 1 1 0;2 2t;1 2x 1;o 2x;4 3a;5 3c;3 30;1 2r 1;2 31;1 2x;4 3a;5 3c;3 30;1 2r 1",
  "2 31;4 6mc;kd 1d 8;2e 2p p;q 2p p;q 1c;1ee 8q8 1b;2o 8rl;2 h7;1 5tp;1 hp;3 8rs 2 2 2;6 gh",
  "1 hd;1 gg 1 1 2;3 8s3;3 8s6;7 2y;1 3a;1 fz 1;2 8sh 1d 2 2;2z 8vg 1 2 2;7 8vn;3h 8yp;8g lal",
  "2c vj3;d feo;1 ffs;1 fg6;1 fgf;1 fh5;1 fid;1 fik;1 fj4;1 fju;1 g1r;1 g2t;1 g2z;1 g3m;1 g46",
  "1 g4r;1 g68;1 g6t;1 g74;1 gbf;1 ge1;1 get;1 gey;1 gfs;1 gg1;1 ggs;1 gh5;1 ghu;1 gja;1 gjs",
  "1 gkj;1 h5j;1 h7j;1 hkb;1 hky;1 hl6;1 hlh;1 hlz;1 ho3;1 i1c;1 i2o;1 i60;1 i6n;1 i76;1 i7s",
  "1 i9a;1 i9d;1 ijf;1 ijp;1 ik1;1 ike;1 inm;1 inu;1 inz;1 ir8;1 iri;1 irv;1 is3;1 its;1 iu9",
  "1 iur;1 iwz;1 jd4;1 jee;1 jez;1 jzj;1 jzo;1 k1z;1 k2f;1 k2s;1 k3d;1 k4g;1 k4l;1 kc0;1 kco",
  "1 kdk;1 l5s;1 l7m;1 l89;1 l9v;1 laj;1 las;1 laz;1 lcf;1 lck;1 ldg;1 m7f;1 mju;1 mk6;1 mkb",
  "1 mkf;1 mkn;1 ml5 1 1 2;2 mng;1 mtg;1 mtl;1 n30;1 n3a;1 n4o;1 n4v;1 n54;1 n5c;1 n7v;1 n82",
  "1 nee;1 nel;1 nfy;1 ngf;1 nhq;1 nob;1 noi;1 noz;1 ny2;1 o1k;1 o1q;1 o6s;1 o97;1 oah;1 okz",
  "1 ooo;1 p4m;1 p5d;1 p6y;1 p8d;1 pa9;1 pak;1 paq;1 pbn;1 pdr;1 pe1;1 pnn;1 pnu;1 po3;1 poc",
  "1 pos;1 pp7;1 ppb;1 pri;1 prm;1 prs;1 qj1;1 qjv;1 qww;1 qx8;1 qxv;1 r5q;1 r63;1 r82;1 r9c",
  "1 rp3;1 rpi;1 rpx;1 rqw;1 rrx;1 rxg;1 rxs;1 rzn;1 s6j;1 s7e;1 sd7;1 sds;1 sdx;1 sk1;1 sp5",
  "1 ssm;1 sss;1 ssx;1 tiv;1 tj4;1 tng;1 trq;1 trt;1 tt4;1 tw1;1 twe;1 twi;1 twp;1 tzf;1 u0d",
  "1 u0j;1 u0x;1 u5k;1 u6z;1 u73;1 uc6;1 uc9;1 ucs;1 ujs;1 ul4;1 ulb;1 un9;1 unj;1 unm;1 unw",
  "1 uoq;1 uzp;1 vat;1 vb3;1 vc5;1 vcr;1 vcz;1 vd9;1 vdd;1 veh;1 vel;1 vf2;1 vf7;1 vfk;1 vgb",
  "1 vgq;1 vgy;1 vil;1 vj0;1 vj4;17 w;2 1a;1g 9hu;2 gg1;1 gg4 1;6w 3cw 1;2 3hm;1 3cy;1 3ho 1",
  "2 3cz 2;3 3hs 5;6 3dm;1 3d2 2;3 3dt;1 3d5 9;a 3fl k;m 3dg 1;2 3if 1;2 3ik 1 1 2;2 3ir",
  "1 3iv 1 1 2;2 3do;1 3j1 1 1 2;2 3dp 1;2 3ds 1 1 2;2 3dv;1 3dz 2 1 2;3 3e4 3;4 3ea;1 3ee",
  "1 3eo;1 3ev;1 3f0;1 3jl 1;2 3fb 2;3 3gk 1;2 3go;1 3gx 1;2 3h0;1 3ha;1 3hd;4 feo;1 fik;1 fex",
  "1 h5n;1 fey;1 ffx;1 fez;1 n5e;1 fh5;1 ffd;1 fep;1 hm1;1 h80;1 fju;4l gun;1 inw;1 k1z;1 oen",
  "p 3cw 1 1 2;2 3cz 1 1 2;2 3d2 1;2 3d5 1 1 2;2 3d8 1 1 2;2 3db 3;4 xz4;1 yvs;1 zc4;1 108s",
  "1 10p4;1 115g;1 1224;1 12ys;1 13f4;1 14bs;1 14s4;1 158g;1 15os;1 1654;3 138w;2 feo;1 fik",
  "1 fex;1 h5n;1 fis;1 g31;1 fer;1 g2z;1 fh9;1 gg1;1 kco;1 m7f;1 ldg;1 kdk;1 ssx;1 h7j;1 k4l",
  "1 kkq;1 kcp;1 ny6;1 glp;1 mm1;1 rs1;1 nz1;1 gc4;1 o2g;1 n5j;1 ho3;1 six;1 g16;1 ghc;1 lig",
  "1 u11;1 fm9;1 g49;1 l7n;1 fey;1 ffx;1 fez;1 ijq;1 gkz;1 gfv;1 i3b;1 i1y;1 nhf;1 flt;1 rt3",
  "1 ggk;1 hlo;w 9lu 4 1 2;5 9m3 b 1 2;c 9ms 3 1 2;4 9mz 4;5 9n6;1 9n9;1 9nc;1 9nf;1 9ni 4",
  "5 9no 2 1 2;3 9nt 4;5 9nz 3;mrp wu9 m 2 2;1s ww1 d 2 2;s ui 1 1 2;3q x0j 6 2 2;g x0z u 2 2",
  "1q x2n;9 x2y 1 2 2;4 5tl;1 x33 4 2 2;d x3g;2 h1;3 x3l 1 2 2;6 x3r 9 2 2;k h2;1 gs;1 gx;1 h8",
  "1 h6;2 im;1 hz;1 il;1 xub;1 x4l 7 2 2;g x3o;1 hu;1 5u6;1 x54 1 2 2;4 h0;1 x59 7 2 2;g bf",
  "l 37;1 2r;1 2u;1 35;1 x6e;3 87;1 9f;o3 x0n;1 xtj;1 h7;1 xua;a i5;7 3vk 27;fqo 15u;1 15c",
  "1 15f 1;2 15n 2;3 160 1 1 2;2 17;13 19t 1 1 0;2 1a3 3 1 0;4 1a6 3 1 0;4 1a8 3 1 0",
  "4 1a2 3 1 0;4 1a7 3 1 0;4 1a1 3 1 0;4 1b8 3 1 0;4 1ba 3 1 0;4 1ac 3 1 0;4 1ab 3 1 0",
  "4 1ae 3 1 0;4 1af 3 1 0;4 1al 1 1 0;2 1ak 1 1 0;2 1am 1 1 0;2 1ag 1 1 0;2 1aw 1 1 0",
  "2 1ap 1 1 0;2 1bd 3 1 0;4 1bj 3 1 0;4 1bn 3 1 0;4 1bl 3 1 0;4 1bu 1 1 0;2 1bv 3 1 0",
  "4 1c0 1 1 0;2 1c1 3 1 0;4 1by 3 1 0;4 1ci 1 1 0;2 1cj 1 1 0;z 1bh 3 1 0;4 1c7 1 1 0",
  "2 1c6 1 1 0;2 1c8 1 1 0;3 1cb 1 1 0;2 1c5 1 1 0;2 1c9 1 1 0;2 1cg 3 1 0;4 18p 1 1 0",
  "k 1cc 3 1 0;es 18;1 9hd;2 1m 1;2 x;1 1r;1 9hy 1;q 6c4;1 6c3;1 2n 1 1 0;2 14 1;2 3f 1 1 2",
  "2 9hw 1;2 9hs 1;2 9hm 1;2 9hk 1;2 9ho 3;6 2j 1 1 2;6 2n 2 1 0;3 18;1 9hd;3 1n;1 1m;1 1r;1 x",
  "1 6c4;1 14 1;2 3f 1 1 2;2 9hw 1;2 z;1 12;1 16 1;2 19;1 1o 1 1 2;2 1p;2 2k;1 10 1;2 1s",
  "l 17l 1;2 17m 1;2 17n 1;2 17o 1;2 17p 1;2 17q 2 1 0;3 17r 1 1 0;2 17s 3 1 0;4 17t 1 1 0",
  "2 17u 3 1 0;4 17v 3 1 0;4 17w 3 1 0;4 17x 3 1 0;4 17y 3 1 0;4 17z 1 1 0;2 180 1 1 0",
  "2 181 1 1 0;2 182 1 1 0;2 183 3 1 0;4 184 3 1 0;4 185 3 1 0;4 186 3 1 0;4 187 3 1 0",
  "4 188 3 1 0;4 189 3 1 0;4 18a 3 1 0;4 18h 3 1 0;4 18i 3 1 0;4 18j 3 1 0;4 18k 3 1 0",
  "4 18l 3 1 0;4 18m 3 1 0;4 18n 3 1 0;4 18o 1 1 0;2 18p 1 1 0;2 18q 3 1 0;g x v;w 2p p;q 2j z",
  "10 879 1;2 1a;1 9ho 1;2 9hd;1 9ob;1 9o2;1 9lt 4 1 2;5 9nn 2 1 2;3 9mr;1 9oc;1 9lu 4 1 2",
  "5 9m3 b 1 2;c 9ms 3 1 2;4 9mz 4;5 9n6;1 9n9;1 9nc;1 9nf;1 9ni 4;5 9no 2 1 2;3 9nt 4;5 9nz",
  "1 9o3;1 9ll 1;3 3cw 1;2 3hm;1 3cy;1 3ho 1;2 3cz 2;3 3hs 5;6 3dm;1 3d2 2;3 3dt;1 3d5 9",
  "d 3fl 5;8 3fr 5;8 3fx 5;8 3g3 2;6 4i 1;2 4s;2 4m;1 4l;1 6g9;2 7b6;1 6mo 3;4 7fk;1 7gr",
  "sy 1fe0 13;4w 1fiw z;5c 1fo7 a;c 1foj e;g 1foz 6;8 1fp7 1;dp k0 1;2 6e;1 ih;1 gj;2 ir;1 xuu",
  "1 it;1 is;1 gm 1;2 5u9;1 go;1 gu;1 ix;1 h0;1 gy;1 gw;1 ij;1 87;1 ik;1 h3;1 hw;1 iy 1;2 h8",
  "1 2mmc;1 x3i;1 ha;1 2mmd;1 i6;1 2mme;1 6w;1 hi 1;2 35;1 hm;1 2mmg;1 hp 1;2 hs;1 iw;1 iu",
  "1 xuv;1 iv;1 i0;1 8s1;2 i7;1 ip 1;2 ig;1 cg 2;3 2mmi;1 2mn2;xy 1h34 1e;5s 1h80 l;28g 1jgg v",
  "gww 20dc v;2o 20fv o;ily 2p p;q 1c 9;1e8 2p p;q 2p p;q 2p p;q 2p 6;8 2x h;i 2p p;q 2p p",
  "q 2p 1 2 2;3 2s;3 2v;3 2y 1;4 32 3;5 37 7;8 2p 3;5 2u 1 2 2;3 2x 5;7 34 a;b 2p p;q 2p p",
  "q 2p 1;3 2s 3;6 2y 7;9 37 6;8 2p p;q 2p 1;3 2s 3;5 2x 4;6 33;4 37 6;8 2p p;q 2p p;q 2p p",
  "q 2p p;q 2p p;q 2p p;q 2p p;q 2p p;q 2p p;q 2p p;q 2p p;q 2p p;q 2p p;q 8h;1 fr;3 q9 g;h qg",
  "1 qr 6;7 6pz;1 q9 g;h qr 1 1 0;2 qs 5;6 6pu;1 qd;1 qg 1 1 2;2 qu;1 qp;1 qo;1 q9 g;h qg",
  "1 qr 6;7 6pz;1 q9 g;h qr 1 1 0;2 qs 5;6 6pu;1 qd;1 qg 1 1 2;2 qu;1 qp;1 qo;1 q9 g;h qg",
  "1 qr 6;7 6pz;1 q9 g;h qr 1 1 0;2 qs 5;6 6pu;1 qd;1 qg 1 1 2;2 qu;1 qp;1 qo;1 q9 g;h qg",
  "1 qr 6;7 6pz;1 q9 g;h qr 1 1 0;2 qs 5;6 6pu;1 qd;1 qg 1 1 2;2 qu;1 qp;1 qo;1 q9 g;h qg",
  "1 qr 6;7 6pz;1 q9 g;h qr 1 1 0;2 qs 5;6 6pu;1 qd;1 qg 1 1 2;2 qu;1 qp;1 qo;1 rh 1 1 0;4 1c 9",
  "a 1c 9;a 1c 9;a 1c 9;a 1c 9;1mi ts 8;9 u2 2;3 u6 a;b uj 1 1 2;2 um;1 ww9;1 yh;1 uu 1 1 2",
  "2 yx;1 xb;1 y7;1 ts 8;9 u2 1;2 u6 1;2 u9 1 1 2;2 uc 4;5 ui 1;2 wh;1 uu;1 ut;1 v3;1 x7;1 wup",
  "1 xd;1oz 2oma x;zk 17r 1;2 17w;1 17z;2 18o;1 182;1 17x;1 187;1 18q;1 18j 3;4 183;1 189;1 18h",
  "1 185;1 18i;1 181;1 184;1 17u 1;2 17y 1 1 2;2 186 2 1 2;3 19q;1 1bu;1 1b5;1 19r;2 17s;1 17w",
  "2 18n;3 17x;2 18q;1 18j 3;4 183;1 189;1 18h;1 185;1 18i;2 184;1 17u 1;2 17y;2 186;2 18a",
  "7 17w;5 17x;2 18q;2 18k 1 2 2;3 183;1 189;2 185;1 18i;2 184;3 17y;2 186;2 18a;2 1bu;2 19r",
  "2 17s;1 17w;2 18n;3 17x;1 187;1 18q;1 18j 1 2 2;3 18m;1 183;1 189;1 18h;1 185;1 18i;2 184",
  "1 17u 1;2 17y;2 186 2 1 2;3 19q;2 1b5;2 17r 1;2 17w;1 17z;1 18n 1;2 182;1 17x;1 187;1 18q",
  "2 18k 2;3 183;1 189;1 18h;1 185;1 18i;1 181;1 184;1 17u 1;2 17y 1 1 2;2 186 2 1 2;8 17s",
  "1 17w;1 17z;2 18o;1 182;1 17x;1 187;1 18q;2 18k 2;3 183;1 189;1 18h;1 185;1 18i;1 181;1 184",
  "1 17u 1;2 17y 1 1 2;2 186 2 1 2;he 2r;1 36;4 2p p;5u 9md;e jez;1 i1j;1 gjw;1 9mv;1 fik;1 hlm",
  "1 r8j;1 hm1;1 fj8;1 k68;1 mch;1 k2h;1 g99;1 ivg;1 g3x;1 k34;1 g7x;1 oqq;1 n4v;1 rs9;1 hkg",
  "1 gmx;1 lxw;1 jh1;1 jmd;1 feo;1 fex;1 si2;1 ijq;1 ffx;1 gkz;1 jk7;1 rxs;1 jf7;1 o01;1 o6y",
  "1 glk;1 lts;1 kcp;1 kco;1 n5f;1 gaa;1 gxi;1 sp9;l ivr;1 gkv;1wf 1c 9"]

/-- Code points that are mapped to several characters. -/
def packedExpansions : List String := [
  "4o w lk;7 w lg;5 w ld;4 w mf;4 1d 6dg 1g;1 1d 6dg 1e;1 1f 6dg 1g;36 2x lj;2 2x 2y;1 2x 2y",
  "c 30 53;1 30 53;9 jg 32;3f 2s am;1 2s am;1 2s am;1 30 2y;1 30 2y;1 30 2y;1 32 2y;1 32 2y",
  "1 32 2y;11 2s 3e;1 2s 3e;1 2s 3e;6d w li;1 w lj;1 w lm;1 w mg;1 w lf;1 w ln;4d w qh;a w ld",
  "1 w lk ld;ea 12d 136;6m 17r 19w;1 18o 19w;1 1c7 19w;1 18q 19w;1iz 2tp 2sy;3k 2x9 2wi",
  "15 2wb 2vt;1 2wb 2w1;4a 33m 31t 328;2 33n 31t 328;2zl 2p ji;6e 64g qh;1 64h qh;1 64i qh",
  "1 64j qh;1 64k qh;1 64l qh;1 64m qh;1 64n qh;1 64g qh;1 64h qh;1 64i qh;1 64j qh;1 64k qh",
  "1 64l qh;1 64m qh;1 64n qh;1 65c qh;1 65d qh;1 65e qh;1 65f qh;1 65g qh;1 65h qh;1 65i qh",
  "1 65j qh;1 65c qh;1 65d qh;1 65e qh;1 65f qh;1 65g qh;1 65h qh;1 65i qh;1 65j qh;1 674 qh",
  "1 675 qh;1 676 qh;1 677 qh;1 678 qh;1 679 qh;1 67a qh;1 67b qh;1 674 qh;1 675 qh;1 676 qh",
  "1 677 qh;1 678 qh;1 679 qh;1 67a qh;1 67b qh;3 67k qh;1 q9 qh;1 q4 qh;3 69i qh;5 q9 qh",
  "1 w lv;2 w lv;1 w n6;1 w lk n6;1 67o qh;1 qf qh;1 q6 qh;3 69y qh;5 qf qh;1 w lv lc;1 w lv ld",
  "1 w lv n6;e w lw lc;1 w lw ld;1 w lw n6;e w lk lc;1 w lk ld;4 67w qh;1 qx qh;1 r2 qh",
  "3 6ba qh;5 qx qh;1 w ld;1 w lw;p w mr;s 6cy 6cy;1 6cy 6cy 6cy;2 6d1 6d1;1 6d1 6d1 6d1;5 x x",
  "2 w lh;9 1r 1r;1 1r x;1 x 1r;e 6cy 6cy 6cy 6cy;29 36 37;2g 2p 1b 2r;1 2p 1b 37;2 4w 2r",
  "2 2r 1b 33;1 2r 1b 39;3 4w 2u;d 32 33;a 37 31;1 38 2t 30;1 38 31;p 2u 2p 3c;l 1d 6dg 1j",
  "1 1d 6dg 1l;1 1d 6dg 1d 1c;1 1d 6dg 1f;1 1e 6dg 1f;1 1d 6dg 1h;1 1e 6dg 1h;1 1f 6dg 1h",
  "1 1g 6dg 1h;1 1d 6dg 1i;1 1h 6dg 1i;1 1d 6dg 1k;1 1f 6dg 1k;1 1h 6dg 1k;1 1j 6dg 1k;1 1d 6dg",
  "2 2x 2x;1 2x 2x 2x;1 2x 3a;2 3a 2x;1 3a 2x 2x;1 3a 2x 2x 2x;1 2x 3c;2 3c 2x;1 3c 2x 2x",
  "6 2x 2x;1 2x 2x 2x;1 2x 3a;2 3a 2x;1 3a 2x 2x;1 3a 2x 2x 2x;1 2x 3c;2 3c 2x;1 3c 2x 2x",
  "e 1c 6dg 1f;4j 6qz 6qz;1 6qz 6qz 6qz;2 6r2 6r2;1 6r2 6r2 6r2;ft 1d 1c;1 1d 1d;1 1d 1e",
  "1 1d 1f;1 1d 1g;1 1d 1h;1 1d 1i;1 1d 1j;1 1d 1k;1 1d 1l;1 1e 1c;1 14 1d 15;1 14 1e 15",
  "1 14 1f 15;1 14 1g 15;1 14 1h 15;1 14 1i 15;1 14 1j 15;1 14 1k 15;1 14 1l 15;1 14 1d 1c 15",
  "1 14 1d 1d 15;1 14 1d 1e 15;1 14 1d 1f 15;1 14 1d 1g 15;1 14 1d 1h 15;1 14 1d 1i 15",
  "1 14 1d 1j 15;1 14 1d 1k 15;1 14 1d 1l 15;1 14 1e 1c 15;l 14 2p 15;1 14 2q 15;1 14 2r 15",
  "1 14 2s 15;1 14 2t 15;1 14 2u 15;1 14 2v 15;1 14 2w 15;1 14 2x 15;1 14 2y 15;1 14 2z 15",
  "1 14 30 15;1 14 31 15;1 14 32 15;1 14 33 15;1 14 34 15;1 14 35 15;1 14 36 15;1 14 37 15",
  "1 14 38 15;1 14 39 15;1 14 3a 15;1 14 3b 15;1 14 3c 15;1 14 3d 15;1 14 3e 15",
  "11z 6qz 6qz 6qz 6qz;2w 1m 1m 1p;1 1p 1p;1 1p 1p 1p;17p w 9ll;1 w 9lm;3 9l4 9l6;2o 9mb 9mw",
  "75 14 3cw 15;1 14 3cy 15;1 14 3cz 15;1 14 3d1 15;1 14 3d2 15;1 14 3d3 15;1 14 3d5 15",
  "1 14 3d7 15;1 14 3d8 15;1 14 3da 15;1 14 3db 15;1 14 3dc 15;1 14 3dd 15;1 14 3de 15",
  "1 14 xz4 15;1 14 yvs 15;1 14 zc4 15;1 14 108s 15;1 14 10p4 15;1 14 115g 15;1 14 1224 15",
  "1 14 12ys 15;1 14 13f4 15;1 14 14bs 15;1 14 14s4 15;1 14 158g 15;1 14 15os 15;1 14 1654 15",
  "1 14 13p8 15;1 14 1350 13ic 15;1 14 1350 16f8 15;2 14 feo 15;1 14 fik 15;1 14 fex 15",
  "1 14 h5n 15;1 14 fis 15;1 14 g31 15;1 14 fer 15;1 14 g2z 15;1 14 fh9 15;1 14 gg1 15",
  "1 14 kco 15;1 14 m7f 15;1 14 ldg 15;1 14 kdk 15;1 14 ssx 15;1 14 h7j 15;1 14 k4l 15",
  "1 14 kkq 15;1 14 kcp 15;1 14 ny6 15;1 14 glp 15;1 14 mm1 15;1 14 rs1 15;1 14 nz1 15",
  "1 14 gc4 15;1 14 fkz 15;1 14 gos 15;1 14 i1y 15;1 14 nhf 15;1 14 flt 15;1 14 rt3 15",
  "1 14 ggk 15;1 14 nzh 15;1 14 fm9 15;1 14 pnu 15;1 14 po3 15;d 34 38 2t;1 1e 1d;1 1e 1e",
  "1 1e 1f;1 1e 1g;1 1e 1h;1 1e 1i;1 1e 1j;1 1e 1k;1 1e 1l;1 1f 1c;1 1f 1d;1 1f 1e;1 1f 1f",
  "1 1f 1g;1 1f 1h;t 14c8 y5c;1 13p8 13dk;1g 1f 1i;1 1f 1j;1 1f 1k;1 1f 1l;1 1g 1c;1 1g 1d",
  "1 1g 1e;1 1g 1f;1 1g 1g;1 1g 1h;1 1g 1i;1 1g 1j;1 1g 1k;1 1g 1l;1 1h 1c;1 1d kco;1 1e kco",
  "1 1f kco;1 1g kco;1 1h kco;1 1i kco;1 1j kco;1 1k kco;1 1l kco;1 1d 1c kco;1 1d 1d kco",
  "1 1d 1e kco;1 2w 2v;1 2t 36 2v;1 2t 3a;1 30 38 2s;1c fl0 gp8;1 9lu 9n5 9oc 9mw",
  "1 9lu 9nv 9n9 9lt;1 9lu 9o3 9ne 9lu;1 9lu 9oc 9nv;1 9lw 9mz 9o3 9m8;1 9lw 9o3 9mp",
  "1 9ly 9m1 9o3;1 9m0 9mh 9m7 9oc 9mx;1 9m0 9oc 9m3 9oc;1 9m2 9o3 9mh;1 9m2 9oc 9nk",
  "1 9m3 9lw 9nu;1 9m3 9nt 9mr 9mw;1 9m3 9nx 9nu 9oc;1 9m4 9nx 9o3;1 9m4 9o3 9ni;1 9m6 9m4",
  "1 9m6 9mz 9oc;1 9m5 9np 9nu 9oc;1 9m6 9nv 9mo 9oc;1 9m5 9nx;1 9m5 9nx 9m8 9nt 9nk",
  "1 9m5 9nx 9nl 9oc 9mw 9nv;1 9m5 9nx 9nz 9mr 9mw;1 9m8 9nt 9nk;1 9m8 9nt 9nk 9mw 9o3",
  "1 9m7 9nv 9mk 9lw 9nx;1 9m7 9nx 9oc 9n1;1 9m9 9oc 9mh;1 9mb 9nv 9my;1 9mb 9oc 9nh",
  "1 9md 9lw 9m7 9nv;1 9md 9o3 9mp 9oc 9nk;1 9mf 9nu 9o3 9m8;1 9mj 9o3 9mp;1 9mj 9o3 9mw",
  "1 9mo 9oc 9mh;1 9mv 9mf;1 9mx 9nv;1 9mw 9o3;1 9my 9n2;1 9n2 9mr 9mw;1 9n3 9lw 9ms",
  "1 9n5 9oc 9mj 9o3 9mw;1 9n5 9oc 9ms;1 9n4 9oc 9nw 9nv;1 9n8 9lu 9mh 9mw 9nv;1 9n8 9m7 9nv",
  "1 9n8 9mb;1 9n7 9nv;1 9n9 9lt 9nt 9mr 9mx;1 9n9 9lv 9oc 9mw;1 9na 9mr 9mf 9lz 9nv",
  "1 9n9 9nt 9o3;1 9nc 9m7 9mn 9oc 9nv;1 9ne 9ml;1 9ne 9mz 9n6;1 9nc 9nv 9ms;1 9ne 9o3 9mh",
  "1 9ne 9oc 9mg;1 9nd 9oc 9mn;1 9nh 9lw 9o3 9mw;1 9ng 9nv 9mw;1 9nf 9o3;1 9nh 9o3 9mx",
  "1 9nf 9oc 9nv;1 9nf 9oc 9o3;1 9ni 9lw 9m7 9nx;1 9ni 9lw 9nv;1 9ni 9mr 9n3;1 9ni 9nv 9m7",
  "1 9ni 9o3 9mf 9nr 9o3;1 9nj 9m7 9nx 9o3;1 9nj 9nu;1 9nj 9nu 9n4 9oc 9nv;1 9nl 9m4",
  "1 9nl 9m4 9mw 9o3;1 9nl 9oc 9mw 9nv;1 9no 9oc 9mx;1 9no 9oc 9nv;1 9nq 9lu 9o3",
  "1 9nu 9mr 9mw 9nv;1 9nu 9nt;1 9nv 9n8 9oc;1 9nv 9oc 9na 9nv;1 9nw 9nk;1 9nw 9o3 9mw 9ma 9o3",
  "1 9nz 9mr 9mw;1 1c m9l;1 1d m9l;1 1e m9l;1 1f m9l;1 1g m9l;1 1h m9l;1 1i m9l;1 1j m9l",
  "1 1k m9l;1 1l m9l;1 1d 1c m9l;1 1d 1d m9l;1 1d 1e m9l;1 1d 1f m9l;1 1d 1g m9l;1 1d 1h m9l",
  "1 1d 1i m9l;1 1d 1j m9l;1 1d 1k m9l;1 1d 1l m9l;1 1e 1c m9l;1 1e 1d m9l;1 1e 1e m9l",
  "1 1e 1f m9l;1 1e 1g m9l;1 2w 34 2p;1 2s 2p;1 2p 39;1 2q 2p 36;1 33 3a;1 34 2r;1 2s 31",
  "1 2s 31 1e;1 2s 31 1f;1 2x 39;1 inn jdc;1 k6l gp8;1 hlz l7n;1 k5q lh7;1 kkq irz fmi ny6",
  "1 34 2p;1 32 2p;1 qk 2p;1 31 2p;1 2z 2p;1 2z 2q;1 31 2q;1 2v 2q;1 2r 2p 30;1 2z 2r 2p 30",
  "1 34 2u;1 32 2u;1 qk 2u;1 qk 2v;1 31 2v;1 2z 2v;1 2w 3e;1 2z 2w 3e;1 31 2w 3e;1 2v 2w 3e",
  "1 38 2w 3e;1 qk 30;1 31 30;1 2s 30;1 2z 30;1 2u 31;1 32 31;1 qk 31;1 31 31;1 2r 31;1 2z 31",
  "1 31 31 1e;1 2r 31 1e;1 31 1e;1 2z 31 1e;1 31 31 1f;1 2r 31 1f;1 31 1f;1 2z 31 1f",
  "1 31 6qd 37;1 31 6qd 37 1e;1 34 2p;1 2z 34 2p;1 31 34 2p;1 2v 34 2p;1 36 2p 2s",
  "1 36 2p 2s 6qd 37;1 36 2p 2s 6qd 37 1e;1 34 37;1 32 37;1 qk 37;1 31 37;1 34 3a;1 32 3a",
  "1 qk 3a;1 31 3a;1 2z 3a;1 31 3a;1 34 3b;1 32 3b;1 qk 3b;1 31 3b;1 2z 3b;1 31 3b;1 2z qx",
  "1 31 qx;2 2q 35;1 2r 2r;1 2r 2s;1 2r 6qd 2z 2v;2 2s 2q;1 2v 3d;1 2w 2p;1 2w 34;1 2x 32",
  "1 2z 2z;1 2z 31;1 2z 38;1 30 31;1 30 32;1 30 33 2v;1 30 3c;1 31 2q;1 31 2x 30;1 31 33 30",
  "1 34 2w;2 34 34 31;1 34 36;1 37 36;1 37 3a;1 3b 2q;1 3a 6qd 31;1 2p 6qd 31;1 1d k4l;1 1e k4l",
  "1 1f k4l;1 1g k4l;1 1h k4l;1 1i k4l;1 1j k4l;1 1k k4l;1 1l k4l;1 1d 1c k4l;1 1d 1d k4l",
  "1 1d 1e k4l;1 1d 1f k4l;1 1d 1g k4l;1 1d 1h k4l;1 1d 1i k4l;1 1d 1j k4l;1 1d 1k k4l",
  "1 1d 1l k4l;1 1e 1c k4l;1 1e 1d k4l;1 1e 1e k4l;1 1e 1f k4l;1 1e 1g k4l;1 1e 1h k4l",
  "1 1e 1i k4l;1 1e 1j k4l;1 1e 1k k4l;1 1e 1l k4l;1 1f 1c k4l;1 1f 1d k4l;1 2v 2p 30",
  "13b5 2u 2u;1 2u 2x;1 2u 30;1 2u 2u 2x;1 2u 2u 30;1 37 38;1 37 38;d 12s 12u;1 12s 12d",
  "1 12s 12j;1 132 12u;1 12s 12l;1k 15c 15o;3y 1c7 19w;d 17q 17r;1 17q 17r;1 17q 1cl;1 17q 1cl",
  "1 17q 18o;1 17q 18o;1 17q 1c7;1 17q 1c7;1 17q 1c6;1 17q 1c6;1 17q 1c8;1 17q 1c8;1 17q 1cg",
  "1 17q 1cg;1 17q 1cg;1 17q 18p;1 17q 18p;1 17q 18p;5 17q 17w;1 17q 17x;1 17q 18l;1 17q 18p",
  "1 17q 18q;1 17s 17w;1 17s 17x;1 17s 17y;1 17s 18l;1 17s 18p;1 17s 18q;1 17u 17w;1 17u 17x",
  "1 17u 17y;1 17u 18l;1 17u 18p;1 17u 18q;1 17v 17w;1 17v 18l;1 17v 18p;1 17v 18q;1 17w 17x",
  "1 17w 18l;1 17x 17w;1 17x 18l;1 17y 17w;1 17y 17x;1 17y 18l;1 183 17w;1 183 17x;1 183 17y",
  "1 183 18l;1 185 17x;1 185 18l;1 186 17w;1 186 17x;1 186 17y;1 186 18l;1 187 17x;1 187 18l",
  "1 188 18l;1 189 17w;1 189 18l;1 18a 17w;1 18a 18l;1 18h 17w;1 18h 17x;1 18h 17y;1 18h 18l",
  "1 18h 18p;1 18h 18q;1 18i 17x;1 18i 18l;1 18i 18p;1 18i 18q;1 18j 17r;1 18j 17w;1 18j 17x",
  "1 18j 17y;1 18j 18k;1 18j 18l;1 18j 18p;1 18j 18q;1 18k 17w;1 18k 17x;1 18k 17y;1 18k 18l",
  "1 18k 18p;1 18k 18q;1 18l 17w;1 18l 17x;1 18l 17y;1 18l 18l;1 18l 18p;1 18l 18q;1 18m 17w",
  "1 18m 17x;1 18m 17y;1 18m 18l;1 18m 18p;1 18m 18q;1 18n 17w;1 18n 18l;1 18n 18p;1 18n 18q",
  "1 18q 17w;1 18q 17x;1 18q 17y;1 18q 18l;1 18q 18p;1 18q 18q;1 180 19s;1 181 19s;1 18p 19s",
  "1 w 18s 18x;1 w 18t 18x;1 w 18u 18x;1 w 18v 18x;1 w 18w 18x;1 w 18x 19s;1 17q 181;1 17q 182",
  "1 17q 18l;1 17q 18m;1 17q 18p;1 17q 18q;1 17s 181;1 17s 182;1 17s 18l;1 17s 18m;1 17s 18p",
  "1 17s 18q;1 17u 181;1 17u 182;1 17u 18l;1 17u 18m;1 17u 18p;1 17u 18q;1 17v 181;1 17v 182",
  "1 17v 18l;1 17v 18m;1 17v 18p;1 17v 18q;1 18h 18p;1 18h 18q;1 18i 18p;1 18i 18q;1 18j 17r",
  "1 18j 18k;1 18j 18l;1 18j 18p;1 18j 18q;1 18k 18l;1 18k 18p;1 18k 18q;1 18l 17r;1 18l 18l",
  "1 18m 181;1 18m 182;1 18m 18l;1 18m 18m;1 18m 18p;1 18m 18q;1 18p 19s;1 18q 181;1 18q 182",
  "1 18q 18l;1 18q 18m;1 18q 18p;1 18q 18q;1 17q 17w;1 17q 17x;1 17q 17y;1 17q 18l;1 17q 18n",
  "1 17s 17w;1 17s 17x;1 17s 17y;1 17s 18l;1 17s 18n;1 17u 17w;1 17u 17x;1 17u 17y;1 17u 18l",
  "1 17u 18n;1 17v 18l;1 17w 17x;1 17w 18l;1 17x 17w;1 17x 18l;1 17y 17w;1 17y 18l;1 183 17w",
  "1 183 17x;1 183 17y;1 183 18l;1 185 17x;1 185 17y;1 185 18l;1 186 17w;1 186 17x;1 186 17y",
  "1 186 18l;1 187 17x;1 188 18l;1 189 17w;1 189 18l;1 18a 17w;1 18a 18l;1 18h 17w;1 18h 17x",
  "1 18h 17y;1 18h 18l;1 18i 17x;1 18i 18l;1 18j 17w;1 18j 17x;1 18j 17y;1 18j 18k;1 18j 18l",
  "1 18k 17w;1 18k 17x;1 18k 17y;1 18k 18l;1 18k 18n;1 18l 17w;1 18l 17x;1 18l 17y;1 18l 18l",
  "1 18m 17w;1 18m 17x;1 18m 17y;1 18m 18l;1 18m 18n;1 18n 17w;1 18n 18l;1 18n 19s;1 18q 17w",
  "1 18q 17x;1 18q 17y;1 18q 18l;1 18q 18n;1 17q 18l;1 17q 18n;1 17s 18l;1 17s 18n;1 17u 18l",
  "1 17u 18n;1 17v 18l;1 17v 18n;1 183 18l;1 183 18n;1 184 18l;1 184 18n;1 18j 18k;1 18j 18l",
  "1 18k 18l;1 18m 18l;1 18m 18n;1 18q 18l;1 18q 18n;1 18g 18u 18x;1 18g 18v 18x;1 18g 18w 18x",
  "1 187 18p;1 187 18q;1 189 18p;1 189 18q;1 18a 18p;1 18a 18q;1 183 18p;1 183 18q;1 184 18p",
  "1 184 18q;1 17x 18p;1 17x 18q;1 17w 18p;1 17w 18q;1 17y 18p;1 17y 18q;1 185 18p;1 185 18q",
  "1 186 18p;1 186 18q;1 184 17w;1 184 17x;1 184 17y;1 184 18l;1 184 181;1 183 181;1 185 181",
  "1 186 181;1 187 18p;1 187 18q;1 189 18p;1 189 18q;1 18a 18p;1 18a 18q;1 183 18p;1 183 18q",
  "1 184 18p;1 184 18q;1 17x 18p;1 17x 18q;1 17w 18p;1 17w 18q;1 17y 18p;1 17y 18q;1 185 18p",
  "1 185 18q;1 186 18p;1 186 18q;1 184 17w;1 184 17x;1 184 17y;1 184 18l;1 184 181;1 183 181",
  "1 185 181;1 186 181;1 184 17w;1 184 17x;1 184 17y;1 184 18l;1 183 18n;1 184 18n;1 187 18l",
  "1 183 17w;1 183 17x;1 183 17y;1 184 17w;1 184 17x;1 184 17y;1 187 18l;1 188 18l;1 17r 18r",
  "1 17r 18r;j 17u 17w 18l;1 17u 17x 17w;1 17u 17x 17w;1 17u 17x 18l;1 17u 17y 18l",
  "1 17u 18l 17w;1 17u 18l 17x;1 17u 18l 17y;1 17w 18l 17x;1 17w 18l 17x;1 17x 18l 18q",
  "1 17x 18l 18p;1 183 17x 17w;1 183 17w 17x;1 183 17w 18p;1 183 18l 17x;1 183 18l 17x",
  "1 183 18l 17w;1 183 18l 18l;1 183 18l 18l;1 185 17x 17x;1 185 17x 17x;1 185 18l 18l",
  "1 184 17x 18l;1 184 17x 18l;1 184 17w 18q;1 184 18l 17y;1 184 18l 17y;1 184 18l 18l",
  "1 184 18l 18l;1 186 17x 18p;1 186 17y 18l;1 186 17y 18l;1 187 18l 17x;1 187 18l 17x",
  "1 187 18l 18l;1 187 18l 18q;1 189 17w 18l;1 189 18l 18l;1 189 18l 18l;1 189 18l 18p",
  "1 18a 18l 18l;1 18a 18l 18q;1 18a 18l 18p;1 18h 17y 18l;1 18h 17y 18l;1 18i 18l 17x",
  "1 18i 18l 18l;1 18k 17x 18l;1 18k 17x 18q;1 18k 17x 18p;1 18k 17w 17w;1 18k 17w 17w",
  "1 18k 17y 18l;1 18k 17y 18l;1 18k 18l 17x;1 18k 18l 17x;1 18l 17x 17w;1 18l 17x 18l",
  "1 18l 17x 18q;1 18l 17w 17x;1 18l 17w 18l;1 18l 17y 17w;1 18l 17y 18l;3 18l 17w 17y",
  "1 18n 18l 17w;1 18n 18l 18l;1 18m 17x 18l;1 18m 17x 18p;1 18m 17w 18l;1 18m 17w 18l",
  "1 18m 17w 18p;1 18m 18l 18q;1 18m 18l 18p;1 18q 18l 18l;1 18q 18l 18l;1 17s 17y 18q",
  "1 17u 17w 18q;1 17u 17w 18p;1 17u 17y 18q;1 17u 17y 18p;1 17u 18l 18q;1 17u 18l 18p",
  "1 17w 18l 18q;1 17w 17x 18p;1 17w 18l 18p;1 183 17y 18p;1 185 17x 18q;1 184 17x 18q",
  "1 186 17x 18q;1 18k 17w 18q;1 18k 18l 18q;1 18q 17x 18q;1 18q 17w 18q;1 18q 18l 18q",
  "1 18l 18l 18q;1 18i 18l 18q;1 18m 17x 18q;1 18i 18l 17x;1 18k 17x 18l;1 189 18l 18q",
  "1 18j 18l 18q;1 18m 17w 17x;1 18l 17y 18q;1 18k 17w 18l;1 18j 18l 18l;1 18k 17w 18l",
  "1 18m 17w 17x;1 17w 17x 18q;1 17x 17w 18q;1 18l 17w 18q;1 18h 18l 18q;1 17s 17x 18q",
  "1 18j 18l 18l;1 189 17w 18l;1 185 18l 18l;1 183 17y 18q;1 18m 17w 18q;15 185 18k 1ci",
  "1 18i 18k 1ci;1 17r 18k 18k 18n;1 17r 18j 17s 181;1 18l 17x 18l 17z;1 185 18k 189 18l",
  "1 181 183 18o 18k;1 189 18k 18q 18n;1 18o 183 18k 18l;1 185 18k 18p",
  "1 185 18k 18p w 17r 18k 18k 18n w 189 18k 18q 18n w 18o 183 18k 18l",
  "1 17w 18k w 17w 18k 17r 18k 18n;1 181 1cc 17r 18k;25 w lh;1 w lh;1 w lh;1 w lh;10 w 18r",
  "1 18g 18r;1 w 18s;2 w 18t;2 w 18u;1 18g 18u;1 w 18v;1 18g 18v;1 w 18w;1 18g 18w;1 w 18x",
  "1 18g 18x;1 w 18y;1 18g 18y;3a 18k 17m;1 18k 17m;1 18k 17n;1 18k 17n;1 18k 17p;1 18k 17p",
  "1 18k 17r;1 18k 17r;6f w lg;1bmm 1c 18;1 1d 18;1 1e 18;1 1f 18;1 1g 18;1 1h 18;1 1i 18",
  "1 1j 18;1 1k 18;1 1l 18;6 14 2p 15;1 14 2q 15;1 14 2r 15;1 14 2s 15;1 14 2t 15;1 14 2u 15",
  "1 14 2v 15;1 14 2w 15;1 14 2x 15;1 14 2y 15;1 14 2z 15;1 14 30 15;1 14 31 15;1 14 32 15",
  "1 14 33 15;1 14 34 15;1 14 35 15;1 14 36 15;1 14 37 15;1 14 38 15;1 14 39 15;1 14 3a 15",
  "1 14 3b 15;1 14 3c 15;1 14 3d 15;1 14 3e 15;1 9hw 37 9hx;3 2r 2s;1 3b 3e;s 2w 3a;1 31 3a",
  "1 37 2s;1 37 37;1 34 34 3a;1 3b 2r;r 31 2r;1 31 2s;1 31 36;10 2s 2y;34 9kr 9jf;1 9mb 9mb",
  "1r 9hw kdo 9hx;1 9hw fex 9hx;1 9hw fik 9hx;1 9hw i2x 9hx;1 9hw m9l 9hx;1 9hw jf7 9hx",
  "1 9hw nh3 9hx;1 9hw gd9 9hx;1 9hw k0n 9hx"]

def disallowed : Ranges := Text.Packed.ranges packedDisallowed

def ignored : Ranges := Text.Packed.ranges packedIgnored

structure Shift where
  first : Nat
  target : Nat
  extent : Nat
  step : Nat
  targetStep : Nat

namespace Shift

def ofEntry (entry : Nat × List Nat) : Shift :=
  let nth (i default : Nat) := (entry.2.drop i).headD default
  ⟨entry.1, nth 0 0, nth 1 0, nth 2 1, nth 3 1⟩

def contains (s : Shift) (c : Char) : Bool :=
  s.first ≤ c.toNat && c.toNat ≤ s.first + s.extent * s.step &&
    (c.toNat - s.first) % s.step == 0

def apply (s : Shift) (c : Char) : Char :=
  Char.ofNat (s.target + (c.toNat - s.first) / s.step * s.targetStep)

end Shift

def shifts : List Shift := (Text.Packed.keyed packedShifts).map Shift.ofEntry

def expansions : List (Nat × List Nat) := Text.Packed.keyed packedExpansions

/-- The characters that `c` is mapped to, if it may stand in a domain name. What comes of
composing characters is left to that. -/
def mapChar? (c : Char) : Option (List Char) :=
  if disallowed.contains c then none
  else if ignored.contains c then some []
  else match shifts.find? (·.contains c) with
    | some s => some [s.apply c]
    | none => some ((Text.Packed.behind? expansions c).getD [c])

def map? (cs : List Char) : Option (List Char) := (cs.mapM mapChar?).map List.flatten

def isFixed (c : Char) : Bool := mapChar? c == some [c]

end Quarry.Domain
