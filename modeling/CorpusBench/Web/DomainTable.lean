import CorpusBench.Text.CodeSet

/-!
# The domain-name mapping table

Before a domain name is checked, each of its code points is mapped as the Unicode table for
internationalized domain names (version 17) says.

* **Refused** code points make the name invalid: private-use code points, surrogates,
  noncharacters, unassigned default-ignorable code points, unassigned code points on planes 4
  and above, most controls and format characters, and characters such as `⒈` whose mapped form
  would hold a full stop.
* **Mapped** code points are replaced by a text: capitals by their case-folded form,
  compatibility characters by their compatibility decomposition (`①` by `1`, full-width `Ａ` by
  `a`), the ideographic full stops by `.`; **ignored** ones, such as the soft hyphen and the
  variation selectors, by nothing.
* All other code points are **valid** and stay.  The sharp s, the final sigma and the two
  joiners are valid too: they are kept, not mapped.

Later versions of the table assign code points that version 17 leaves unassigned.  So that a
name using one of them is not refused, the other code points unassigned in version 17 (those on
planes 0 to 3, where new characters are placed) are taken as valid, as a later version takes
most of the characters it assigns; the two holes of the Greek block, U+0378 and U+0379, stay
refused, as the later table leaves them unassigned.

## Main definitions

* `Domain.refusedSet`, `Domain.mapping`.
-/

namespace CorpusBench

namespace Domain

/-- The code points a domain name may not hold. -/
def refusedSet : CodeSet := CodeSet.ofText
  (String.join
    ["80 20 2d8 2 286 6 16 1 c0 1 31 1 180 2 50 1 d9d 1 98d 2 14 3 1 7 36 5 41e 14 b54 10 1ef 1 ",
     "1d2 1 4 1 10 1 a427 2100 4d0 20 22 1 6 1 16 1 21 1 19d 10 10bd 1 f 1 2362 10 bcc0 1 efd 2 ",
     "fffe 2 fffe a0102 f0 2fe10"])

/-- The mapped and ignored code points, with the text each becomes. -/
def mapping : CodeMap := CodeMap.ofText
  (String.join
    ["41 1a 1 +20,5f 1 1 -80,8 1 1 = 20 308,2 1 1 -49,3 1 1 =,2 1 1 = 20 304,3 2 1 -80,2 1 1 = 20 ",
     "301,1 1 1 +307,3 1 1 = 20 327,1 1 1 -88,1 1 1 -4b,2 1 1 = 31 2044 34,1 1 1 = 31 2044 32,1 1 ",
     "1 = 33 2044 34,2 17 1 +20,18 7 1 +20,28 18 2 +1,30 1 1 = 69 307,2 2 1 = 69 6a,2 2 2 +1,5 3 ",
     "2 +1,6 2 1 = 6c b7,2 4 2 +1,8 1 1 = 2bc 6e,1 17 2 +1,2e 1 1 -79,1 3 2 +1,6 1 1 -10c,2 1 1 ",
     "+d2,1 2 2 +1,4 1 1 +ce,1 1 1 +1,2 2 1 +cd,2 1 1 +1,3 1 1 +4f,1 1 1 +ca,1 1 1 +cb,1 1 1 +1,2 ",
     "1 1 +cd,1 1 1 +cf,2 1 1 +d3,1 1 1 +d1,1 1 1 +1,4 1 1 +d3,1 1 1 +d5,2 1 1 +d6,1 3 2 +1,6 1 1 ",
     "+da,1 1 1 +1,2 1 1 +da,3 1 1 +1,2 1 1 +da,1 1 1 +1,2 2 1 +d9,2 2 2 +1,4 1 1 +db,1 1 1 +1,4 ",
     "1 1 +1,8 3 1 = 64 17e,3 3 1 = 6c 6a,3 3 1 = 6e 6a,3 8 2 +1,11 9 2 +1,13 3 1 = 64 7a,3 1 1 ",
     "+1,2 1 1 -61,1 1 1 -38,1 14 2 +1,28 1 1 -82,2 9 2 +1,18 1 1 +2a2b,1 1 1 +1,2 1 1 -a3,1 1 1 ",
     "+2a28,3 1 1 +1,2 1 1 -c3,1 1 1 +45,1 1 1 +47,1 5 2 +1,6a 1 1 -248,1 1 1 -4b,1 1 1 -248,1 1 ",
     "1 -241,1 1 1 -3b,1 1 1 -3a,1 1 1 -35,1 1 1 -240,1 1 1 -23f,20 1 1 = 20 306,1 1 1 = 20 307,1 ",
     "1 1 = 20 30a,1 1 1 = 20 328,1 1 1 = 20 303,1 1 1 = 20 30b,3 1 1 -7d,1 1 1 -275,1 1 1 -26f,1 ",
     "1 1 -26b,1 1 1 -4f,5c 2 1 -40,3 1 1 -30,1 1 1 = 308 301,1 1 1 +74,a 1 1 =,21 2 2 +1,4 1 1 ",
     "-bb,2 1 1 +1,4 1 1 = 20 3b9,4 1 1 -343,1 1 1 +74,5 1 1 = 20 301,1 1 1 = 20 308 301,1 1 1 ",
     "+26,1 1 1 -2d0,1 3 1 +25,4 1 1 +40,2 2 1 +3f,3 11 1 +20,12 9 1 +20,2c 1 1 +8,1 1 1 -1e,1 1 ",
     "1 -19,1 1 1 -d,1 1 1 -6,1 1 1 -9,1 1 1 -f,1 1 1 -16,2 c 2 +1,18 1 1 -36,1 1 1 -30,1 1 1 ",
     "-2f,2 1 1 -3c,1 1 1 -40,2 1 1 +1,2 1 1 -36,1 1 1 +1,3 3 1 -82,3 10 1 +50,10 20 1 +20,50 11 ",
     "2 +1,2a 1b 2 +1,36 1 1 +f,1 7 2 +1,f 30 2 +1,61 26 1 +30,56 1 1 = 565 582,ee 1 1 = 627 ",
     "674,1 1 1 = 648 674,1 1 1 = 6c7 674,1 1 1 = 64a 674,2e0 1 1 = 915 93c,1 1 1 = 916 93c,1 1 1 ",
     "= 917 93c,1 1 1 = 91c 93c,1 1 1 = 921 93c,1 1 1 = 922 93c,1 1 1 = 92b 93c,1 1 1 = 92f ",
     "93c,7d 1 1 = 9a1 9bc,1 1 1 = 9a2 9bc,2 1 1 = 9af 9bc,54 1 1 = a32 a3c,3 1 1 = a38 a3c,23 1 ",
     "1 = a16 a3c,1 1 1 = a17 a3c,1 1 1 = a1c a3c,3 1 1 = a2b a3c,fe 1 1 = b21 b3c,1 1 1 = b22 ",
     "b3c,2d6 1 1 = e4d e32,80 1 1 = ecd eb2,29 1 1 = eab e99,1 1 1 = eab ea1,2f 1 1 -1,37 1 1 = ",
     "f42 fb7,a 1 1 = f4c fb7,5 1 1 = f51 fb7,5 1 1 = f56 fb7,5 1 1 = f5b fb7,d 1 1 = f40 fb5,a 1 ",
     "1 = f71 f72,2 1 1 = f71 f74,1 1 1 = fb2 f80,1 1 1 = fb2 f71 f80,1 1 1 = fb3 f80,1 1 1 = fb3 ",
     "f71 f80,8 1 1 = f71 f80,12 1 1 = f92 fb7,a 1 1 = f9c fb7,5 1 1 = fa1 fb7,5 1 1 = fa6 fb7,5 ",
     "1 1 = fab fb7,d 1 1 = f90 fb5,e7 26 1 +1c60,27 1 1 +1c60,6 1 1 +1c60,2f 1 1 -20,63 2 1 ",
     "=,299 6 1 -8,3bc 2 1 =,57 5 1 =,475 1 1 -184e,1 1 1 -184d,1 1 1 -1844,1 2 1 -1842,2 1 1 ",
     "-1843,1 1 1 -183c,1 1 1 -1824,1 1 1 +89c3,1 1 1 +1,7 2b 1 -bc0,2d 3 1 -bc0,6f 1 1 -1ccb,1 1 ",
     "1 -1c47,1 2 2 -1ccc,3 1 1 -1ccc,1 1 1 -1b55,1 8 1 -1ccc,9 1 1 -1ccd,1 1 1 -1b1a,1 1 1 ",
     "-1cce,1 1 1 -1ccd,1 2 1 -1ccc,2 1 1 -1ccb,1 1 1 -1ce2,1 2 1 -1af4,2 1 1 -44,1 1 1 -1ce5,1 2 ",
     "1 -1ce4,2 1 1 -1af1,1 2 1 -1af0,2 1 1 -1ce6,2 1 1 -1ce4,1 1 1 -1ce3,1 1 1 -1c06,1 1 1 ",
     "-1ce3,1 1 1 -1aff,1 2 1 -3e,2 1 1 -1ce6,1 2 1 -1ce3,2 1 1 -3c,1 1 1 -1aeb,1 1 1 -1ce5,1 1 1 ",
     "-37,1 3 1 -19ab,3 2 1 -199a,2 1 1 -1cf9,1 1 1 -1cf1,1 2 1 -1cef,2 2 1 -19b4,2 1 1 -19a7,1 2 ",
     "1 -19a3,f 1 1 -193b,23 1 1 -1b49,1 1 1 -1d39,1 1 1 -1b48,1 1 1 -1cae,1 1 1 -1b43,1 1 1 ",
     "-1d3a,1 1 1 -1b42,1 1 1 -1b41,1 1 1 -1b3e,1 3 1 -1b3c,3 1 1 -2c,1 1 1 -1b0b,1 1 1 -1b3c,1 1 ",
     "1 -25,1 1 1 -1b0c,1 1 1 -1b3b,1 1 1 -1b3d,1 4 1 -1b3c,4 1 1 -1b3a,1 2 1 -1b31,2 1 1 -1c0a,1 ",
     "2 1 -1b2d,2 1 1 -9c,1 2 1 -1b2e,2 1 1 -1d41,1 3 1 -1b2c,3 1 1 -1a07,41 4b 2 +1,9a 1 1 = 61 ",
     "2be,1 1 1 -3a,3 1 1 -1dbf,2 30 2 +1,68 8 1 -8,10 6 1 -8,10 8 1 -8,10 8 1 -8,10 6 1 -8,11 4 ",
     "2 -8,f 8 1 -8,9 1 1 -1bc5,2 1 1 -1bc6,2 1 1 -1bc7,2 1 1 -1bc8,2 1 1 -1bad,2 1 1 -1bae,2 1 1 ",
     "-1baf,3 1 1 = 1f00 3b9,1 1 1 = 1f01 3b9,1 1 1 = 1f02 3b9,1 1 1 = 1f03 3b9,1 1 1 = 1f04 ",
     "3b9,1 1 1 = 1f05 3b9,1 1 1 = 1f06 3b9,1 1 1 = 1f07 3b9,1 1 1 = 1f00 3b9,1 1 1 = 1f01 3b9,1 ",
     "1 1 = 1f02 3b9,1 1 1 = 1f03 3b9,1 1 1 = 1f04 3b9,1 1 1 = 1f05 3b9,1 1 1 = 1f06 3b9,1 1 1 = ",
     "1f07 3b9,1 1 1 = 1f20 3b9,1 1 1 = 1f21 3b9,1 1 1 = 1f22 3b9,1 1 1 = 1f23 3b9,1 1 1 = 1f24 ",
     "3b9,1 1 1 = 1f25 3b9,1 1 1 = 1f26 3b9,1 1 1 = 1f27 3b9,1 1 1 = 1f20 3b9,1 1 1 = 1f21 3b9,1 ",
     "1 1 = 1f22 3b9,1 1 1 = 1f23 3b9,1 1 1 = 1f24 3b9,1 1 1 = 1f25 3b9,1 1 1 = 1f26 3b9,1 1 1 = ",
     "1f27 3b9,1 1 1 = 1f60 3b9,1 1 1 = 1f61 3b9,1 1 1 = 1f62 3b9,1 1 1 = 1f63 3b9,1 1 1 = 1f64 ",
     "3b9,1 1 1 = 1f65 3b9,1 1 1 = 1f66 3b9,1 1 1 = 1f67 3b9,1 1 1 = 1f60 3b9,1 1 1 = 1f61 3b9,1 ",
     "1 1 = 1f62 3b9,1 1 1 = 1f63 3b9,1 1 1 = 1f64 3b9,1 1 1 = 1f65 3b9,1 1 1 = 1f66 3b9,1 1 1 = ",
     "1f67 3b9,3 1 1 = 1f70 3b9,1 1 1 = 3b1 3b9,1 1 1 = 3ac 3b9,3 1 1 = 1fb6 3b9,1 2 1 -8,2 1 1 ",
     "-4a,1 1 1 -1c0f,1 1 1 = 3b1 3b9,1 1 1 = 20 313,1 1 1 -1c05,1 1 1 = 20 313,1 1 1 = 20 342,1 ",
     "1 1 = 20 308 342,1 1 1 = 1f74 3b9,1 1 1 = 3b7 3b9,1 1 1 = 3ae 3b9,3 1 1 = 1fc6 3b9,1 1 1 ",
     "-56,1 1 1 -1c1c,1 1 1 -56,1 1 1 -1c1d,1 1 1 = 3b7 3b9,1 1 1 = 20 313 300,1 1 1 = 20 313 ",
     "301,1 1 1 = 20 313 342,4 1 1 -1c43,5 2 1 -8,2 1 1 -64,1 1 1 -1c2c,2 1 1 = 20 314 300,1 1 1 ",
     "= 20 314 301,1 1 1 = 20 314 342,4 1 1 -1c33,5 2 1 -8,2 1 1 -70,1 1 1 -1c1e,1 1 1 -7,1 1 1 = ",
     "20 308 300,1 1 1 = 20 308 301,1 1 1 -1f8f,3 1 1 = 1f7c 3b9,1 1 1 = 3c9 3b9,1 1 1 = 3ce ",
     "3b9,3 1 1 = 1ff6 3b9,1 1 1 -80,1 1 1 -1c2d,1 1 1 -7e,1 1 1 -1c2d,1 1 1 = 3c9 3b9,1 1 1 = 20 ",
     "301,1 1 1 = 20 314,2 b 1 = 20,b 1 1 =,6 1 1 -1,6 1 1 = 20 333,18 1 1 -200f,4 1 1 = 2032 ",
     "2032,1 1 1 = 2032 2032 2032,2 1 1 = 2035 2035,1 1 1 = 2035 2035 2035,5 1 1 = 21 21,2 1 1 = ",
     "20 305,9 1 1 = 3f 3f,1 1 1 = 3f 21,1 1 1 = 21 3f,e 1 1 = 2032 2032 2032 2032,8 1 1 -203f,1 ",
     "5 1 =,a 6 1 =,6 1 1 -2040,1 1 1 -2008,3 6 1 -2040,6 1 1 -204f,1 1 1 +197,1 1 1 -203f,1 2 1 ",
     "-2055,2 1 1 -2011,1 a 1 -2050,a 1 1 -205f,1 1 1 +187,1 1 1 -204f,1 2 1 -2065,3 1 1 -202f,1 ",
     "1 1 -202c,1 1 1 -2023,1 1 1 -201b,1 1 1 -1e3b,1 1 1 -202d,1 4 1 -202b,4 1 1 -202a,1 2 1 ",
     "-2028,d 1 1 = 72 73,58 1 1 = 61 2f 63,1 1 1 = 61 2f 73,1 1 1 -209f,1 1 1 = b0 63,2 1 1 = 63 ",
     "2f 6f,1 1 1 = 63 2f 75,1 1 1 -1eac,2 1 1 = b0 66,1 2 1 -20a3,2 3 1 = 68,3 1 1 -1fe8,1 2 1 = ",
     "69,2 2 1 = 6c,3 1 1 -20a7,1 1 1 = 6e 6f,3 3 1 -20a9,3 2 1 = 72,4 1 1 = 73 6d,1 1 1 = 74 65 ",
     "6c,1 1 1 = 74 6d,2 1 1 -20aa,2 1 1 -1d5d,2 1 1 -20ae,2 1 1 -20bf,1 1 1 -2046,1 2 1 -20ca,3 ",
     "2 1 = 65,2 1 1 -20cb,1 1 1 +1c,1 1 1 -20c6,1 1 1 -20c5,1 4 1 -1b65,4 1 1 -20d0,2 1 1 = 66 ",
     "61 78,1 1 1 -1d7c,1 2 1 = 3b3,2 1 1 -1d7f,1 1 1 +d1,5 2 1 = 64,2 1 1 -20e2,1 2 1 -20df,8 1 ",
     "1 = 31 2044 37,1 1 1 = 31 2044 39,1 1 1 = 31 2044 31 30,1 1 1 = 31 2044 33,1 1 1 = 32 2044 ",
     "33,1 1 1 = 31 2044 35,1 1 1 = 32 2044 35,1 1 1 = 33 2044 35,1 1 1 = 34 2044 35,1 1 1 = 31 ",
     "2044 36,1 1 1 = 35 2044 36,1 1 1 = 31 2044 38,1 1 1 = 33 2044 38,1 1 1 = 35 2044 38,1 1 1 = ",
     "37 2044 38,1 1 1 = 31 2044,1 1 1 -20f7,1 1 1 = 69 69,1 1 1 = 69 69 69,1 1 1 = 69 76,1 1 1 ",
     "-20ee,1 1 1 = 76 69,1 1 1 = 76 69 69,1 1 1 = 76 69 69 69,1 1 1 = 69 78,1 1 1 -20f1,1 1 1 = ",
     "78 69,1 1 1 = 78 69 69,1 1 1 -2100,1 2 1 -210a,2 1 1 -2102,1 1 1 -2107,1 1 1 = 69 69,1 1 1 ",
     "= 69 69 69,1 1 1 = 69 76,1 1 1 -20fe,1 1 1 = 76 69,1 1 1 = 76 69 69,1 1 1 = 76 69 69 69,1 1 ",
     "1 = 69 78,1 1 1 -2101,1 1 1 = 78 69,1 1 1 = 78 69 69,1 1 1 -2110,1 2 1 -211a,2 1 1 -2112,4 ",
     "1 1 +1,6 1 1 = 30 2044 33,a3 1 1 = 222b 222b,1 1 1 = 222b 222b 222b,2 1 1 = 222e 222e,1 1 1 ",
     "= 222e 222e 222e,f9 2 1 +cdf,137 9 1 -242f,9 1 1 = 31 30,1 1 1 = 31 31,1 1 1 = 31 32,1 1 1 ",
     "= 31 33,1 1 1 = 31 34,1 1 1 = 31 35,1 1 1 = 31 36,1 1 1 = 31 37,1 1 1 = 31 38,1 1 1 = 31 ",
     "39,1 1 1 = 32 30,1 1 1 = 28 31 29,1 1 1 = 28 32 29,1 1 1 = 28 33 29,1 1 1 = 28 34 29,1 1 1 ",
     "= 28 35 29,1 1 1 = 28 36 29,1 1 1 = 28 37 29,1 1 1 = 28 38 29,1 1 1 = 28 39 29,1 1 1 = 28 ",
     "31 30 29,1 1 1 = 28 31 31 29,1 1 1 = 28 31 32 29,1 1 1 = 28 31 33 29,1 1 1 = 28 31 34 29,1 ",
     "1 1 = 28 31 35 29,1 1 1 = 28 31 36 29,1 1 1 = 28 31 37 29,1 1 1 = 28 31 38 29,1 1 1 = 28 31 ",
     "39 29,1 1 1 = 28 32 30 29,15 1 1 = 28 61 29,1 1 1 = 28 62 29,1 1 1 = 28 63 29,1 1 1 = 28 64 ",
     "29,1 1 1 = 28 65 29,1 1 1 = 28 66 29,1 1 1 = 28 67 29,1 1 1 = 28 68 29,1 1 1 = 28 69 29,1 1 ",
     "1 = 28 6a 29,1 1 1 = 28 6b 29,1 1 1 = 28 6c 29,1 1 1 = 28 6d 29,1 1 1 = 28 6e 29,1 1 1 = 28 ",
     "6f 29,1 1 1 = 28 70 29,1 1 1 = 28 71 29,1 1 1 = 28 72 29,1 1 1 = 28 73 29,1 1 1 = 28 74 ",
     "29,1 1 1 = 28 75 29,1 1 1 = 28 76 29,1 1 1 = 28 77 29,1 1 1 = 28 78 29,1 1 1 = 28 79 29,1 1 ",
     "1 = 28 7a 29,1 1a 1 -2455,1a 1a 1 -246f,1a 1 1 -24ba,522 1 1 = 222b 222b 222b 222b,68 1 1 = ",
     "3a 3a 3d,1 1 1 = 3d 3d,1 1 1 = 3d 3d 3d,66 1 1 = 2add 338,124 30 1 +30,60 1 1 +1,2 1 1 ",
     "-29f7,1 1 1 -ee6,1 1 1 -29e7,3 3 2 +1,6 1 1 -2a1c,1 1 1 -29fd,1 1 1 -2a1f,1 1 1 -2a1e,2 1 1 ",
     "+1,3 1 1 +1,7 1 1 -2c12,1 1 1 -2c07,1 2 1 -2a3f,2 32 2 +1,6b 2 2 +1,7 1 1 +1,7d 1 1 -e,130 ",
     "1 1 +3d2e,54 1 1 +70ac,d 1 1 +1f00,1 1 1 +1f27,1 1 1 +1f34,1 1 1 +1f3c,1 1 1 +1f55,1 1 1 ",
     "+1f80,1 1 1 +1f86,1 1 1 +1f99,1 1 1 +1fb2,1 1 1 +2236,1 1 1 +225b,1 1 1 +2260,1 1 1 +2276,1 ",
     "1 1 +2289,1 1 1 +229d,1 1 1 +22d1,1 1 1 +22e5,1 1 1 +22ef,1 1 1 +2389,1 1 1 +23e6,1 1 1 ",
     "+2401,1 1 1 +2405,1 1 1 +2422,1 1 1 +242a,1 1 1 +2444,1 1 1 +2450,1 1 1 +2468,1 1 1 +249b,1 ",
     "1 1 +24ac,1 1 1 +24c6,1 1 1 +27b9,1 1 1 +2800,1 1 1 +29cb,1 1 1 +29e1,1 1 1 +29e8,1 1 1 ",
     "+29f2,1 1 1 +2a03,1 1 1 +2a4e,1 1 1 +2c2a,1 1 1 +2c59,1 1 1 +2cd0,1 1 1 +2ce6,1 1 1 +2cf8,1 ",
     "1 1 +2d0d,1 1 1 +2d42,1 1 1 +2d44,1 1 1 +2ead,1 1 1 +2eb6,1 1 1 +2ec1,1 1 1 +2ecd,1 1 1 ",
     "+2f40,1 1 1 +2f47,1 1 1 +2f4b,1 1 1 +2fbf,1 1 1 +2fc8,1 1 1 +2fd4,1 1 1 +2fdb,1 1 1 +3017,1 ",
     "1 1 +3027,1 1 1 +3038,1 1 1 +3087,1 1 1 +32cb,1 1 1 +32f8,1 1 1 +330c,1 1 1 +35ef,1 1 1 ",
     "+35f3,1 1 1 +3645,1 1 1 +3654,1 1 1 +3660,1 1 1 +3674,1 1 1 +369a,1 1 1 +369e,1 1 1 +37a8,1 ",
     "1 1 +37bf,1 1 1 +37de,1 1 1 +3bd5,1 1 1 +3c16,1 1 1 +3c2c,1 1 1 +3c65,1 1 1 +3c7c,1 1 1 ",
     "+3c84,1 1 1 +3c8a,1 1 1 +3cbd,1 1 1 +3cc1,1 1 1 +3ce0,1 1 1 +4116,1 1 1 +42d4,1 1 1 +42df,1 ",
     "1 1 +42e3,1 1 1 +42e6,1 1 1 +42ed,1 1 1 +42fe,1 1 1 +42ff,1 1 1 +434f,1 1 1 +4426,1 1 1 ",
     "+442a,1 1 1 +457c,1 1 1 +4585,1 1 1 +45b6,1 1 1 +45bc,1 1 1 +45c4,1 1 1 +45cb,1 1 1 +4625,1 ",
     "1 1 +462b,1 1 1 +470e,1 1 1 +4714,1 1 1 +4744,1 1 1 +4754,1 1 1 +4782,1 1 1 +486e,1 1 1 ",
     "+4874,1 1 1 +4884,1 1 1 +49ca,1 1 1 +4a47,1 1 1 +4a4c,1 1 1 +4b01,1 1 1 +4b57,1 1 1 +4b84,1 ",
     "1 1 +4cfd,1 1 1 +4d81,1 1 1 +4fbe,1 1 1 +4fd8,1 1 1 +5010,1 1 1 +5042,1 1 1 +5085,1 1 1 ",
     "+508f,1 1 1 +5094,1 1 1 +50b4,1 1 1 +50ff,1 1 1 +5108,1 1 1 +5261,1 1 1 +5267,1 1 1 +526f,1 ",
     "1 1 +5277,1 1 1 +5286,1 1 1 +5294,1 1 1 +5297,1 1 1 +52e5,1 1 1 +52e8,1 1 1 +52ed,1 1 1 ",
     "+56c1,1 1 1 +56de,1 1 1 +58b2,1 1 1 +58bd,1 1 1 +58d3,1 1 1 +59ed,1 1 1 +59f9,1 1 1 +5a3f,1 ",
     "1 1 +5a6c,1 1 1 +5ca2,1 1 1 +5cb0,1 1 1 +5cbe,1 1 1 +5ce0,1 1 1 +5d04,1 1 1 +5dca,1 1 1 ",
     "+5dd5,1 1 1 +5e17,1 1 1 +5f0e,1 1 1 +5f2c,1 1 1 +5ffc,1 1 1 +6010,1 1 1 +6014,1 1 1 +60ef,1 ",
     "1 1 +61a6,1 1 1 +6222,1 1 1 +6227,1 1 1 +622b,1 1 1 +65d0,1 1 1 +65d8,1 1 1 +6673,1 1 1 ",
     "+670c,1 1 1 +670e,1 1 1 +673c,1 1 1 +67a4,1 1 1 +67b0,1 1 1 +67b3,1 1 1 +67b9,1 1 1 +681a,1 ",
     "1 1 +683b,1 1 1 +6840,1 1 1 +684d,1 1 1 +68f3,1 1 1 +6925,1 1 1 +6928,1 1 1 +69de,1 1 1 ",
     "+69e0,1 1 1 +69f2,1 1 1 +6aed,1 1 1 +6b1c,1 1 1 +6b22,1 1 1 +6b67,1 1 1 +6b70,1 1 1 +6b72,1 ",
     "1 1 +6b7b,1 1 1 +6b98,1 1 1 +6d22,1 1 1 +6eb1,1 1 1 +6eba,1 1 1 +6edf,1 1 1 +6ef4,1 1 1 ",
     "+6efb,1 1 1 +6f04,1 1 1 +6f07,1 1 1 +6f2e,1 1 1 +6f31,1 1 1 +6f41,1 1 1 +6f45,1 1 1 +6f51,1 ",
     "1 1 +6f6b,1 1 1 +6f79,1 1 1 +6f80,1 1 1 +6fba,1 1 1 +6fc8,1 1 1 +6fcb,2b 1 1 -2fe0,2 1 1 ",
     "-2fd4,34 1 1 -24,2 1 1 +2309,1 2 1 +230b,62 1 1 = 20 3099,1 1 1 = 20 309a,3 1 1 = 3088 ",
     "308a,60 1 1 = 30b3 30c8,32 2 1 -2031,2 1 1 -1f89,1 1 1 -2032,1 2 1 -1f89,2 3 1 -2034,3 6 1 ",
     "-1f8a,6 1 1 -2026,1 3 1 -203b,3 1 1 -2023,1 a 1 -203c,a 15 1 -1fee,15 1 1 =,1 2 1 -2051,2 2 ",
     "1 -1fa0,2 1 1 -1f9d,1 1 1 -1f9c,1 1 1 -1f98,1 1 1 -1f95,1 1 1 -1f94,1 1 1 -2052,1 1 1 ",
     "-1f92,1 1 1 -1f91,1 2 1 -2054,2 1 1 -2053,1 2 1 -2052,2 1 1 -204f,1 1 1 -204e,1 5 1 -204d,5 ",
     "1 1 -204b,1 1 1 -2048,1 1 1 -203f,1 1 1 -2039,1 1 1 -2035,1 2 1 -1f91,2 3 1 -202d,3 2 1 ",
     "-2003,2 1 1 -2001,1 2 1 -1ff9,2 1 1 -1ff8,1 1 1 -1fef,1 1 1 -1fed,4 1 1 +1c6e,1 1 1 +1cf9,1 ",
     "1 1 +1c75,1 1 1 +2546,1 1 1 +1c74,1 1 1 +1c96,1 1 1 +1c73,1 1 1 +4399,1 1 1 +1cbf,1 1 1 ",
     "+1c7e,1 1 1 +1c65,1 1 1 +278c,1 1 1 +2592,1 1 1 +1d1b,61 1 1 = 28 1100 29,1 1 1 = 28 1102 ",
     "29,1 1 1 = 28 1103 29,1 1 1 = 28 1105 29,1 1 1 = 28 1106 29,1 1 1 = 28 1107 29,1 1 1 = 28 ",
     "1109 29,1 1 1 = 28 110b 29,1 1 1 = 28 110c 29,1 1 1 = 28 110e 29,1 1 1 = 28 110f 29,1 1 1 = ",
     "28 1110 29,1 1 1 = 28 1111 29,1 1 1 = 28 1112 29,1 1 1 = 28 ac00 29,1 1 1 = 28 b098 29,1 1 ",
     "1 = 28 b2e4 29,1 1 1 = 28 b77c 29,1 1 1 = 28 b9c8 29,1 1 1 = 28 bc14 29,1 1 1 = 28 c0ac ",
     "29,1 1 1 = 28 c544 29,1 1 1 = 28 c790 29,1 1 1 = 28 cc28 29,1 1 1 = 28 ce74 29,1 1 1 = 28 ",
     "d0c0 29,1 1 1 = 28 d30c 29,1 1 1 = 28 d558 29,1 1 1 = 28 c8fc 29,1 1 1 = 28 c624 c804 29,1 ",
     "1 1 = 28 c624 d6c4 29,2 1 1 = 28 4e00 29,1 1 1 = 28 4e8c 29,1 1 1 = 28 4e09 29,1 1 1 = 28 ",
     "56db 29,1 1 1 = 28 4e94 29,1 1 1 = 28 516d 29,1 1 1 = 28 4e03 29,1 1 1 = 28 516b 29,1 1 1 = ",
     "28 4e5d 29,1 1 1 = 28 5341 29,1 1 1 = 28 6708 29,1 1 1 = 28 706b 29,1 1 1 = 28 6c34 29,1 1 ",
     "1 = 28 6728 29,1 1 1 = 28 91d1 29,1 1 1 = 28 571f 29,1 1 1 = 28 65e5 29,1 1 1 = 28 682a ",
     "29,1 1 1 = 28 6709 29,1 1 1 = 28 793e 29,1 1 1 = 28 540d 29,1 1 1 = 28 7279 29,1 1 1 = 28 ",
     "8ca1 29,1 1 1 = 28 795d 29,1 1 1 = 28 52b4 29,1 1 1 = 28 4ee3 29,1 1 1 = 28 547c 29,1 1 1 = ",
     "28 5b66 29,1 1 1 = 28 76e3 29,1 1 1 = 28 4f01 29,1 1 1 = 28 8cc7 29,1 1 1 = 28 5354 29,1 1 ",
     "1 = 28 796d 29,1 1 1 = 28 4f11 29,1 1 1 = 28 81ea 29,1 1 1 = 28 81f3 29,1 1 1 +230b,1 1 1 ",
     "+2c37,1 1 1 +3341,1 1 1 +4948,9 1 1 = 70 74 65,1 1 1 = 32 31,1 1 1 = 32 32,1 1 1 = 32 33,1 ",
     "1 1 = 32 34,1 1 1 = 32 35,1 1 1 = 32 36,1 1 1 = 32 37,1 1 1 = 32 38,1 1 1 = 32 39,1 1 1 = ",
     "33 30,1 1 1 = 33 31,1 1 1 = 33 32,1 1 1 = 33 33,1 1 1 = 33 34,1 1 1 = 33 35,1 1 1 -2160,1 2 ",
     "1 -215f,2 3 1 -215e,3 1 1 -215d,1 2 1 -215c,2 5 1 -215b,5 1 1 +7992,1 1 1 +7e29,1 1 1 ",
     "+8074,1 1 1 +850b,1 1 1 +8756,1 1 1 +89a1,1 1 1 +8e38,1 1 1 +92cf,1 1 1 +951a,1 1 1 +99b1,1 ",
     "1 1 +9bfc,1 1 1 +9e47,1 1 1 +a092,1 1 1 +a2dd,1 1 1 = cc38 ace0,1 1 1 = c8fc c758,1 1 1 ",
     "+9432,2 1 1 +1b80,1 1 1 +1c0b,1 1 1 +1b87,1 1 1 +2458,1 1 1 +1c10,1 1 1 +1ee8,1 1 1 +1b7d,1 ",
     "1 1 +1ee4,1 1 1 +1bd5,1 1 1 +20b8,1 1 1 +347e,1 1 1 +3de0,1 1 1 +39a8,1 1 1 +349b,1 1 1 ",
     "+5f43,1 1 1 +2490,1 1 1 +3355,1 1 1 +3599,1 1 1 +3477,1 1 1 +46ab,1 1 1 +2179,1 1 1 +3fe4,1 ",
     "1 1 +5a0b,1 1 1 +46c6,1 1 1 +201c,1 1 1 +473f,1 1 1 +429d,1 1 1 +26d8,1 1 1 +5dcd,1 1 1 ",
     "+1e8d,1 1 1 +20d2,1 1 1 +3a49,1 1 1 +6565,1 1 1 +1c70,1 1 1 +1ef7,1 1 1 +38c0,1 1 1 +1b66,1 ",
     "1 1 +1b88,1 1 1 +1b65,1 1 1 +2b3f,1 1 1 +214b,1 1 1 +2092,1 1 1 +28ed,1 1 1 +28bb,1 1 1 ",
     "+4437,1 1 1 +1c54,1 1 1 +5a19,1 1 1 +20a5,1 1 1 +266c,1 1 1 = 33 36,1 1 1 = 33 37,1 1 1 = ",
     "33 38,1 1 1 = 33 39,1 1 1 = 34 30,1 1 1 = 34 31,1 1 1 = 34 32,1 1 1 = 34 33,1 1 1 = 34 34,1 ",
     "1 1 = 34 35,1 1 1 = 34 36,1 1 1 = 34 37,1 1 1 = 34 38,1 1 1 = 34 39,1 1 1 = 35 30,1 1 1 = ",
     "31 6708,1 1 1 = 32 6708,1 1 1 = 33 6708,1 1 1 = 34 6708,1 1 1 = 35 6708,1 1 1 = 36 6708,1 1 ",
     "1 = 37 6708,1 1 1 = 38 6708,1 1 1 = 39 6708,1 1 1 = 31 30 6708,1 1 1 = 31 31 6708,1 1 1 = ",
     "31 32 6708,1 1 1 = 68 67,1 1 1 = 65 72 67,1 1 1 = 65 76,1 1 1 = 6c 74 64,1 1 1 -22e,1 1 1 ",
     "-22d,1 1 1 -22c,1 1 1 -22b,1 2 1 -22a,2 1 1 -229,1 1 1 -228,1 1 1 -227,1 1 1 -226,1 1 1 ",
     "-225,1 1 1 -224,1 1 1 -223,1 1 1 -222,1 1 1 -221,1 1 1 -220,1 1 1 -21f,1 1 1 -21d,1 1 1 ",
     "-21c,1 1 1 -21b,1 6 1 -21a,6 1 1 -218,1 1 1 -216,1 1 1 -214,1 1 1 -212,1 5 1 -210,5 1 1 ",
     "-20f,1 1 1 -20e,1 6 1 -20d,6 4 1 -20c,4 1 1 = 4ee4 548c,1 1 1 = 30a2 30d1 30fc 30c8,1 1 1 = ",
     "30a2 30eb 30d5 30a1,1 1 1 = 30a2 30f3 30da 30a2,1 1 1 = 30a2 30fc 30eb,1 1 1 = 30a4 30cb ",
     "30f3 30b0,1 1 1 = 30a4 30f3 30c1,1 1 1 = 30a6 30a9 30f3,1 1 1 = 30a8 30b9 30af 30fc 30c9,1 ",
     "1 1 = 30a8 30fc 30ab 30fc,1 1 1 = 30aa 30f3 30b9,1 1 1 = 30aa 30fc 30e0,1 1 1 = 30ab 30a4 ",
     "30ea,1 1 1 = 30ab 30e9 30c3 30c8,1 1 1 = 30ab 30ed 30ea 30fc,1 1 1 = 30ac 30ed 30f3,1 1 1 = ",
     "30ac 30f3 30de,1 1 1 = 30ae 30ac,1 1 1 = 30ae 30cb 30fc,1 1 1 = 30ad 30e5 30ea 30fc,1 1 1 = ",
     "30ae 30eb 30c0 30fc,1 1 1 = 30ad 30ed,1 1 1 = 30ad 30ed 30b0 30e9 30e0,1 1 1 = 30ad 30ed ",
     "30e1 30fc 30c8 30eb,1 1 1 = 30ad 30ed 30ef 30c3 30c8,1 1 1 = 30b0 30e9 30e0,1 1 1 = 30b0 ",
     "30e9 30e0 30c8 30f3,1 1 1 = 30af 30eb 30bc 30a4 30ed,1 1 1 = 30af 30ed 30fc 30cd,1 1 1 = ",
     "30b1 30fc 30b9,1 1 1 = 30b3 30eb 30ca,1 1 1 = 30b3 30fc 30dd,1 1 1 = 30b5 30a4 30af 30eb,1 ",
     "1 1 = 30b5 30f3 30c1 30fc 30e0,1 1 1 = 30b7 30ea 30f3 30b0,1 1 1 = 30bb 30f3 30c1,1 1 1 = ",
     "30bb 30f3 30c8,1 1 1 = 30c0 30fc 30b9,1 1 1 = 30c7 30b7,1 1 1 = 30c9 30eb,1 1 1 = 30c8 ",
     "30f3,1 1 1 = 30ca 30ce,1 1 1 = 30ce 30c3 30c8,1 1 1 = 30cf 30a4 30c4,1 1 1 = 30d1 30fc 30bb ",
     "30f3 30c8,1 1 1 = 30d1 30fc 30c4,1 1 1 = 30d0 30fc 30ec 30eb,1 1 1 = 30d4 30a2 30b9 30c8 ",
     "30eb,1 1 1 = 30d4 30af 30eb,1 1 1 = 30d4 30b3,1 1 1 = 30d3 30eb,1 1 1 = 30d5 30a1 30e9 30c3 ",
     "30c9,1 1 1 = 30d5 30a3 30fc 30c8,1 1 1 = 30d6 30c3 30b7 30a7 30eb,1 1 1 = 30d5 30e9 30f3,1 ",
     "1 1 = 30d8 30af 30bf 30fc 30eb,1 1 1 = 30da 30bd,1 1 1 = 30da 30cb 30d2,1 1 1 = 30d8 30eb ",
     "30c4,1 1 1 = 30da 30f3 30b9,1 1 1 = 30da 30fc 30b8,1 1 1 = 30d9 30fc 30bf,1 1 1 = 30dd 30a4 ",
     "30f3 30c8,1 1 1 = 30dc 30eb 30c8,1 1 1 = 30db 30f3,1 1 1 = 30dd 30f3 30c9,1 1 1 = 30db 30fc ",
     "30eb,1 1 1 = 30db 30fc 30f3,1 1 1 = 30de 30a4 30af 30ed,1 1 1 = 30de 30a4 30eb,1 1 1 = 30de ",
     "30c3 30cf,1 1 1 = 30de 30eb 30af,1 1 1 = 30de 30f3 30b7 30e7 30f3,1 1 1 = 30df 30af 30ed ",
     "30f3,1 1 1 = 30df 30ea,1 1 1 = 30df 30ea 30d0 30fc 30eb,1 1 1 = 30e1 30ac,1 1 1 = 30e1 30ac ",
     "30c8 30f3,1 1 1 = 30e1 30fc 30c8 30eb,1 1 1 = 30e4 30fc 30c9,1 1 1 = 30e4 30fc 30eb,1 1 1 = ",
     "30e6 30a2 30f3,1 1 1 = 30ea 30c3 30c8 30eb,1 1 1 = 30ea 30e9,1 1 1 = 30eb 30d4 30fc,1 1 1 = ",
     "30eb 30fc 30d6 30eb,1 1 1 = 30ec 30e0,1 1 1 = 30ec 30f3 30c8 30b2 30f3,1 1 1 = 30ef 30c3 ",
     "30c8,1 1 1 = 30 70b9,1 1 1 = 31 70b9,1 1 1 = 32 70b9,1 1 1 = 33 70b9,1 1 1 = 34 70b9,1 1 1 ",
     "= 35 70b9,1 1 1 = 36 70b9,1 1 1 = 37 70b9,1 1 1 = 38 70b9,1 1 1 = 39 70b9,1 1 1 = 31 30 ",
     "70b9,1 1 1 = 31 31 70b9,1 1 1 = 31 32 70b9,1 1 1 = 31 33 70b9,1 1 1 = 31 34 70b9,1 1 1 = 31 ",
     "35 70b9,1 1 1 = 31 36 70b9,1 1 1 = 31 37 70b9,1 1 1 = 31 38 70b9,1 1 1 = 31 39 70b9,1 1 1 = ",
     "32 30 70b9,1 1 1 = 32 31 70b9,1 1 1 = 32 32 70b9,1 1 1 = 32 33 70b9,1 1 1 = 32 34 70b9,1 1 ",
     "1 = 68 70 61,1 1 1 = 64 61,1 1 1 = 61 75,1 1 1 = 62 61 72,1 1 1 = 6f 76,1 1 1 = 70 63,1 1 1 ",
     "= 64 6d,1 1 1 = 64 6d 32,1 1 1 = 64 6d 33,1 1 1 = 69 75,1 1 1 = 5e73 6210,1 1 1 = 662d ",
     "548c,1 1 1 = 5927 6b63,1 1 1 = 660e 6cbb,1 1 1 = 682a 5f0f 4f1a 793e,1 1 1 = 70 61,1 1 1 = ",
     "6e 61,1 1 1 = 3bc 61,1 1 1 = 6d 61,1 1 1 = 6b 61,1 1 1 = 6b 62,1 1 1 = 6d 62,1 1 1 = 67 ",
     "62,1 1 1 = 63 61 6c,1 1 1 = 6b 63 61 6c,1 1 1 = 70 66,1 1 1 = 6e 66,1 1 1 = 3bc 66,1 1 1 = ",
     "3bc 67,1 1 1 = 6d 67,1 1 1 = 6b 67,1 1 1 = 68 7a,1 1 1 = 6b 68 7a,1 1 1 = 6d 68 7a,1 1 1 = ",
     "67 68 7a,1 1 1 = 74 68 7a,1 1 1 = 3bc 6c,1 1 1 = 6d 6c,1 1 1 = 64 6c,1 1 1 = 6b 6c,1 1 1 = ",
     "66 6d,1 1 1 = 6e 6d,1 1 1 = 3bc 6d,1 1 1 = 6d 6d,1 1 1 = 63 6d,1 1 1 = 6b 6d,1 1 1 = 6d 6d ",
     "32,1 1 1 = 63 6d 32,1 1 1 = 6d 32,1 1 1 = 6b 6d 32,1 1 1 = 6d 6d 33,1 1 1 = 63 6d 33,1 1 1 ",
     "= 6d 33,1 1 1 = 6b 6d 33,1 1 1 = 6d 2215 73,1 1 1 = 6d 2215 73 32,1 1 1 = 70 61,1 1 1 = 6b ",
     "70 61,1 1 1 = 6d 70 61,1 1 1 = 67 70 61,1 1 1 = 72 61 64,1 1 1 = 72 61 64 2215 73,1 1 1 = ",
     "72 61 64 2215 73 32,1 1 1 = 70 73,1 1 1 = 6e 73,1 1 1 = 3bc 73,1 1 1 = 6d 73,1 1 1 = 70 ",
     "76,1 1 1 = 6e 76,1 1 1 = 3bc 76,1 1 1 = 6d 76,1 1 1 = 6b 76,1 1 1 = 6d 76,1 1 1 = 70 77,1 1 ",
     "1 = 6e 77,1 1 1 = 3bc 77,1 1 1 = 6d 77,1 1 1 = 6b 77,1 1 1 = 6d 77,1 1 1 = 6b 3c9,1 1 1 = ",
     "6d 3c9,2 1 1 = 62 71,1 1 1 = 63 63,1 1 1 = 63 64,1 1 1 = 63 2215 6b 67,2 1 1 = 64 62,1 1 1 ",
     "= 67 79,1 1 1 = 68 61,1 1 1 = 68 70,1 1 1 = 69 6e,1 1 1 = 6b 6b,1 1 1 = 6b 6d,1 1 1 = 6b ",
     "74,1 1 1 = 6c 6d,1 1 1 = 6c 6e,1 1 1 = 6c 6f 67,1 1 1 = 6c 78,1 1 1 = 6d 62,1 1 1 = 6d 69 ",
     "6c,1 1 1 = 6d 6f 6c,1 1 1 = 70 68,2 1 1 = 70 70 6d,1 1 1 = 70 72,1 1 1 = 73 72,1 1 1 = 73 ",
     "76,1 1 1 = 77 62,1 1 1 = 76 2215 6d,1 1 1 = 61 2215 6d,1 1 1 = 31 65e5,1 1 1 = 32 65e5,1 1 ",
     "1 = 33 65e5,1 1 1 = 34 65e5,1 1 1 = 35 65e5,1 1 1 = 36 65e5,1 1 1 = 37 65e5,1 1 1 = 38 ",
     "65e5,1 1 1 = 39 65e5,1 1 1 = 31 30 65e5,1 1 1 = 31 31 65e5,1 1 1 = 31 32 65e5,1 1 1 = 31 33 ",
     "65e5,1 1 1 = 31 34 65e5,1 1 1 = 31 35 65e5,1 1 1 = 31 36 65e5,1 1 1 = 31 37 65e5,1 1 1 = 31 ",
     "38 65e5,1 1 1 = 31 39 65e5,1 1 1 = 32 30 65e5,1 1 1 = 32 31 65e5,1 1 1 = 32 32 65e5,1 1 1 = ",
     "32 33 65e5,1 1 1 = 32 34 65e5,1 1 1 = 32 35 65e5,1 1 1 = 32 36 65e5,1 1 1 = 32 37 65e5,1 1 ",
     "1 = 32 38 65e5,1 1 1 = 32 39 65e5,1 1 1 = 33 30 65e5,1 1 1 = 33 31 65e5,1 1 1 = 67 61 ",
     "6c,7241 17 2 +1,40 e 2 +1,1c 1 1 -a252,1 1 1 -a251,85 7 2 +1,10 1f 2 +1,3e 1 1 -1,9 2 2 ",
     "+1,4 1 1 -8a04,1 5 2 +1,d 1 1 +1,2 1 1 -a528,3 2 2 +1,6 a 2 +1,14 1 1 -a544,1 1 1 -a54f,1 1 ",
     "1 -a54b,1 1 1 -a541,1 1 1 -a544,2 1 1 -a512,1 1 1 -a52a,1 1 1 -a515,1 1 1 +3a0,1 8 2 +1,10 ",
     "1 1 -30,1 1 1 -a543,1 1 1 -8a38,1 2 2 +1,4 1 1 -a567,1 8 2 +1,10 1 1 -a641,15 1 1 -a77e,1 1 ",
     "1 -a78f,1 1 1 -a78d,1 1 1 -a783,1 1 1 +1,3 1 1 -a6d1,1 1 1 -a6a6,363 1 1 -435,1 1 1 -26,1 1 ",
     "1 -a8f3,1 1 1 -d,a 1 1 -a8dc,7 50 1 -97d0,4d90 1 1 -6cb8,1 1 1 -920d,1 1 1 -6a38,1 1 1 ",
     "-6c3b,1 1 1 -8a33,1 1 1 -aad3,1 1 1 -a521,1 2 1 = 9f9c,2 1 1 -9fb8,1 1 1 -6739,1 1 1 ",
     "-a384,1 1 1 -9fc4,1 1 1 -9717,1 1 1 -82a5,1 1 1 -798a,1 1 1 -72d1,1 1 1 -7157,1 1 1 -701a,1 ",
     "1 1 -6884,1 1 1 -8f12,1 1 1 -8bfa,1 1 1 -883d,1 1 1 -8539,1 1 1 -74db,1 1 1 -67af,1 1 1 ",
     "-5f29,1 1 1 -aa99,1 1 1 -a5a7,1 1 1 -8e19,1 1 1 -8703,1 1 1 -72f2,1 1 1 -5b02,1 1 1 -9bd1,1 ",
     "1 1 -8937,1 1 1 -7356,1 1 1 -6fc0,1 1 1 -965c,1 1 1 -774e,1 1 1 -7108,1 1 1 -9a5e,1 1 1 ",
     "-9212,1 1 1 -8bc0,1 1 1 -862f,1 1 1 -685e,1 1 1 -a9a7,1 1 1 -a777,1 1 1 -a651,1 1 1 -946c,1 ",
     "1 1 -8e5e,1 1 1 -8722,1 1 1 -824c,1 1 1 -7933,1 1 1 -732f,1 1 1 -72da,1 1 1 -6b48,1 1 1 ",
     "-6206,1 1 1 -5dca,1 1 1 -5b40,1 1 1 -80af,1 1 1 -7fbd,1 1 1 -7b9d,1 1 1 -7575,1 1 1 -663b,1 ",
     "1 1 -5ac1,1 1 1 -6e6b,1 1 1 -a063,1 1 1 -9a3f,1 1 1 -7ce4,1 1 1 -78c7,1 1 1 -86e4,1 1 1 ",
     "-807d,1 1 1 -6c86,1 1 1 -6252,1 1 1 -a072,1 1 1 -9ce9,1 1 1 -8f39,1 1 1 -8b73,1 1 1 -8a3f,1 ",
     "1 1 -7c20,1 1 1 -7b19,1 1 1 -6306,1 1 1 -a680,1 1 1 -78c8,1 1 1 -a778,1 1 1 -a789,1 1 1 ",
     "-7f3a,1 1 1 -7b99,1 1 1 -7567,1 1 1 -62e4,1 1 1 -6dda,1 1 1 -968c,1 1 1 -8f5a,1 1 1 -6e5f,1 ",
     "1 1 -ab25,1 1 1 -9d78,1 1 1 -994e,1 1 1 -85da,1 1 1 -83f2,1 1 1 -a64c,1 1 1 -8069,1 1 1 ",
     "-a9a6,1 1 1 -99bd,1 1 1 -ab5a,1 1 1 -8c9c,1 1 1 -93f1,1 1 1 -7c48,1 1 1 -a5a8,1 1 1 -a10e,1 ",
     "1 1 -826c,1 1 1 -7525,1 1 1 -6ec5,1 1 1 -8db6,1 1 1 -69c1,1 1 1 -8cea,1 1 1 -9675,1 1 1 ",
     "-768f,1 1 1 -95d5,1 1 1 -8411,1 1 1 -aac9,1 1 1 -a80f,1 1 1 -a7b0,1 1 1 -90f9,1 1 1 -7c94,1 ",
     "1 1 -770d,1 1 1 -6eab,1 1 1 -67af,1 1 1 -a68a,1 1 1 -a53e,1 1 1 -a00e,1 1 1 -9a96,1 1 1 ",
     "-93be,1 1 1 -8986,1 1 1 -805b,1 1 1 -63d9,1 1 1 -5f1d,1 1 1 -5af1,1 1 1 -5abb,1 1 1 -a6ef,1 ",
     "1 1 -92c5,1 1 1 -8e15,1 1 1 -6a2b,1 1 1 -9b1a,1 1 1 -97ff,1 1 1 -9790,1 1 1 -94f7,1 1 1 ",
     "-8a6f,1 1 1 -884a,1 1 1 -850b,1 1 1 -7fcb,1 1 1 -7ba2,1 1 1 -7928,1 1 1 -6a72,1 1 1 -74ab,1 ",
     "1 1 -6977,1 1 1 -6651,1 1 1 -a785,1 1 1 -a6fa,1 1 1 -a4e1,1 1 1 -88d7,1 1 1 -70de,1 1 1 ",
     "-6ef7,1 1 1 -9ad9,1 1 1 -99ae,1 1 1 -9629,1 1 1 -8df7,1 1 1 -7d68,1 1 1 -8632,1 1 1 -aac4,1 ",
     "1 1 -a2b0,1 1 1 -9dc3,1 1 1 -9bf1,1 1 1 -9990,1 1 1 -85fb,1 1 1 -8545,1 1 1 -7a15,1 1 1 ",
     "-796a,1 1 1 -677d,1 1 1 -62bc,1 1 1 -626b,1 1 1 -619c,1 1 1 -aa2a,1 1 1 -8008,1 1 1 -6803,1 ",
     "1 1 -6300,1 1 1 -98d8,1 1 1 -ab34,1 1 1 -a8e1,1 1 1 -9dce,1 1 1 -9d7e,1 1 1 -9425,1 1 1 ",
     "-8fbd,1 1 1 -87f2,1 1 1 -837f,1 1 1 -74c6,1 1 1 -6947,1 1 1 -5a37,1 1 1 -933d,1 1 1 -6398,1 ",
     "1 1 -a73e,1 1 1 -924d,1 1 1 -91d6,1 1 1 -8c89,1 1 1 -8b2f,1 1 1 -85c3,1 1 1 -8474,1 1 1 ",
     "-8163,1 1 1 -7cbf,1 1 1 -6172,1 1 1 -a864,1 1 1 -97a4,1 1 1 -635b,1 1 1 -a9a9,1 1 1 -9cbc,1 ",
     "1 1 -8bec,1 1 1 -6aad,1 1 1 -9a4d,1 1 1 -9895,1 1 1 -91c3,1 1 1 -8654,1 1 1 -6356,1 1 1 ",
     "-a7b4,1 1 1 -a5cf,1 1 1 -9d7a,1 1 1 -93cd,1 1 1 -9293,1 1 1 -913a,1 1 1 -8cfe,1 1 1 -85de,1 ",
     "1 1 -8403,1 1 1 -7a6d,1 1 1 -7118,1 1 1 -7107,1 1 1 -681d,1 1 1 -6308,1 1 1 -a6ac,1 1 1 ",
     "-8b32,1 1 1 -a5d0,1 1 1 -881e,1 1 1 -8557,1 1 1 -73f6,1 1 1 -634e,1 1 1 -5d9b,1 1 1 -5b54,1 ",
     "1 1 -925d,1 1 1 -8c2a,1 1 1 -780e,1 1 1 -7f2c,1 1 1 -7ed8,1 1 1 -7d67,1 1 1 -873a,1 1 1 ",
     "-8962,1 1 1 -6ea4,1 1 1 -ab3d,1 1 1 -76c8,1 1 1 -a7c5,1 1 1 -a7f9,1 1 1 -9b5b,1 1 1 -972f,1 ",
     "1 1 -7d2d,1 1 1 -9e7f,1 1 1 -8ce7,1 1 1 -9352,1 1 1 -6acc,1 1 1 -71bc,1 1 1 -63bc,1 1 1 ",
     "-707f,1 1 1 -9b38,1 1 1 -a8cc,1 1 1 -a44d,3 1 1 -a1b6,2 1 1 -939e,3 1 1 -a837,1 1 1 -86ec,1 ",
     "1 1 -834d,1 1 1 -80dc,1 1 1 -80bb,1 1 1 -80b5,1 1 1 -808c,1 1 1 -62c6,1 1 1 -7d5f,1 1 1 ",
     "-7a61,2 1 1 -740e,2 1 1 -6f2a,3 1 1 -69ed,1 1 1 -6929,4 1 1 -613b,1 1 1 -612f,1 1 1 -6104,1 ",
     "1 1 -5c79,1 1 1 -6950,1 1 1 -6378,1 1 1 -aa82,1 1 1 -a94a,1 1 1 -a8e5,1 1 1 -a76a,1 1 1 ",
     "-a750,1 1 1 -a6e4,1 1 1 -a499,1 1 1 -a431,1 1 1 -a3d0,1 1 1 -a1f9,1 1 1 -a192,1 1 1 -9dd7,1 ",
     "1 1 -9dce,1 1 1 -99a9,1 1 1 -98d6,1 1 1 -98b1,1 1 1 -984e,1 1 1 -94f2,1 1 1 -9460,1 1 1 ",
     "-93b2,1 1 1 -91bf,1 1 1 -8cce,1 1 1 -8c2c,1 1 1 -8b25,1 1 1 -88da,1 1 1 -881e,1 1 1 -8628,1 ",
     "1 1 -81ba,1 1 1 -810e,1 1 1 -8104,1 1 1 -8106,1 1 1 -80ff,1 1 1 -80fa,1 1 1 -80f4,1 2 1 ",
     "-80c5,2 1 1 -8014,1 1 1 -7fd4,1 1 1 -7e96,1 1 1 -7c63,1 1 1 -7c4f,1 1 1 -7c18,1 1 1 -7ae8,1 ",
     "1 1 -7a56,1 1 1 -786f,1 2 1 = 8279,2 1 1 -7608,1 1 1 -7150,1 1 1 -70cb,1 1 1 -6f61,1 1 1 ",
     "-6f2a,1 1 1 -6d91,1 1 1 -6d5d,1 1 1 -6ab0,1 1 1 -6a2f,1 1 1 -6385,1 1 1 -626a,1 1 1 -622f,1 ",
     "1 1 -99f6,1 1 1 +14882,1 1 1 -7855,3 1 1 -ac4a,1 1 1 -a8bc,1 1 1 -a90a,1 1 1 -aaf3,1 1 1 ",
     "-a92f,1 1 1 -a8f5,1 1 1 -a7af,1 1 1 -a77d,1 1 1 -a4db,1 1 1 -a524,1 1 1 -a4e1,1 1 1 -a499,1 ",
     "1 1 -a222,1 1 1 -a1ca,1 1 1 -a13a,1 1 1 -a12b,1 1 1 -a01e,1 1 1 -9f59,1 1 1 -9bb0,1 1 1 ",
     "-9baa,1 1 1 -9b1b,1 1 1 -9ad8,1 1 1 -99ae,1 1 1 -9939,1 1 1 -9980,1 1 1 -98fb,1 1 1 -992a,1 ",
     "1 1 -9899,1 1 1 -9858,1 1 1 -96c9,1 1 1 -9672,1 1 1 -963d,1 1 1 -953a,1 1 1 -941d,1 1 1 ",
     "-937b,1 1 1 -9378,1 1 1 -933e,1 1 1 -8f1c,1 1 1 -8edc,1 1 1 -8d56,1 1 1 -8bbd,1 1 1 -8bce,1 ",
     "1 1 -8b78,1 1 1 -8a7d,1 1 1 -892e,1 1 1 -82f6,1 1 1 -8869,1 1 1 -87f0,1 1 1 -8776,1 1 1 ",
     "-8630,1 1 1 -859c,1 1 1 -8568,1 1 1 -8487,1 1 1 -8486,1 1 1 -83dc,1 1 1 -83cc,1 1 1 -83b4,1 ",
     "1 1 -835f,1 1 1 -836a,1 1 1 -81df,1 1 1 -7ffb,1 1 1 -7eed,1 1 1 -7e33,1 1 1 -7d54,1 1 1 ",
     "-7cbc,1 1 1 -7b73,1 1 1 -7aad,1 1 1 -7761,1 1 1 -76c5,1 1 1 -733c,1 1 1 -7175,1 1 1 -7131,1 ",
     "1 1 -7122,1 1 1 -6ffa,1 1 1 -6fc2,1 1 1 -6ff0,1 1 1 -6fbb,1 1 1 -6fbf,1 1 1 -6fd1,1 1 1 ",
     "-6f86,1 1 1 -6f36,1 1 1 -6db9,1 1 1 -6b8a,1 1 1 -6a51,1 1 1 -692b,1 1 1 -684f,1 1 1 -644a,1 ",
     "1 1 -63e4,1 1 1 -6372,1 1 1 -62ee,1 1 1 -62cb,1 1 1 -62c0,1 1 1 -6291,1 1 1 -5fbb,1 1 1 ",
     "-5b32,1 1 1 +12d7b,1 1 1 +12d74,1 1 1 +13904,1 1 1 -bf35,1 1 1 -babb,1 1 1 -ba9b,1 1 1 ",
     "+15774,1 1 1 +161fa,1 1 1 +183fc,1 1 1 -5b95,1 1 1 -5b4b,27 1 1 = 66 66,1 1 1 = 66 69,1 1 1 ",
     "= 66 6c,1 1 1 = 66 66 69,1 1 1 = 66 66 6c,1 2 1 = 73 74,e 1 1 = 574 576,1 1 1 = 574 565,1 1 ",
     "1 = 574 56b,1 1 1 = 57e 576,1 1 1 = 574 56d,6 1 1 = 5d9 5b4,2 1 1 = 5f2 5b7,1 1 1 -f53e,1 1 ",
     "1 -f551,1 2 1 -f54f,2 3 1 -f549,3 1 1 -f53f,1 1 1 -f53e,1 1 1 -fafe,1 1 1 = 5e9 5c1,1 1 1 = ",
     "5e9 5c2,1 1 1 = 5e9 5bc 5c1,1 1 1 = 5e9 5bc 5c2,1 1 1 = 5d0 5b7,1 1 1 = 5d0 5b8,1 1 1 = 5d0 ",
     "5bc,1 1 1 = 5d1 5bc,1 1 1 = 5d2 5bc,1 1 1 = 5d3 5bc,1 1 1 = 5d4 5bc,1 1 1 = 5d5 5bc,1 1 1 = ",
     "5d6 5bc,2 1 1 = 5d8 5bc,1 1 1 = 5d9 5bc,1 1 1 = 5da 5bc,1 1 1 = 5db 5bc,1 1 1 = 5dc 5bc,2 1 ",
     "1 = 5de 5bc,2 1 1 = 5e0 5bc,1 1 1 = 5e1 5bc,2 1 1 = 5e3 5bc,1 1 1 = 5e4 5bc,2 1 1 = 5e6 ",
     "5bc,1 1 1 = 5e7 5bc,1 1 1 = 5e8 5bc,1 1 1 = 5e9 5bc,1 1 1 = 5ea 5bc,1 1 1 = 5d5 5b9,1 1 1 = ",
     "5d1 5bf,1 1 1 = 5db 5bf,1 1 1 = 5e4 5bf,1 1 1 = 5d0 5dc,1 2 1 = 671,2 4 1 = 67b,4 4 1 = ",
     "67e,4 4 1 = 680,4 4 1 = 67a,4 4 1 = 67f,4 4 1 = 679,4 4 1 = 6a4,4 4 1 = 6a6,4 4 1 = 684,4 4 ",
     "1 = 683,4 4 1 = 686,4 4 1 = 687,4 2 1 = 68d,2 2 1 = 68c,2 2 1 = 68e,2 2 1 = 688,2 2 1 = ",
     "698,2 2 1 = 691,2 4 1 = 6a9,4 4 1 = 6af,4 4 1 = 6b3,4 4 1 = 6b1,4 2 1 = 6ba,2 4 1 = 6bb,4 2 ",
     "1 = 6c0,2 4 1 = 6c1,4 4 1 = 6be,4 2 1 = 6d2,2 2 1 = 6d3,23 4 1 = 6ad,4 2 1 = 6c7,2 2 1 = ",
     "6c6,2 2 1 = 6c8,2 1 1 = 6c7 674,1 2 1 = 6cb,2 2 1 = 6c5,2 2 1 = 6c9,2 4 1 = 6d0,4 2 1 = ",
     "649,2 2 1 = 626 627,2 2 1 = 626 6d5,2 2 1 = 626 648,2 2 1 = 626 6c7,2 2 1 = 626 6c6,2 2 1 = ",
     "626 6c8,2 3 1 = 626 6d0,3 3 1 = 626 649,3 4 1 = 6cc,4 1 1 = 626 62c,1 1 1 = 626 62d,1 1 1 = ",
     "626 645,1 1 1 = 626 649,1 1 1 = 626 64a,1 1 1 = 628 62c,1 1 1 = 628 62d,1 1 1 = 628 62e,1 1 ",
     "1 = 628 645,1 1 1 = 628 649,1 1 1 = 628 64a,1 1 1 = 62a 62c,1 1 1 = 62a 62d,1 1 1 = 62a ",
     "62e,1 1 1 = 62a 645,1 1 1 = 62a 649,1 1 1 = 62a 64a,1 1 1 = 62b 62c,1 1 1 = 62b 645,1 1 1 = ",
     "62b 649,1 1 1 = 62b 64a,1 1 1 = 62c 62d,1 1 1 = 62c 645,1 1 1 = 62d 62c,1 1 1 = 62d 645,1 1 ",
     "1 = 62e 62c,1 1 1 = 62e 62d,1 1 1 = 62e 645,1 1 1 = 633 62c,1 1 1 = 633 62d,1 1 1 = 633 ",
     "62e,1 1 1 = 633 645,1 1 1 = 635 62d,1 1 1 = 635 645,1 1 1 = 636 62c,1 1 1 = 636 62d,1 1 1 = ",
     "636 62e,1 1 1 = 636 645,1 1 1 = 637 62d,1 1 1 = 637 645,1 1 1 = 638 645,1 1 1 = 639 62c,1 1 ",
     "1 = 639 645,1 1 1 = 63a 62c,1 1 1 = 63a 645,1 1 1 = 641 62c,1 1 1 = 641 62d,1 1 1 = 641 ",
     "62e,1 1 1 = 641 645,1 1 1 = 641 649,1 1 1 = 641 64a,1 1 1 = 642 62d,1 1 1 = 642 645,1 1 1 = ",
     "642 649,1 1 1 = 642 64a,1 1 1 = 643 627,1 1 1 = 643 62c,1 1 1 = 643 62d,1 1 1 = 643 62e,1 1 ",
     "1 = 643 644,1 1 1 = 643 645,1 1 1 = 643 649,1 1 1 = 643 64a,1 1 1 = 644 62c,1 1 1 = 644 ",
     "62d,1 1 1 = 644 62e,1 1 1 = 644 645,1 1 1 = 644 649,1 1 1 = 644 64a,1 1 1 = 645 62c,1 1 1 = ",
     "645 62d,1 1 1 = 645 62e,1 1 1 = 645 645,1 1 1 = 645 649,1 1 1 = 645 64a,1 1 1 = 646 62c,1 1 ",
     "1 = 646 62d,1 1 1 = 646 62e,1 1 1 = 646 645,1 1 1 = 646 649,1 1 1 = 646 64a,1 1 1 = 647 ",
     "62c,1 1 1 = 647 645,1 1 1 = 647 649,1 1 1 = 647 64a,1 1 1 = 64a 62c,1 1 1 = 64a 62d,1 1 1 = ",
     "64a 62e,1 1 1 = 64a 645,1 1 1 = 64a 649,1 1 1 = 64a 64a,1 1 1 = 630 670,1 1 1 = 631 670,1 1 ",
     "1 = 649 670,1 1 1 = 20 64c 651,1 1 1 = 20 64d 651,1 1 1 = 20 64e 651,1 1 1 = 20 64f 651,1 1 ",
     "1 = 20 650 651,1 1 1 = 20 651 670,1 1 1 = 626 631,1 1 1 = 626 632,1 1 1 = 626 645,1 1 1 = ",
     "626 646,1 1 1 = 626 649,1 1 1 = 626 64a,1 1 1 = 628 631,1 1 1 = 628 632,1 1 1 = 628 645,1 1 ",
     "1 = 628 646,1 1 1 = 628 649,1 1 1 = 628 64a,1 1 1 = 62a 631,1 1 1 = 62a 632,1 1 1 = 62a ",
     "645,1 1 1 = 62a 646,1 1 1 = 62a 649,1 1 1 = 62a 64a,1 1 1 = 62b 631,1 1 1 = 62b 632,1 1 1 = ",
     "62b 645,1 1 1 = 62b 646,1 1 1 = 62b 649,1 1 1 = 62b 64a,1 1 1 = 641 649,1 1 1 = 641 64a,1 1 ",
     "1 = 642 649,1 1 1 = 642 64a,1 1 1 = 643 627,1 1 1 = 643 644,1 1 1 = 643 645,1 1 1 = 643 ",
     "649,1 1 1 = 643 64a,1 1 1 = 644 645,1 1 1 = 644 649,1 1 1 = 644 64a,1 1 1 = 645 627,1 1 1 = ",
     "645 645,1 1 1 = 646 631,1 1 1 = 646 632,1 1 1 = 646 645,1 1 1 = 646 646,1 1 1 = 646 649,1 1 ",
     "1 = 646 64a,1 1 1 = 649 670,1 1 1 = 64a 631,1 1 1 = 64a 632,1 1 1 = 64a 645,1 1 1 = 64a ",
     "646,1 1 1 = 64a 649,1 1 1 = 64a 64a,1 1 1 = 626 62c,1 1 1 = 626 62d,1 1 1 = 626 62e,1 1 1 = ",
     "626 645,1 1 1 = 626 647,1 1 1 = 628 62c,1 1 1 = 628 62d,1 1 1 = 628 62e,1 1 1 = 628 645,1 1 ",
     "1 = 628 647,1 1 1 = 62a 62c,1 1 1 = 62a 62d,1 1 1 = 62a 62e,1 1 1 = 62a 645,1 1 1 = 62a ",
     "647,1 1 1 = 62b 645,1 1 1 = 62c 62d,1 1 1 = 62c 645,1 1 1 = 62d 62c,1 1 1 = 62d 645,1 1 1 = ",
     "62e 62c,1 1 1 = 62e 645,1 1 1 = 633 62c,1 1 1 = 633 62d,1 1 1 = 633 62e,1 1 1 = 633 645,1 1 ",
     "1 = 635 62d,1 1 1 = 635 62e,1 1 1 = 635 645,1 1 1 = 636 62c,1 1 1 = 636 62d,1 1 1 = 636 ",
     "62e,1 1 1 = 636 645,1 1 1 = 637 62d,1 1 1 = 638 645,1 1 1 = 639 62c,1 1 1 = 639 645,1 1 1 = ",
     "63a 62c,1 1 1 = 63a 645,1 1 1 = 641 62c,1 1 1 = 641 62d,1 1 1 = 641 62e,1 1 1 = 641 645,1 1 ",
     "1 = 642 62d,1 1 1 = 642 645,1 1 1 = 643 62c,1 1 1 = 643 62d,1 1 1 = 643 62e,1 1 1 = 643 ",
     "644,1 1 1 = 643 645,1 1 1 = 644 62c,1 1 1 = 644 62d,1 1 1 = 644 62e,1 1 1 = 644 645,1 1 1 = ",
     "644 647,1 1 1 = 645 62c,1 1 1 = 645 62d,1 1 1 = 645 62e,1 1 1 = 645 645,1 1 1 = 646 62c,1 1 ",
     "1 = 646 62d,1 1 1 = 646 62e,1 1 1 = 646 645,1 1 1 = 646 647,1 1 1 = 647 62c,1 1 1 = 647 ",
     "645,1 1 1 = 647 670,1 1 1 = 64a 62c,1 1 1 = 64a 62d,1 1 1 = 64a 62e,1 1 1 = 64a 645,1 1 1 = ",
     "64a 647,1 1 1 = 626 645,1 1 1 = 626 647,1 1 1 = 628 645,1 1 1 = 628 647,1 1 1 = 62a 645,1 1 ",
     "1 = 62a 647,1 1 1 = 62b 645,1 1 1 = 62b 647,1 1 1 = 633 645,1 1 1 = 633 647,1 1 1 = 634 ",
     "645,1 1 1 = 634 647,1 1 1 = 643 644,1 1 1 = 643 645,1 1 1 = 644 645,1 1 1 = 646 645,1 1 1 = ",
     "646 647,1 1 1 = 64a 645,1 1 1 = 64a 647,1 1 1 = 640 64e 651,1 1 1 = 640 64f 651,1 1 1 = 640 ",
     "650 651,1 1 1 = 637 649,1 1 1 = 637 64a,1 1 1 = 639 649,1 1 1 = 639 64a,1 1 1 = 63a 649,1 1 ",
     "1 = 63a 64a,1 1 1 = 633 649,1 1 1 = 633 64a,1 1 1 = 634 649,1 1 1 = 634 64a,1 1 1 = 62d ",
     "649,1 1 1 = 62d 64a,1 1 1 = 62c 649,1 1 1 = 62c 64a,1 1 1 = 62e 649,1 1 1 = 62e 64a,1 1 1 = ",
     "635 649,1 1 1 = 635 64a,1 1 1 = 636 649,1 1 1 = 636 64a,1 1 1 = 634 62c,1 1 1 = 634 62d,1 1 ",
     "1 = 634 62e,1 1 1 = 634 645,1 1 1 = 634 631,1 1 1 = 633 631,1 1 1 = 635 631,1 1 1 = 636 ",
     "631,1 1 1 = 637 649,1 1 1 = 637 64a,1 1 1 = 639 649,1 1 1 = 639 64a,1 1 1 = 63a 649,1 1 1 = ",
     "63a 64a,1 1 1 = 633 649,1 1 1 = 633 64a,1 1 1 = 634 649,1 1 1 = 634 64a,1 1 1 = 62d 649,1 1 ",
     "1 = 62d 64a,1 1 1 = 62c 649,1 1 1 = 62c 64a,1 1 1 = 62e 649,1 1 1 = 62e 64a,1 1 1 = 635 ",
     "649,1 1 1 = 635 64a,1 1 1 = 636 649,1 1 1 = 636 64a,1 1 1 = 634 62c,1 1 1 = 634 62d,1 1 1 = ",
     "634 62e,1 1 1 = 634 645,1 1 1 = 634 631,1 1 1 = 633 631,1 1 1 = 635 631,1 1 1 = 636 631,1 1 ",
     "1 = 634 62c,1 1 1 = 634 62d,1 1 1 = 634 62e,1 1 1 = 634 645,1 1 1 = 633 647,1 1 1 = 634 ",
     "647,1 1 1 = 637 645,1 1 1 = 633 62c,1 1 1 = 633 62d,1 1 1 = 633 62e,1 1 1 = 634 62c,1 1 1 = ",
     "634 62d,1 1 1 = 634 62e,1 1 1 = 637 645,1 1 1 = 638 645,1 2 1 = 627 64b,14 1 1 = 62a 62c ",
     "645,1 2 1 = 62a 62d 62c,2 1 1 = 62a 62d 645,1 1 1 = 62a 62e 645,1 1 1 = 62a 645 62c,1 1 1 = ",
     "62a 645 62d,1 1 1 = 62a 645 62e,1 2 1 = 62c 645 62d,2 1 1 = 62d 645 64a,1 1 1 = 62d 645 ",
     "649,1 1 1 = 633 62d 62c,1 1 1 = 633 62c 62d,1 1 1 = 633 62c 649,1 2 1 = 633 645 62d,2 1 1 = ",
     "633 645 62c,1 2 1 = 633 645 645,2 2 1 = 635 62d 62d,2 1 1 = 635 645 645,1 2 1 = 634 62d ",
     "645,2 1 1 = 634 62c 64a,1 2 1 = 634 645 62e,2 2 1 = 634 645 645,2 1 1 = 636 62d 649,1 2 1 = ",
     "636 62e 645,2 2 1 = 637 645 62d,2 1 1 = 637 645 645,1 1 1 = 637 645 64a,1 1 1 = 639 62c ",
     "645,1 2 1 = 639 645 645,2 1 1 = 639 645 649,1 1 1 = 63a 645 645,1 1 1 = 63a 645 64a,1 1 1 = ",
     "63a 645 649,1 2 1 = 641 62e 645,2 1 1 = 642 645 62d,1 1 1 = 642 645 645,1 1 1 = 644 62d ",
     "645,1 1 1 = 644 62d 64a,1 1 1 = 644 62d 649,1 2 1 = 644 62c 62c,2 2 1 = 644 62e 645,2 2 1 = ",
     "644 645 62d,2 1 1 = 645 62d 62c,1 1 1 = 645 62d 645,1 1 1 = 645 62d 64a,1 1 1 = 645 62c ",
     "62d,1 1 1 = 645 62c 645,1 1 1 = 645 62e 62c,1 1 1 = 645 62e 645,3 1 1 = 645 62c 62e,1 1 1 = ",
     "647 645 62c,1 1 1 = 647 645 645,1 1 1 = 646 62d 645,1 1 1 = 646 62d 649,1 2 1 = 646 62c ",
     "645,2 1 1 = 646 62c 649,1 1 1 = 646 645 64a,1 1 1 = 646 645 649,1 2 1 = 64a 645 645,2 1 1 = ",
     "628 62e 64a,1 1 1 = 62a 62c 64a,1 1 1 = 62a 62c 649,1 1 1 = 62a 62e 64a,1 1 1 = 62a 62e ",
     "649,1 1 1 = 62a 645 64a,1 1 1 = 62a 645 649,1 1 1 = 62c 645 64a,1 1 1 = 62c 62d 649,1 1 1 = ",
     "62c 645 649,1 1 1 = 633 62e 649,1 1 1 = 635 62d 64a,1 1 1 = 634 62d 64a,1 1 1 = 636 62d ",
     "64a,1 1 1 = 644 62c 64a,1 1 1 = 644 645 64a,1 1 1 = 64a 62d 64a,1 1 1 = 64a 62c 64a,1 1 1 = ",
     "64a 645 64a,1 1 1 = 645 645 64a,1 1 1 = 642 645 64a,1 1 1 = 646 62d 64a,1 1 1 = 642 645 ",
     "62d,1 1 1 = 644 62d 645,1 1 1 = 639 645 64a,1 1 1 = 643 645 64a,1 1 1 = 646 62c 62d,1 1 1 = ",
     "645 62e 64a,1 1 1 = 644 62c 645,1 1 1 = 643 645 645,1 1 1 = 644 62c 645,1 1 1 = 646 62c ",
     "62d,1 1 1 = 62c 62d 64a,1 1 1 = 62d 62c 64a,1 1 1 = 645 62c 64a,1 1 1 = 641 645 64a,1 1 1 = ",
     "628 62d 64a,1 1 1 = 643 645 645,1 1 1 = 639 62c 645,1 1 1 = 635 645 645,1 1 1 = 633 62e ",
     "64a,1 1 1 = 646 62c 64a,29 1 1 = 635 644 6d2,1 1 1 = 642 644 6d2,1 1 1 = 627 644 644 647,1 ",
     "1 1 = 627 643 628 631,1 1 1 = 645 62d 645 62f,1 1 1 = 635 644 639 645,1 1 1 = 631 633 648 ",
     "644,1 1 1 = 639 644 64a 647,1 1 1 = 648 633 644 645,1 1 1 = 635 644 649,1 1 1 = 635 644 649 ",
     "20 627 644 644 647 20 639 644 64a 647 20 648 633 644 645,1 1 1 = 62c 644 20 62c 644 627 644 ",
     "647,1 1 1 = 631 6cc 627 644,4 10 1 =,10 1 1 -fde4,1 1 1 -ce10,2 2 1 -fdd9,2 1 1 -fdf4,1 1 1 ",
     "-fdd7,1 2 1 -ce01,1a 1 1 -de1d,1 1 1 -de1f,1 2 1 = 5f,2 2 1 -fe0d,2 1 1 -fdbc,1 1 1 -fdbb,1 ",
     "2 1 -ce25,2 2 1 -ce2b,2 2 1 -ce33,2 2 1 -ce37,2 4 1 -ce35,6 1 1 -fdec,1 1 1 -fdeb,1 4 1 = ",
     "20 305,4 3 1 = 5f,3 1 1 -fe24,1 1 1 -ce50,3 1 1 -fe19,1 1 1 -fe1b,1 1 1 -fe17,1 1 1 -fe36,1 ",
     "1 1 -de44,1 2 1 -fe31,2 1 1 -fde0,1 1 1 -fddf,1 2 1 -ce49,2 1 1 -fe3c,1 1 1 -fe3a,1 2 1 ",
     "-fe37,2 1 1 -fe36,1 1 1 -fe28,1 1 1 -fe27,1 1 1 -fe29,2 1 1 -fe0c,1 2 1 -fe45,2 1 1 -fe2b,5 ",
     "1 1 = 20 64b,1 1 1 = 640 64b,1 1 1 = 20 64c,2 1 1 = 20 64d,2 1 1 = 20 64e,1 1 1 = 640 64e,1 ",
     "1 1 = 20 64f,1 1 1 = 640 64f,1 1 1 = 20 650,1 1 1 = 640 650,1 1 1 = 20 651,1 1 1 = 640 ",
     "651,1 1 1 = 20 652,1 1 1 = 640 652,1 2 1 -f85f,2 2 1 -f860,2 2 1 -f861,2 2 1 -f862,2 2 1 ",
     "-f863,2 3 1 = 626,3 2 1 = 627,2 4 1 = 628,4 2 1 = 629,2 4 1 = 62a,4 4 1 = 62b,4 4 1 = 62c,4 ",
     "4 1 = 62d,4 4 1 = 62e,4 2 1 = 62f,2 2 1 = 630,2 2 1 = 631,2 2 1 = 632,2 4 1 = 633,4 4 1 = ",
     "634,4 4 1 = 635,4 4 1 = 636,4 4 1 = 637,4 4 1 = 638,4 4 1 = 639,4 4 1 = 63a,4 4 1 = 641,4 4 ",
     "1 = 642,4 4 1 = 643,4 4 1 = 644,4 4 1 = 645,4 4 1 = 646,4 4 1 = 647,4 2 1 = 648,2 2 1 = ",
     "649,2 4 1 = 64a,4 2 1 = 644 622,2 2 1 = 644 623,2 2 1 = 644 625,2 2 1 = 644 627,4 1 1 =,2 ",
     "20 1 -fee0,20 1a 1 -fec0,1a 24 1 -fee0,24 2 1 -d5da,2 1 1 -ff33,1 2 1 -cf56,2 1 1 -cf63,1 1 ",
     "1 -ce6a,1 1 1 -ce74,1 1 1 -cec6,1 1 1 -cec5,1 1 1 -cec4,1 1 1 -cec3,1 1 1 -cec2,1 1 1 ",
     "-ce89,1 1 1 -ce88,1 1 1 -ce87,1 1 1 -ceac,1 1 1 -ce74,1 1 1 -cecf,1 1 1 -cece,1 1 1 -cecd,1 ",
     "1 1 -cecc,1 2 1 -cecb,2 1 1 -ceca,1 1 1 -cec9,1 1 1 -cec8,1 1 1 -cec7,1 1 1 -cec6,1 1 1 ",
     "-cec5,1 1 1 -cec4,1 1 1 -cec3,1 1 1 -cec2,1 1 1 -cec1,1 1 1 -cec0,1 1 1 -cebe,1 1 1 -cebd,1 ",
     "1 1 -cebc,1 6 1 -cebb,6 1 1 -ceb9,1 1 1 -ceb7,1 1 1 -ceb5,1 1 1 -ceb3,1 5 1 -ceb1,5 1 1 ",
     "-ceb0,1 1 1 -ceaf,1 6 1 -ceae,6 1 1 -cead,1 1 1 -ceaa,1 2 1 -cf05,2 1 1 =,1 2 1 -eea1,2 1 1 ",
     "-edf9,1 1 1 -eea2,1 2 1 -edf9,2 3 1 -eea4,3 6 1 -edfa,6 1 1 -ee96,1 3 1 -eeab,3 1 1 -ee93,1 ",
     "a 1 -eeac,d 6 1 -ee61,8 6 1 -ee63,8 6 1 -ee65,8 3 1 -ee67,6 2 1 -ff3e,2 1 1 -ff36,1 1 1 = ",
     "20 304,1 1 1 -ff3e,1 1 1 -ff40,1 1 1 -df3d,2 1 1 -dae6,1 4 1 -de59,4 1 1 -da4d,1 1 1 ",
     "-da23,412 28 1 +28,b0 24 1 +28,c0 b 1 +27,c f 1 +27,10 7 1 +27,8 2 1 +27,1ed 2 1 -104b1,2 1 ",
     "1 -1069d,1 1 1 -104eb,1 1 1 -10532,2 1 1 -104e4,1 1 1 -5c22,1 1 1 -104e4,1 1 1 -104e6,1 2 1 ",
     "-10535,2 1 1 -e9fc,1 1 1 -10536,1 1 1 -10531,1 1 1 -104e7,1 1 1 -1052d,1 1 1 -10530,1 1 1 ",
     "-10533,1 1 1 -104f9,1 1 1 -1066e,1 1 1 -104fa,1 1 1 -10530,1 1 1 -10514,1 2 1 -104ef,2 1 1 ",
     "-1052f,1 1 1 +d768,1 1 1 -600f,1 1 1 -10530,1 1 1 +d766,1 1 1 -10512,1 1 1 +d765,1 1 1 ",
     "-106aa,1 2 1 -1052d,2 1 1 -10734,1 1 1 -1052c,1 1 1 +d761,1 2 1 -1052b,2 1 1 -1052a,1 1 1 ",
     "-10503,1 1 1 -10506,1 1 1 -5c46,1 1 1 -10507,1 1 1 -10527,1 1 1 -db3f,2 1 1 -10523,1 2 1 ",
     "-10512,2 1 1 -1051d,1 3 1 -105f6,3 1 1 +d751,1 1 1 +d764,4c6 33 1 +40,d0 16 1 +20,b50 20 1 ",
     "+20,55a0 20 1 +20,60 19 1 +1b,4e00 4 1 =,1036 1a 1 -1cc75,1a a 1 -1ccc0,46e 1 1 = 1d157 ",
     "1d165,1 1 1 = 1d158 1d165,1 1 1 = 1d158 1d165 1d16e,1 1 1 = 1d158 1d165 1d16f,1 1 1 = 1d158 ",
     "1d165 1d170,1 1 1 = 1d158 1d165 1d171,1 1 1 = 1d158 1d165 1d172,f 8 1 =,48 1 1 = 1d1b9 ",
     "1d165,1 1 1 = 1d1ba 1d165,1 1 1 = 1d1b9 1d165 1d16e,1 1 1 = 1d1ba 1d165 1d16e,1 1 1 = 1d1b9 ",
     "1d165 1d16f,1 1 1 = 1d1ba 1d165 1d16f,240 1a 1 -1d39f,1a 1a 1 -1d3b9,1a 1a 1 -1d3d3,1a 7 1 ",
     "-1d3ed,8 12 1 -1d3ed,12 1a 1 -1d407,1a 1a 1 -1d421,1a 2 2 -1d43b,3 1 1 -1d43b,3 1 1 ",
     "-1d43b,3 2 1 -1d43b,4 4 1 -1d43b,5 8 1 -1d43b,8 4 1 -1d455,5 2 2 -1d455,3 6 1 -1d455,7 b 1 ",
     "-1d455,b 1a 1 -1d46f,1a 1a 1 -1d489,1a 2 1 -1d4a3,3 4 1 -1d4a3,6 8 1 -1d4a3,9 7 1 -1d4a3,8 ",
     "1a 1 -1d4bd,1a 2 1 -1d4d7,3 4 1 -1d4d7,5 5 1 -1d4d7,6 1 1 -1d4d7,4 7 1 -1d4d7,8 1a 1 ",
     "-1d4f1,1a 1a 1 -1d50b,1a 1a 1 -1d525,1a 1a 1 -1d53f,1a 1a 1 -1d559,1a 1a 1 -1d573,1a 1a 1 ",
     "-1d58d,1a 1a 1 -1d5a7,1a 1a 1 -1d5c1,1a 1a 1 -1d5db,1a 1a 1 -1d5f5,1a 1a 1 -1d60f,1a 1a 1 ",
     "-1d629,1a 1 1 -1d573,1 1 1 -1d46e,3 11 1 -1d2f7,11 1 1 -1d301,1 7 1 -1d2f7,7 1 1 -1b4ba,1 ",
     "11 1 -1d311,11 2 1 = 3c3,2 6 1 -1d311,6 1 1 -1b4d9,1 1 1 -1d327,1 1 1 -1d325,1 1 1 -1d324,1 ",
     "1 1 -1d319,1 1 1 -1d31f,1 1 1 -1d321,1 11 1 -1d331,11 1 1 -1d33b,1 7 1 -1d331,7 1 1 ",
     "-1b4f4,1 11 1 -1d34b,11 2 1 = 3c3,2 6 1 -1d34b,6 1 1 -1b513,1 1 1 -1d361,1 1 1 -1d35f,1 1 1 ",
     "-1d35e,1 1 1 -1d353,1 1 1 -1d359,1 1 1 -1d35b,1 11 1 -1d36b,11 1 1 -1d375,1 7 1 -1d36b,7 1 ",
     "1 -1b52e,1 11 1 -1d385,11 2 1 = 3c3,2 6 1 -1d385,6 1 1 -1b54d,1 1 1 -1d39b,1 1 1 -1d399,1 1 ",
     "1 -1d398,1 1 1 -1d38d,1 1 1 -1d393,1 1 1 -1d395,1 11 1 -1d3a5,11 1 1 -1d3af,1 7 1 -1d3a5,7 ",
     "1 1 -1b568,1 11 1 -1d3bf,11 2 1 = 3c3,2 6 1 -1d3bf,6 1 1 -1b587,1 1 1 -1d3d5,1 1 1 -1d3d3,1 ",
     "1 1 -1d3d2,1 1 1 -1d3c7,1 1 1 -1d3cd,1 1 1 -1d3cf,1 11 1 -1d3df,11 1 1 -1d3e9,1 7 1 ",
     "-1d3df,7 1 1 -1b5a2,1 11 1 -1d3f9,11 2 1 = 3c3,2 6 1 -1d3f9,6 1 1 -1b5c1,1 1 1 -1d40f,1 1 1 ",
     "-1d40d,1 1 1 -1d40c,1 1 1 -1d401,1 1 1 -1d407,1 1 1 -1d409,1 2 1 = 3dd,4 a 1 -1d79e,a a 1 ",
     "-1d7a8,a a 1 -1d7b2,a a 1 -1d7bc,a a 1 -1d7c6,83a 9 1 -1dc00,9 3 1 -1dbff,3 b 1 -1dbfe,b 1 ",
     "1 -1dbfc,1 2 1 -1dbfb,2 1 1 -139c1,1 1 1 -1db72,1 1 1 -1dbf6,1 1 1 -1dbf5,1 1 1 -1db65,1 1 ",
     "1 -1dba0,1 1 1 -1db81,1 9 1 -1dc21,9 2 1 -1dc20,2 2 1 -1dc1e,2 1 1 -1dc1d,1 6 1 -1dc1c,6 2 ",
     "1 -1dc1b,2 1 1 -1dbd6,1 1 1 -1dc12,1 1 1 -1dc14,1 1 1 -1dc0b,1 1 1 -1dbc0,1 1 1 -13a1b,1 1 ",
     "1 -1dbbc,893 22 1 +22,500 2 1 -1e7d9,2 1 1 -1e7d6,1 1 1 -1e7d4,2 1 1 -1e7bd,1 1 1 -1e7d4,1 ",
     "1 1 -1e7da,1 1 1 -1e7d1,1 1 1 -1e7bf,1 4 1 -1e7c7,4 1 1 -1e7db,1 1 1 -1e7d6,1 1 1 -1e7cf,1 ",
     "1 1 -1e7dc,1 1 1 -1e7d0,1 1 1 -1e7e2,1 1 1 -1e7e0,1 2 1 -1e7eb,2 1 1 -1e7e9,1 1 1 -1e7e8,1 ",
     "1 1 -1e7e3,1 1 1 -1e7e2,1 1 1 -1e7e1,1 1 1 -1e7ae,1 1 1 -1e763,1 1 1 -1e77d,1 1 1 -1e7b0,2 ",
     "1 1 -1e7f9,1 1 1 -1e7f6,2 1 1 -1e7dd,3 1 1 -1e7fa,2 1 1 -1e7df,1 4 1 -1e7e7,4 1 1 -1e7fb,1 ",
     "1 1 -1e7f6,1 1 1 -1e7ef,1 1 1 -1e7fc,1 1 1 -1e7f0,2 1 1 -1e800,1 2 1 -1e80b,2 1 1 -1e809,2 ",
     "1 1 -1e803,2 1 1 -1e801,7 1 1 -1e816,5 1 1 -1e81a,2 1 1 -1e7ff,2 2 2 -1e807,3 1 1 -1e81b,1 ",
     "1 1 -1e816,2 1 1 -1e81c,1 1 1 -1e810,2 1 1 -1e820,3 1 1 -1e829,2 1 1 -1e823,2 1 1 -1e821,2 ",
     "1 1 -1e7a3,2 1 1 -1e7f0,2 1 1 -1e839,1 1 1 -1e836,2 1 1 -1e81d,3 1 1 -1e83a,1 1 1 -1e831,1 ",
     "1 1 -1e81f,1 2 2 -1e827,3 1 1 -1e827,1 1 1 -1e83b,1 1 1 -1e836,1 1 1 -1e82f,1 1 1 -1e83c,1 ",
     "1 1 -1e830,2 1 1 -1e840,1 2 1 -1e84b,2 1 1 -1e849,2 1 1 -1e843,1 1 1 -1e842,1 1 1 -1e841,1 ",
     "1 1 -1e80e,2 1 1 -1e7dd,2 2 1 -1e859,2 1 1 -1e856,1 1 1 -1e854,1 2 1 -1e83d,2 1 1 -1e854,1 ",
     "1 1 -1e85a,1 1 1 -1e851,1 1 1 -1e83f,2 3 1 -1e847,3 1 1 -1e85b,1 1 1 -1e856,1 1 1 -1e84f,1 ",
     "1 1 -1e85c,1 1 1 -1e850,1 1 1 -1e862,1 1 1 -1e860,1 2 1 -1e86b,2 1 1 -1e869,1 1 1 -1e868,1 ",
     "1 1 -1e863,1 1 1 -1e862,1 1 1 -1e861,6 1 1 -1e879,1 1 1 -1e876,1 1 1 -1e874,2 1 1 -1e85d,1 ",
     "1 1 -1e874,1 1 1 -1e87a,1 1 1 -1e871,1 1 1 -1e85f,2 3 1 -1e867,3 1 1 -1e87b,1 1 1 -1e876,1 ",
     "1 1 -1e86f,1 1 1 -1e87c,1 1 1 -1e870,1 1 1 -1e882,1 1 1 -1e880,1 2 1 -1e88b,2 1 1 -1e889,1 ",
     "1 1 -1e888,1 1 1 -1e883,1 1 1 -1e882,1 1 1 -1e881,246 1 1 = 30 2c,1 1 1 = 31 2c,1 1 1 = 32 ",
     "2c,1 1 1 = 33 2c,1 1 1 = 34 2c,1 1 1 = 35 2c,1 1 1 = 36 2c,1 1 1 = 37 2c,1 1 1 = 38 2c,1 1 ",
     "1 = 39 2c,6 1 1 = 28 61 29,1 1 1 = 28 62 29,1 1 1 = 28 63 29,1 1 1 = 28 64 29,1 1 1 = 28 65 ",
     "29,1 1 1 = 28 66 29,1 1 1 = 28 67 29,1 1 1 = 28 68 29,1 1 1 = 28 69 29,1 1 1 = 28 6a 29,1 1 ",
     "1 = 28 6b 29,1 1 1 = 28 6c 29,1 1 1 = 28 6d 29,1 1 1 = 28 6e 29,1 1 1 = 28 6f 29,1 1 1 = 28 ",
     "70 29,1 1 1 = 28 71 29,1 1 1 = 28 72 29,1 1 1 = 28 73 29,1 1 1 = 28 74 29,1 1 1 = 28 75 ",
     "29,1 1 1 = 28 76 29,1 1 1 = 28 77 29,1 1 1 = 28 78 29,1 1 1 = 28 79 29,1 1 1 = 28 7a 29,1 1 ",
     "1 = 3014 73 3015,1 1 1 -1f0c8,1 1 1 -1f0ba,1 1 1 = 63 64,1 1 1 = 77 7a,2 1a 1 -1f0cf,1a 1 1 ",
     "= 68 76,1 1 1 = 6d 76,1 1 1 = 73 64,1 1 1 = 73 73,1 1 1 = 70 70 76,1 1 1 = 77 63,1b 1 1 = ",
     "6d 63,1 1 1 = 6d 64,1 1 1 = 6d 72,24 1 1 = 64 6a,70 1 1 = 307b 304b,1 1 1 = 30b3 30b3,1 1 1 ",
     "-1c14d,e 1 1 -18fc5,1 1 1 -196ba,1 1 1 -19e46,1 1 1 -1c14c,1 1 1 -1a388,1 1 1 -198fb,1 1 1 ",
     "-16833,1 1 1 -198ee,1 1 1 -1a374,1 1 1 -18bf9,1 1 1 -180f9,1 1 1 -18c82,1 1 1 -19fcf,1 1 1 ",
     "-19291,1 1 1 -1a091,1 1 1 -18c6f,1 1 1 -1a003,1 1 1 -174df,1 1 1 -17d03,1 1 1 -1657a,1 1 1 ",
     "-19934,1 1 1 -19dec,1 1 1 -18312,1 1 1 -18f92,1 1 1 -18ed3,1 1 1 -1a429,1 1 1 -1a421,1 1 1 ",
     "-161e1,1 1 1 -19446,1 1 1 -1a400,1 1 1 -19e3b,1 1 1 -18f28,1 1 1 -164c0,1 1 1 -18fde,1 1 1 ",
     "-178b1,1 1 1 -177b9,1 1 1 -19e2c,1 1 1 -183b5,1 1 1 -18b2d,1 1 1 -18b2f,1 1 1 -17d05,1 1 1 ",
     "-19fc7,1 1 1 -19c84,1 1 1 -160ee,5 1 1 = 3014 672c 3015,1 1 1 = 3014 4e09 3015,1 1 1 = 3014 ",
     "4e8c 3015,1 1 1 = 3014 5b89 3015,1 1 1 = 3014 70b9 3015,1 1 1 = 3014 6253 3015,1 1 1 = 3014 ",
     "76d7 3015,1 1 1 = 3014 52dd 3015,1 1 1 = 3014 6557 3015,8 1 1 -192b9,1 1 1 -19e62,99f a 1 ",
     "-1fbc0,fc10 1 1 -2a9c3,1 1 1 -2a9c9,1 1 1 -2a9c1,1 1 1 -f6e1,1 1 1 -2a8a4,1 1 1 -2a857,1 1 ",
     "1 -2a84b,1 1 1 -2a805,1 1 1 -2a78e,1 1 1 -2a770,1 1 1 -2a723,1 1 1 -2a73c,1 1 1 -2c36e,1 1 ",
     "1 -f1d3,1 1 1 -2a6c1,1 1 1 -2a6bb,1 1 1 -2a6ac,1 1 1 -2a69a,1 1 1 -f2f6,1 1 1 -2c35a,1 1 1 ",
     "-2a6ad,1 1 1 -2a688,1 1 1 -f2cb,1 1 1 -2a680,1 1 1 -2a674,1 1 1 -2a94d,1 1 1 -2a66e,1 1 1 ",
     "-2a666,1 1 1 -663d,1 1 1 -2a628,1 1 1 -2a61b,1 1 1 -2c340,1 1 1 -2a5e5,1 1 1 -2a5db,1 1 1 ",
     "-2a5b0,1 1 1 -2a5ac,1 1 1 -2c30f,1 1 1 -2a55e,1 1 1 -2a55d,1 1 1 -2a543,1 1 1 -2a52e,1 2 1 ",
     "-2a524,2 1 1 -2a514,1 1 1 -2a4e3,1 1 1 -2a4dc,1 1 1 -2a4d4,1 1 1 -2a4bc,1 1 1 -2a4b3,1 3 1 ",
     "= 537f,3 1 1 -ee08,1 1 1 -287c5,1 1 1 -2a46c,1 1 1 -2a458,1 1 1 -ecd5,1 1 1 -2a44e,1 1 1 ",
     "-2a449,1 1 1 -2a435,1 1 1 -2a39e,1 1 1 -2a405,1 1 1 -2a3f6,1 1 1 -2a3d7,1 1 1 -2a39e,1 1 1 ",
     "-2a34b,1 1 1 -2a332,1 1 1 -2a2f0,1 1 1 -2a2e1,1 2 1 = 5584,2 1 1 -2a2ae,1 1 1 -2a29d,1 1 1 ",
     "-2a296,1 1 1 -2a288,1 1 1 -2a135,1 1 1 -2a246,1 1 1 -2a136,1 1 1 -2a1fd,1 1 1 -2a1db,1 1 1 ",
     "-2a649,1 1 1 -29f63,1 1 1 -2a084,1 1 1 -2a05f,1 1 1 -2a047,1 1 1 -2a0ca,1 1 1 -2a024,1 1 1 ",
     "-2a026,1 1 1 -29fac,1 1 1 -e375,1 1 1 -29f68,1 1 1 -29f64,1 1 1 -29f56,1 1 1 -29f43,1 1 1 ",
     "-29f3c,1 1 1 -29efd,1 1 1 -e1b8,1 1 1 -e177,1 1 1 -29e76,1 1 1 -29e48,1 1 1 -29e3d,1 1 1 ",
     "-29e8d,1 1 1 -29e00,1 1 1 -2c179,1 1 1 -2c16c,1 1 1 -29d61,1 2 1 = 5b3e,2 1 1 -dea4,1 1 1 ",
     "-29caa,1 1 1 -29c96,1 1 1 -29c88,1 1 1 -29c7d,1 1 1 -dd59,1 1 1 -29c73,1 1 1 -29c6d,1 1 1 ",
     "-29921,1 1 1 -29c53,1 1 1 -2c0f5,1 1 1 -29c17,1 1 1 -29c0a,1 1 1 -29bb9,1 1 1 -29bed,1 1 1 ",
     "-da97,1 1 1 -29b39,1 1 1 -da97,1 1 1 -29b10,1 1 1 -29b14,1 1 1 -29b04,1 2 1 -29aa0,2 1 1 ",
     "-2c054,1 1 1 -29a87,1 1 1 -29a5d,1 1 1 -29a49,1 1 1 -29a1e,1 1 1 -2c026,1 1 1 -d706,1 1 1 ",
     "-2c00e,1 1 1 -299db,1 1 1 -299d9,1 1 1 -299d7,1 1 1 -299c4,1 1 1 -54fd,1 1 1 -29992,1 2 1 = ",
     "22331,2 1 1 -27692,1 2 1 = 5f22,2 1 1 -2bfcf,1 1 1 -c5df,1 1 1 -96be,1 1 1 -29937,1 1 1 ",
     "-2992f,1 1 1 -2bfb8,1 1 1 -29902,1 1 1 -298d0,1 1 1 -298c7,1 1 1 -298a6,1 1 1 -2981f,1 1 1 ",
     "-2bf67,1 1 1 -2bf86,1 1 1 -2980f,1 1 1 -d1d0,1 1 1 -297de,1 1 1 -2975e,1 1 1 -2975b,1 1 1 ",
     "-2975a,1 1 1 -2975d,1 1 1 -29730,1 1 1 -2971d,1 1 1 -296fa,1 1 1 -29709,1 1 1 -296ff,1 1 1 ",
     "-296d1,1 1 1 -296be,1 1 1 -296bb,1 1 1 -296a2,1 1 1 -29698,1 1 1 -29657,1 1 1 -29604,1 1 1 ",
     "-295e2,1 1 1 -29567,1 1 1 -cdac,1 1 1 -2957c,1 1 1 -295be,1 1 1 -29553,1 1 1 -29539,1 1 1 ",
     "-294d9,1 1 1 -cccd,1 1 1 -2949d,1 1 1 -294fb,1 1 1 -29518,1 1 1 -2be94,1 1 1 -2945a,1 1 1 ",
     "-29446,1 1 1 -29428,1 1 1 -2944f,1 1 1 -2be5b,1 1 1 -29379,1 1 1 -2935d,1 1 1 -c8c0,1 1 1 ",
     "-292e8,1 1 1 -291d4,1 1 1 -29284,1 1 1 -2bdb5,1 1 1 -2923e,1 1 1 -2bdc8,1 1 1 -2bded,1 1 1 ",
     "-2a740,1 1 1 -2a73e,1 1 1 -291d4,1 1 1 -29239,1 1 1 -27829,1 1 1 -2b4fe,1 1 1 -291c1,1 1 1 ",
     "-291be,1 1 1 -291b9,1 1 1 -2917d,1 1 1 -29189,1 1 1 -c51a,1 1 1 -2bd95,1 1 1 -290e5,1 1 1 ",
     "-2915b,1 1 1 -2908f,1 1 1 -2905d,1 1 1 -c476,1 1 1 -29056,1 1 1 -290c6,1 1 1 -28fd2,1 1 1 ",
     "-2bd4a,1 1 1 -28fa6,1 1 1 -28f46,1 1 1 -28f00,1 1 1 -28e43,1 1 1 -c249,1 1 1 -28e12,1 1 1 ",
     "-2bcd6,1 1 1 -28dce,1 1 1 -c049,1 1 1 -28d9d,1 1 1 -2bca4,1 1 1 -28d81,1 1 1 -28d55,1 2 1 ",
     "-28d3b,2 1 1 -be6a,1 1 1 -dbed,1 1 1 -bdff,1 1 1 -28cac,1 1 1 -bc3f,1 1 1 -28c3d,1 1 1 ",
     "-28c30,1 1 1 -28c97,1 1 1 -28be9,1 1 1 -28bc2,1 1 1 -28b8a,1 1 1 -28bc1,1 1 1 -28b9a,1 1 1 ",
     "-28b8c,1 1 1 -28b80,1 1 1 -bbe8,1 1 1 -28bd3,1 1 1 -28ad9,1 1 1 -28a9b,1 1 1 -2bbd7,1 1 1 ",
     "-28a40,1 1 1 -28a45,1 1 1 -ba3c,1 1 1 -28b15,1 1 1 -289a1,1 1 1 -b9b2,1 1 1 -b983,1 1 1 ",
     "-2894c,1 1 1 -288da,1 1 1 -288f6,1 1 1 -288fa,1 1 1 -2bb80,1 1 1 -288cd,1 1 1 -2889b,1 1 1 ",
     "-288a2,1 1 1 -2886d,1 1 1 -f3f6,1 1 1 -287d7,1 1 1 -b6ba,1 1 1 -28782,1 1 1 -b574,1 1 1 ",
     "-286f8,1 1 1 -286ec,1 1 1 -286d2,1 1 1 -b31b,1 1 1 -286a4,1 1 1 -28690,1 1 1 -b1f1,1 1 1 ",
     "-b113,1 1 1 -285ae,1 1 1 -2859e,1 1 1 -2ba7e,1 1 1 -28586,1 2 1 = 3eb8,2 1 1 -284e7,1 1 1 ",
     "-284d3,1 1 1 -284bf,1 1 1 -284ac,1 1 1 -28468,1 1 1 -2ba18,1 1 1 -28410,1 1 1 -acff,1 1 1 ",
     "-283f8,1 1 1 -aca5,1 1 1 -283c8,1 1 1 -d79a,1 1 1 -2832a,1 1 1 -a99a,1 1 1 -a984,1 1 1 ",
     "-a8f9,1 1 1 -2b942,1 1 1 -2b937,1 1 1 -2824c,1 1 1 -a84e,1 1 1 -a850,1 1 1 -a82a,1 1 1 ",
     "-a811,1 2 1 -28227,2 1 1 -28228,1 1 1 -281fe,1 1 1 -2b910,1 1 1 -281bf,1 1 1 -2b905,1 1 1 ",
     "-2b8b6,1 1 1 -a530,1 1 1 -28100,1 1 1 -280c3,1 1 1 -28084,1 1 1 -2b86e,1 1 1 -a32c,1 1 1 ",
     "-27ffd,1 1 1 -a2ba,1 1 1 -a290,1 1 1 -27fc7,1 1 1 -27f6c,1 1 1 -2b829,1 1 1 -27f19,1 1 1 ",
     "-27f10,1 1 1 -27f0c,1 1 1 -9fe0,1 2 1 = 25aa7,2 1 1 -27e71,1 1 1 -2b75e,1 1 1 -9db6,1 1 1 ",
     "-27d9c,1 1 1 -27d9a,1 1 1 -2b73d,1 1 1 -9ce5,1 1 1 -27c94,1 1 1 -2b6c7,1 1 1 -27c80,1 1 1 ",
     "-27c86,1 1 1 -27c6a,1 1 1 -99e5,1 1 1 -27c09,1 1 1 -2b66c,1 1 1 -27ba7,1 1 1 -27b6d,1 1 1 ",
     "-27b2b,1 1 1 -2b63d,1 1 1 -974a,1 1 1 -972c,1 1 1 -2b61b,1 1 1 -969c,1 1 1 -279fc,1 1 1 ",
     "-9639,1 1 1 -279e3,1 1 1 -2797f,1 1 1 -27975,1 1 1 -94a1,1 1 1 -9459,1 1 1 -2791d,1 1 1 ",
     "-93d6,1 1 1 -2790f,1 1 1 -c621,1 1 1 -2b5ac,1 1 1 -278d0,1 1 1 -27880,1 1 1 -2b579,1 1 1 ",
     "-27847,1 1 1 -29ed1,1 1 1 -91e0,1 1 1 -91d3,1 1 1 -c5f6,1 1 1 -c5ee,1 1 1 -2778a,1 1 1 ",
     "-27788,1 1 1 -269ef,1 1 1 -2b523,1 1 1 -276fe,1 1 1 -27705,1 1 1 -276f4,1 1 1 -2a6df,1 1 1 ",
     "-276e2,1 1 1 -276e1,1 1 1 -276d8,1 1 1 -276b0,1 1 1 -8e5b,1 1 1 -276b3,1 1 1 -2767c,1 1 1 ",
     "-27637,1 1 1 -275ee,1 1 1 -27679,1 1 1 -275e0,1 1 1 -275b7,1 1 1 -27548,1 1 1 -2764d,1 1 1 ",
     "-275d7,1 1 1 -275d6,1 1 1 -275c7,1 1 1 -8d6e,1 1 1 -8c3a,1 1 1 -8cd1,1 1 1 -2b47c,1 1 1 ",
     "-274b7,1 1 1 -274b6,1 1 1 -27494,1 1 1 -85e1,1 1 1 -27448,1 1 1 -8a81,1 1 1 -2b451,1 1 1 ",
     "-2b44e,1 1 1 -89ff,1 1 1 -88df,1 1 1 -2b447,1 1 1 -27363,1 1 1 -27358,1 1 1 -2734e,1 1 1 ",
     "-2734d,1 1 1 -2730e,1 1 1 -27330,1 1 1 -272ab,1 1 1 -272d8,1 1 1 -27242,1 1 1 -27294,1 1 1 ",
     "-27252,1 1 1 -27238,1 1 1 -2b3e8,1 1 1 -271df,1 1 1 -271c0,1 1 1 -2b3c9,1 1 1 -27163,1 1 1 ",
     "-27161,1 1 1 -835e,1 1 1 -270ef,1 1 1 -270e9,1 1 1 -2b393,1 1 1 -270cf,1 1 1 -2c50f,1 1 1 ",
     "-811d,1 1 1 -8066,1 1 1 -2b30f,1 1 1 -2b307,1 1 1 -26f2f,1 1 1 -26ee3,1 1 1 -26e47,1 1 1 ",
     "-26d7d,1 1 1 -7d2b,1 1 1 -26d29,1 1 1 -26d14,1 1 1 -26cbb,1 1 1 -26c60,1 1 1 -7aa9,1 1 1 ",
     "-f1d5,1 1 1 -26c0f,1 1 1 -26c1f,1 1 1 -26bec,1 1 1 -f0ff,1 1 1 -26b0a,1 1 1 -26aa7,1 1 1 ",
     "-740e,1 1 1 -73f4,1 1 1 -2694e,1 1 1 -268f2,1 1 1 -268d3,1 1 1 -72b7,1 1 1 -268cb,1 1 1 ",
     "-267af,1 2 1 -26711,2 1 1 -2676e,1 1 1 -265f2,1 1 1 -265d7,1 1 1 -6df3,1 1 1 -26463,1 1 1 ",
     "-2b05a,1 1 1 -26439,1 1 1 -6c7a,1 1 1 -2b00c,1 1 1 -26330,1 1 1 -29c42,1 1 1 -262d2,1 1 1 ",
     "-68b1,1 1 1 -67dd,1 1 1 -2af8a,1 1 1 -2af83,1 1 1 -2621a,1 1 1 -65f1,1 1 1 -2af4a,1 1 1 ",
     "-6567,1 2 1 = 980b,2 1 1 -261d7,1 1 1 -644b,1 1 1 -26120,1 1 1 -2aed0,1 1 1 -260db,1 1 1 ",
     "-2605e,1 1 1 -26044,1 1 1 -26009,1 1 1 -2ae3a,1 1 1 -5ed9,1 1 1 -25ef8,1 1 1 -25dcb,1 1 1 ",
     "-25d0f,1 1 1 -2ad3f,1 1 1 -2ad21,1 1 1 -25ca8,1 1 1 -5942,1 1 1 -2ad19,1 1 1 -590d,1 1 1 ",
     "-5805,1 1 1 -5783,1 1 1 -25b5a,1 1 1 -2acc0,1 1 1 -25b1e,1 1 1 -25b1a,1 1 1 -25b14,1 1 1 ",
     "-25b0b,1 1 1 -25b05,1 1 1 -25ae1,1 1 1 -541d,b06e3 f0 1 ="])

end Domain

end CorpusBench
