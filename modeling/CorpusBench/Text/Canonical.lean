import CorpusBench.Text.CodeSet

/-!
# Canonical equivalence data

The data that putting text into normal form C needs, from version 17 of the Unicode character
database.

* The **combining class** of a code point orders marks that may be swapped: `0` for starters,
  and for marks a number naming where the mark attaches.  `9` is the class of viramas.
* The **canonical decomposition** of a code point is the sequence of starters and marks it is
  canonically equivalent to, taken all the way down; Hangul syllables are decomposed by
  arithmetic and are not in the table.
* The **composition** of two code points is the character whose canonical decomposition is the
  pair, for the characters that normal form C composes (not those excluded from composition).
  The table is keyed by `first * 0x110000 + second`.

## Main definitions

* `Text.combiningClass`, `Text.decomposition?`,
  `Text.composition?`.
-/

namespace CorpusBench

namespace Text

/-- The combining classes, by runs. -/
def combiningClassTable : ClassTable := ClassTable.ofText
  (String.join
    ["0 0 300 e6 15 e8 1 dc 4 e8 1 d8 1 dc 5 ca 2 dc 4 ca 2 dc b 1 5 dc 4 e6 3 0 2 e6 1 0 2 f0 1 ",
     "e6 1 dc 3 e6 3 dc 2 0 1 e6 3 dc 4 e6 1 e8 1 dc 2 e6 1 e9 1 ea 2 e9 1 ea 2 e9 1 e6 d 0 113 ",
     "e6 5 0 109 dc 1 e6 4 dc 1 e6 3 de 1 dc 1 e6 6 dc 6 e6 2 dc 1 e6 2 de 1 e4 1 e6 1 a 1 b 1 c ",
     "1 d 1 e 1 f 1 10 1 11 1 12 1 13 2 14 1 15 1 16 1 0 1 17 1 0 1 18 1 19 1 0 1 e6 1 dc 1 0 1 ",
     "12 1 0 48 e6 8 1e 1 1f 1 20 1 0 30 1b 1 1c 1 1d 1 1e 1 1f 1 20 1 21 1 22 1 e6 2 dc 2 e6 5 ",
     "dc 1 e6 2 dc 1 0 10 23 1 0 65 e6 7 0 2 e6 4 dc 1 e6 1 0 2 e6 2 0 1 dc 1 e6 2 dc 1 0 23 24 1 ",
     "0 1e e6 1 dc 1 e6 2 dc 1 e6 2 dc 3 e6 1 dc 2 e6 1 dc 1 e6 3 dc 1 e6 1 dc 1 e6 1 dc 1 e6 1 ",
     "dc 1 e6 2 0 a0 e6 7 dc 1 e6 1 0 9 dc 1 0 18 e6 4 0 1 e6 9 0 1 e6 3 0 1 e6 5 0 2b dc 3 0 3b ",
     "e6 2 dc 3 e6 4 0 2a e6 5 dc 5 e6 e 0 1 dc 1 e6 2 dc 1 e6 2 dc 1 e6 3 dc 3 1b 1 1c 1 1d 1 e6 ",
     "3 dc 1 e6 2 dc 2 e6 5 0 3c 7 1 0 10 9 1 0 3 e6 1 dc 1 e6 2 0 67 7 1 0 10 9 1 0 30 e6 1 0 3d ",
     "7 1 0 10 9 1 0 6e 7 1 0 10 9 1 0 6e 7 1 0 10 9 1 0 7f 9 1 0 6e 7 1 0 10 9 1 0 7 54 1 5b 1 0 ",
     "65 7 1 0 10 9 1 0 6d 9 2 0 10 9 1 0 7c 9 1 0 6d 67 2 9 1 0 d 6b 4 0 6c 76 2 9 1 0 d 7a 4 0 ",
     "4c dc 2 0 1b dc 1 0 1 dc 1 0 1 d8 1 0 37 81 1 82 1 0 1 84 1 0 5 82 4 0 2 82 1 0 1 e6 2 9 1 ",
     "0 1 e6 2 0 3e dc 1 0 70 7 1 0 1 9 2 0 52 dc 1 0 2cf e6 3 0 3b4 9 2 0 1e 9 1 0 9d 9 1 0 a e6 ",
     "1 0 cb e4 1 0 8f de 1 e6 1 dc 1 0 db e6 1 dc 1 0 47 9 1 0 14 e6 8 0 2 dc 1 0 30 e6 5 dc 6 ",
     "e6 2 dc 1 0 1 dc 2 e6 2 dc 2 e6 5 dc 1 e6 12 dc 1 0 2 e6 6 dc 1 e6 4 ea 1 0 48 7 1 0 f 9 1 ",
     "0 26 e6 1 dc 1 e6 7 0 36 9 2 0 3a 7 1 0 b 9 2 0 43 7 1 0 98 e6 3 0 1 1 1 dc 5 e6 2 dc 4 e6 ",
     "1 0 1 1 7 0 4 dc 1 0 6 e6 1 0 3 e6 2 0 c6 e6 2 dc 1 e6 7 dc 1 e6 2 ea 1 d6 1 dc 1 ca 1 e6 ",
     "25 e8 1 e4 2 dc 1 da 1 e6 1 e9 1 dc 1 e6 1 dc 1 0 2d0 e6 2 1 2 e6 4 1 3 e6 2 0 4 e6 1 0 3 1 ",
     "2 e6 1 dc 1 e6 1 1 2 dc 4 e6 1 0 bfe e6 3 0 8d 9 1 0 60 e6 20 0 22a da 1 e4 1 e8 1 de 1 e0 ",
     "2 0 69 8 2 0 75d4 e6 1 0 4 e6 a 0 20 e6 2 0 50 e6 2 0 114 9 1 0 25 9 1 0 97 9 1 0 1b e6 12 ",
     "0 39 dc 3 0 25 9 1 0 5f 7 1 0 c 9 1 0 ef e6 1 0 1 e6 2 dc 1 0 2 e6 2 0 5 e6 2 0 1 e6 1 0 34 ",
     "9 1 0 f6 9 1 0 4f30 1a 1 0 301 e6 7 dc 7 e6 2 0 3cd dc 1 0 e2 dc 1 0 95 e6 5 0 692 dc 1 0 1 ",
     "e6 1 0 28 e6 1 1 1 dc 1 0 4 9 1 0 a5 e6 1 dc 1 0 23d e6 4 0 41 e6 5 0 13d e6 2 0 4d dc 2 0 ",
     "1 dc 3 0 46 dc 2 e6 3 dc 1 e6 1 dc 4 0 31 e6 1 dc 1 e6 1 dc 1 0 c0 9 1 0 29 9 1 0 e 9 1 0 ",
     "39 9 1 7 1 0 45 e6 3 0 30 9 2 0 3e 7 1 0 4c 9 1 0 9 7 1 0 6a 9 1 7 1 0 b2 7 1 9 1 0 50 7 2 ",
     "0 10 9 1 0 18 e6 7 0 3 e6 5 0 59 9 3 0 71 9 1 0 3 7 1 0 17 e6 1 0 63 9 1 7 1 0 fb 9 1 7 1 0 ",
     "7e 9 1 0 76 9 1 7 1 0 73 9 1 0 10d 9 1 7 1 0 102 9 2 0 4 7 1 0 9c 9 1 0 53 9 1 0 12 9 1 0 ",
     "51 9 1 0 1a5 9 1 0 102 7 1 0 1 9 2 0 51 9 1 0 1a9 9 2 0 41ec 9 1 0 9c0 1 5 0 3b e6 7 0 4b9 ",
     "6 2 0 4cac 1 1 0 14c6 d8 2 1 3 0 3 e2 1 d8 5 0 8 dc 8 0 2 e6 5 dc 2 0 1e e6 4 0 94 e6 3 0 ",
     "dbb e6 7 0 1 e6 11 0 2 e6 7 0 1 e6 2 0 1 e6 5 0 64 e6 1 0 a0 e6 7 0 177 e6 1 0 3d e6 4 0 ",
     "1fc e8 2 dc 1 e6 1 0 fe e6 1 dc 1 0 f3 e6 1 0 2 e6 1 0 7 e6 2 0 5 e6 1 0 1da dc 7 0 6d e6 6 ",
     "7 1 0"])

/-- The combining class of a code point. -/
def combiningClass (n : Nat) : Nat := combiningClassTable.value n

/-- The full canonical decompositions. -/
def decompositionMap : CodeMap := CodeMap.ofText
  (String.join
    ["c0 1 1 = 41 300,1 1 1 = 41 301,1 1 1 = 41 302,1 1 1 = 41 303,1 1 1 = 41 308,1 1 1 = 41 ",
     "30a,2 1 1 = 43 327,1 1 1 = 45 300,1 1 1 = 45 301,1 1 1 = 45 302,1 1 1 = 45 308,1 1 1 = 49 ",
     "300,1 1 1 = 49 301,1 1 1 = 49 302,1 1 1 = 49 308,2 1 1 = 4e 303,1 1 1 = 4f 300,1 1 1 = 4f ",
     "301,1 1 1 = 4f 302,1 1 1 = 4f 303,1 1 1 = 4f 308,3 1 1 = 55 300,1 1 1 = 55 301,1 1 1 = 55 ",
     "302,1 1 1 = 55 308,1 1 1 = 59 301,3 1 1 = 61 300,1 1 1 = 61 301,1 1 1 = 61 302,1 1 1 = 61 ",
     "303,1 1 1 = 61 308,1 1 1 = 61 30a,2 1 1 = 63 327,1 1 1 = 65 300,1 1 1 = 65 301,1 1 1 = 65 ",
     "302,1 1 1 = 65 308,1 1 1 = 69 300,1 1 1 = 69 301,1 1 1 = 69 302,1 1 1 = 69 308,2 1 1 = 6e ",
     "303,1 1 1 = 6f 300,1 1 1 = 6f 301,1 1 1 = 6f 302,1 1 1 = 6f 303,1 1 1 = 6f 308,3 1 1 = 75 ",
     "300,1 1 1 = 75 301,1 1 1 = 75 302,1 1 1 = 75 308,1 1 1 = 79 301,2 1 1 = 79 308,1 1 1 = 41 ",
     "304,1 1 1 = 61 304,1 1 1 = 41 306,1 1 1 = 61 306,1 1 1 = 41 328,1 1 1 = 61 328,1 1 1 = 43 ",
     "301,1 1 1 = 63 301,1 1 1 = 43 302,1 1 1 = 63 302,1 1 1 = 43 307,1 1 1 = 63 307,1 1 1 = 43 ",
     "30c,1 1 1 = 63 30c,1 1 1 = 44 30c,1 1 1 = 64 30c,3 1 1 = 45 304,1 1 1 = 65 304,1 1 1 = 45 ",
     "306,1 1 1 = 65 306,1 1 1 = 45 307,1 1 1 = 65 307,1 1 1 = 45 328,1 1 1 = 65 328,1 1 1 = 45 ",
     "30c,1 1 1 = 65 30c,1 1 1 = 47 302,1 1 1 = 67 302,1 1 1 = 47 306,1 1 1 = 67 306,1 1 1 = 47 ",
     "307,1 1 1 = 67 307,1 1 1 = 47 327,1 1 1 = 67 327,1 1 1 = 48 302,1 1 1 = 68 302,3 1 1 = 49 ",
     "303,1 1 1 = 69 303,1 1 1 = 49 304,1 1 1 = 69 304,1 1 1 = 49 306,1 1 1 = 69 306,1 1 1 = 49 ",
     "328,1 1 1 = 69 328,1 1 1 = 49 307,4 1 1 = 4a 302,1 1 1 = 6a 302,1 1 1 = 4b 327,1 1 1 = 6b ",
     "327,2 1 1 = 4c 301,1 1 1 = 6c 301,1 1 1 = 4c 327,1 1 1 = 6c 327,1 1 1 = 4c 30c,1 1 1 = 6c ",
     "30c,5 1 1 = 4e 301,1 1 1 = 6e 301,1 1 1 = 4e 327,1 1 1 = 6e 327,1 1 1 = 4e 30c,1 1 1 = 6e ",
     "30c,4 1 1 = 4f 304,1 1 1 = 6f 304,1 1 1 = 4f 306,1 1 1 = 6f 306,1 1 1 = 4f 30b,1 1 1 = 6f ",
     "30b,3 1 1 = 52 301,1 1 1 = 72 301,1 1 1 = 52 327,1 1 1 = 72 327,1 1 1 = 52 30c,1 1 1 = 72 ",
     "30c,1 1 1 = 53 301,1 1 1 = 73 301,1 1 1 = 53 302,1 1 1 = 73 302,1 1 1 = 53 327,1 1 1 = 73 ",
     "327,1 1 1 = 53 30c,1 1 1 = 73 30c,1 1 1 = 54 327,1 1 1 = 74 327,1 1 1 = 54 30c,1 1 1 = 74 ",
     "30c,3 1 1 = 55 303,1 1 1 = 75 303,1 1 1 = 55 304,1 1 1 = 75 304,1 1 1 = 55 306,1 1 1 = 75 ",
     "306,1 1 1 = 55 30a,1 1 1 = 75 30a,1 1 1 = 55 30b,1 1 1 = 75 30b,1 1 1 = 55 328,1 1 1 = 75 ",
     "328,1 1 1 = 57 302,1 1 1 = 77 302,1 1 1 = 59 302,1 1 1 = 79 302,1 1 1 = 59 308,1 1 1 = 5a ",
     "301,1 1 1 = 7a 301,1 1 1 = 5a 307,1 1 1 = 7a 307,1 1 1 = 5a 30c,1 1 1 = 7a 30c,22 1 1 = 4f ",
     "31b,1 1 1 = 6f 31b,e 1 1 = 55 31b,1 1 1 = 75 31b,1d 1 1 = 41 30c,1 1 1 = 61 30c,1 1 1 = 49 ",
     "30c,1 1 1 = 69 30c,1 1 1 = 4f 30c,1 1 1 = 6f 30c,1 1 1 = 55 30c,1 1 1 = 75 30c,1 1 1 = 55 ",
     "308 304,1 1 1 = 75 308 304,1 1 1 = 55 308 301,1 1 1 = 75 308 301,1 1 1 = 55 308 30c,1 1 1 = ",
     "75 308 30c,1 1 1 = 55 308 300,1 1 1 = 75 308 300,2 1 1 = 41 308 304,1 1 1 = 61 308 304,1 1 ",
     "1 = 41 307 304,1 1 1 = 61 307 304,1 1 1 = c6 304,1 1 1 = e6 304,3 1 1 = 47 30c,1 1 1 = 67 ",
     "30c,1 1 1 = 4b 30c,1 1 1 = 6b 30c,1 1 1 = 4f 328,1 1 1 = 6f 328,1 1 1 = 4f 328 304,1 1 1 = ",
     "6f 328 304,1 1 1 = 1b7 30c,1 1 1 = 292 30c,1 1 1 = 6a 30c,4 1 1 = 47 301,1 1 1 = 67 301,3 1 ",
     "1 = 4e 300,1 1 1 = 6e 300,1 1 1 = 41 30a 301,1 1 1 = 61 30a 301,1 1 1 = c6 301,1 1 1 = e6 ",
     "301,1 1 1 = d8 301,1 1 1 = f8 301,1 1 1 = 41 30f,1 1 1 = 61 30f,1 1 1 = 41 311,1 1 1 = 61 ",
     "311,1 1 1 = 45 30f,1 1 1 = 65 30f,1 1 1 = 45 311,1 1 1 = 65 311,1 1 1 = 49 30f,1 1 1 = 69 ",
     "30f,1 1 1 = 49 311,1 1 1 = 69 311,1 1 1 = 4f 30f,1 1 1 = 6f 30f,1 1 1 = 4f 311,1 1 1 = 6f ",
     "311,1 1 1 = 52 30f,1 1 1 = 72 30f,1 1 1 = 52 311,1 1 1 = 72 311,1 1 1 = 55 30f,1 1 1 = 75 ",
     "30f,1 1 1 = 55 311,1 1 1 = 75 311,1 1 1 = 53 326,1 1 1 = 73 326,1 1 1 = 54 326,1 1 1 = 74 ",
     "326,3 1 1 = 48 30c,1 1 1 = 68 30c,7 1 1 = 41 307,1 1 1 = 61 307,1 1 1 = 45 327,1 1 1 = 65 ",
     "327,1 1 1 = 4f 308 304,1 1 1 = 6f 308 304,1 1 1 = 4f 303 304,1 1 1 = 6f 303 304,1 1 1 = 4f ",
     "307,1 1 1 = 6f 307,1 1 1 = 4f 307 304,1 1 1 = 6f 307 304,1 1 1 = 59 304,1 1 1 = 79 304,10d ",
     "2 1 -40,3 1 1 -30,1 1 1 = 308 301,30 1 1 -bb,a 1 1 -343,7 1 1 = a8 301,1 1 1 = 391 301,1 1 ",
     "1 -2d0,1 1 1 = 395 301,1 1 1 = 397 301,1 1 1 = 399 301,2 1 1 = 39f 301,2 1 1 = 3a5 301,1 1 ",
     "1 = 3a9 301,1 1 1 = 3b9 308 301,1a 1 1 = 399 308,1 1 1 = 3a5 308,1 1 1 = 3b1 301,1 1 1 = ",
     "3b5 301,1 1 1 = 3b7 301,1 1 1 = 3b9 301,1 1 1 = 3c5 308 301,1a 1 1 = 3b9 308,1 1 1 = 3c5 ",
     "308,1 1 1 = 3bf 301,1 1 1 = 3c5 301,1 1 1 = 3c9 301,5 1 1 = 3d2 301,1 1 1 = 3d2 308,2c 1 1 ",
     "= 415 300,1 1 1 = 415 308,2 1 1 = 413 301,4 1 1 = 406 308,5 1 1 = 41a 301,1 1 1 = 418 300,1 ",
     "1 1 = 423 306,b 1 1 = 418 306,20 1 1 = 438 306,17 1 1 = 435 300,1 1 1 = 435 308,2 1 1 = 433 ",
     "301,4 1 1 = 456 308,5 1 1 = 43a 301,1 1 1 = 438 300,1 1 1 = 443 306,18 1 1 = 474 30f,1 1 1 ",
     "= 475 30f,4a 1 1 = 416 306,1 1 1 = 436 306,e 1 1 = 410 306,1 1 1 = 430 306,1 1 1 = 410 ",
     "308,1 1 1 = 430 308,3 1 1 = 415 306,1 1 1 = 435 306,3 1 1 = 4d8 308,1 1 1 = 4d9 308,1 1 1 = ",
     "416 308,1 1 1 = 436 308,1 1 1 = 417 308,1 1 1 = 437 308,3 1 1 = 418 304,1 1 1 = 438 304,1 1 ",
     "1 = 418 308,1 1 1 = 438 308,1 1 1 = 41e 308,1 1 1 = 43e 308,3 1 1 = 4e8 308,1 1 1 = 4e9 ",
     "308,1 1 1 = 42d 308,1 1 1 = 44d 308,1 1 1 = 423 304,1 1 1 = 443 304,1 1 1 = 423 308,1 1 1 = ",
     "443 308,1 1 1 = 423 30b,1 1 1 = 443 30b,1 1 1 = 427 308,1 1 1 = 447 308,3 1 1 = 42b 308,1 1 ",
     "1 = 44b 308,129 1 1 = 627 653,1 1 1 = 627 654,1 1 1 = 648 654,1 1 1 = 627 655,1 1 1 = 64a ",
     "654,9a 1 1 = 6d5 654,2 1 1 = 6c1 654,11 1 1 = 6d2 654,256 1 1 = 928 93c,8 1 1 = 930 93c,3 1 ",
     "1 = 933 93c,24 1 1 = 915 93c,1 1 1 = 916 93c,1 1 1 = 917 93c,1 1 1 = 91c 93c,1 1 1 = 921 ",
     "93c,1 1 1 = 922 93c,1 1 1 = 92b 93c,1 1 1 = 92f 93c,6c 1 1 = 9c7 9be,1 1 1 = 9c7 9d7,10 1 1 ",
     "= 9a1 9bc,1 1 1 = 9a2 9bc,2 1 1 = 9af 9bc,54 1 1 = a32 a3c,3 1 1 = a38 a3c,23 1 1 = a16 ",
     "a3c,1 1 1 = a17 a3c,1 1 1 = a1c a3c,3 1 1 = a2b a3c,ea 1 1 = b47 b56,3 1 1 = b47 b3e,1 1 1 ",
     "= b47 b57,10 1 1 = b21 b3c,1 1 1 = b22 b3c,37 1 1 = b92 bd7,36 1 1 = bc6 bbe,1 1 1 = bc7 ",
     "bbe,1 1 1 = bc6 bd7,7c 1 1 = c46 c56,78 1 1 = cbf cd5,7 1 1 = cc6 cd5,1 1 1 = cc6 cd6,2 1 1 ",
     "= cc6 cc2,1 1 1 = cc6 cc2 cd5,7f 1 1 = d46 d3e,1 1 1 = d47 d3e,1 1 1 = d46 d57,8e 1 1 = dd9 ",
     "dca,2 1 1 = dd9 dcf,1 1 1 = dd9 dcf dca,1 1 1 = dd9 ddf,165 1 1 = f42 fb7,a 1 1 = f4c fb7,5 ",
     "1 1 = f51 fb7,5 1 1 = f56 fb7,5 1 1 = f5b fb7,d 1 1 = f40 fb5,a 1 1 = f71 f72,2 1 1 = f71 ",
     "f74,1 1 1 = fb2 f80,2 1 1 = fb3 f80,9 1 1 = f71 f80,12 1 1 = f92 fb7,a 1 1 = f9c fb7,5 1 1 ",
     "= fa1 fb7,5 1 1 = fa6 fb7,5 1 1 = fab fb7,d 1 1 = f90 fb5,6d 1 1 = 1025 102e,ae0 1 1 = 1b05 ",
     "1b35,2 1 1 = 1b07 1b35,2 1 1 = 1b09 1b35,2 1 1 = 1b0b 1b35,2 1 1 = 1b0d 1b35,4 1 1 = 1b11 ",
     "1b35,29 1 1 = 1b3a 1b35,2 1 1 = 1b3c 1b35,3 1 1 = 1b3e 1b35,1 1 1 = 1b3f 1b35,2 1 1 = 1b42 ",
     "1b35,2bd 1 1 = 41 325,1 1 1 = 61 325,1 1 1 = 42 307,1 1 1 = 62 307,1 1 1 = 42 323,1 1 1 = ",
     "62 323,1 1 1 = 42 331,1 1 1 = 62 331,1 1 1 = 43 327 301,1 1 1 = 63 327 301,1 1 1 = 44 307,1 ",
     "1 1 = 64 307,1 1 1 = 44 323,1 1 1 = 64 323,1 1 1 = 44 331,1 1 1 = 64 331,1 1 1 = 44 327,1 1 ",
     "1 = 64 327,1 1 1 = 44 32d,1 1 1 = 64 32d,1 1 1 = 45 304 300,1 1 1 = 65 304 300,1 1 1 = 45 ",
     "304 301,1 1 1 = 65 304 301,1 1 1 = 45 32d,1 1 1 = 65 32d,1 1 1 = 45 330,1 1 1 = 65 330,1 1 ",
     "1 = 45 327 306,1 1 1 = 65 327 306,1 1 1 = 46 307,1 1 1 = 66 307,1 1 1 = 47 304,1 1 1 = 67 ",
     "304,1 1 1 = 48 307,1 1 1 = 68 307,1 1 1 = 48 323,1 1 1 = 68 323,1 1 1 = 48 308,1 1 1 = 68 ",
     "308,1 1 1 = 48 327,1 1 1 = 68 327,1 1 1 = 48 32e,1 1 1 = 68 32e,1 1 1 = 49 330,1 1 1 = 69 ",
     "330,1 1 1 = 49 308 301,1 1 1 = 69 308 301,1 1 1 = 4b 301,1 1 1 = 6b 301,1 1 1 = 4b 323,1 1 ",
     "1 = 6b 323,1 1 1 = 4b 331,1 1 1 = 6b 331,1 1 1 = 4c 323,1 1 1 = 6c 323,1 1 1 = 4c 323 304,1 ",
     "1 1 = 6c 323 304,1 1 1 = 4c 331,1 1 1 = 6c 331,1 1 1 = 4c 32d,1 1 1 = 6c 32d,1 1 1 = 4d ",
     "301,1 1 1 = 6d 301,1 1 1 = 4d 307,1 1 1 = 6d 307,1 1 1 = 4d 323,1 1 1 = 6d 323,1 1 1 = 4e ",
     "307,1 1 1 = 6e 307,1 1 1 = 4e 323,1 1 1 = 6e 323,1 1 1 = 4e 331,1 1 1 = 6e 331,1 1 1 = 4e ",
     "32d,1 1 1 = 6e 32d,1 1 1 = 4f 303 301,1 1 1 = 6f 303 301,1 1 1 = 4f 303 308,1 1 1 = 6f 303 ",
     "308,1 1 1 = 4f 304 300,1 1 1 = 6f 304 300,1 1 1 = 4f 304 301,1 1 1 = 6f 304 301,1 1 1 = 50 ",
     "301,1 1 1 = 70 301,1 1 1 = 50 307,1 1 1 = 70 307,1 1 1 = 52 307,1 1 1 = 72 307,1 1 1 = 52 ",
     "323,1 1 1 = 72 323,1 1 1 = 52 323 304,1 1 1 = 72 323 304,1 1 1 = 52 331,1 1 1 = 72 331,1 1 ",
     "1 = 53 307,1 1 1 = 73 307,1 1 1 = 53 323,1 1 1 = 73 323,1 1 1 = 53 301 307,1 1 1 = 73 301 ",
     "307,1 1 1 = 53 30c 307,1 1 1 = 73 30c 307,1 1 1 = 53 323 307,1 1 1 = 73 323 307,1 1 1 = 54 ",
     "307,1 1 1 = 74 307,1 1 1 = 54 323,1 1 1 = 74 323,1 1 1 = 54 331,1 1 1 = 74 331,1 1 1 = 54 ",
     "32d,1 1 1 = 74 32d,1 1 1 = 55 324,1 1 1 = 75 324,1 1 1 = 55 330,1 1 1 = 75 330,1 1 1 = 55 ",
     "32d,1 1 1 = 75 32d,1 1 1 = 55 303 301,1 1 1 = 75 303 301,1 1 1 = 55 304 308,1 1 1 = 75 304 ",
     "308,1 1 1 = 56 303,1 1 1 = 76 303,1 1 1 = 56 323,1 1 1 = 76 323,1 1 1 = 57 300,1 1 1 = 77 ",
     "300,1 1 1 = 57 301,1 1 1 = 77 301,1 1 1 = 57 308,1 1 1 = 77 308,1 1 1 = 57 307,1 1 1 = 77 ",
     "307,1 1 1 = 57 323,1 1 1 = 77 323,1 1 1 = 58 307,1 1 1 = 78 307,1 1 1 = 58 308,1 1 1 = 78 ",
     "308,1 1 1 = 59 307,1 1 1 = 79 307,1 1 1 = 5a 302,1 1 1 = 7a 302,1 1 1 = 5a 323,1 1 1 = 7a ",
     "323,1 1 1 = 5a 331,1 1 1 = 7a 331,1 1 1 = 68 331,1 1 1 = 74 308,1 1 1 = 77 30a,1 1 1 = 79 ",
     "30a,2 1 1 = 17f 307,5 1 1 = 41 323,1 1 1 = 61 323,1 1 1 = 41 309,1 1 1 = 61 309,1 1 1 = 41 ",
     "302 301,1 1 1 = 61 302 301,1 1 1 = 41 302 300,1 1 1 = 61 302 300,1 1 1 = 41 302 309,1 1 1 = ",
     "61 302 309,1 1 1 = 41 302 303,1 1 1 = 61 302 303,1 1 1 = 41 323 302,1 1 1 = 61 323 302,1 1 ",
     "1 = 41 306 301,1 1 1 = 61 306 301,1 1 1 = 41 306 300,1 1 1 = 61 306 300,1 1 1 = 41 306 ",
     "309,1 1 1 = 61 306 309,1 1 1 = 41 306 303,1 1 1 = 61 306 303,1 1 1 = 41 323 306,1 1 1 = 61 ",
     "323 306,1 1 1 = 45 323,1 1 1 = 65 323,1 1 1 = 45 309,1 1 1 = 65 309,1 1 1 = 45 303,1 1 1 = ",
     "65 303,1 1 1 = 45 302 301,1 1 1 = 65 302 301,1 1 1 = 45 302 300,1 1 1 = 65 302 300,1 1 1 = ",
     "45 302 309,1 1 1 = 65 302 309,1 1 1 = 45 302 303,1 1 1 = 65 302 303,1 1 1 = 45 323 302,1 1 ",
     "1 = 65 323 302,1 1 1 = 49 309,1 1 1 = 69 309,1 1 1 = 49 323,1 1 1 = 69 323,1 1 1 = 4f 323,1 ",
     "1 1 = 6f 323,1 1 1 = 4f 309,1 1 1 = 6f 309,1 1 1 = 4f 302 301,1 1 1 = 6f 302 301,1 1 1 = 4f ",
     "302 300,1 1 1 = 6f 302 300,1 1 1 = 4f 302 309,1 1 1 = 6f 302 309,1 1 1 = 4f 302 303,1 1 1 = ",
     "6f 302 303,1 1 1 = 4f 323 302,1 1 1 = 6f 323 302,1 1 1 = 4f 31b 301,1 1 1 = 6f 31b 301,1 1 ",
     "1 = 4f 31b 300,1 1 1 = 6f 31b 300,1 1 1 = 4f 31b 309,1 1 1 = 6f 31b 309,1 1 1 = 4f 31b ",
     "303,1 1 1 = 6f 31b 303,1 1 1 = 4f 31b 323,1 1 1 = 6f 31b 323,1 1 1 = 55 323,1 1 1 = 75 ",
     "323,1 1 1 = 55 309,1 1 1 = 75 309,1 1 1 = 55 31b 301,1 1 1 = 75 31b 301,1 1 1 = 55 31b ",
     "300,1 1 1 = 75 31b 300,1 1 1 = 55 31b 309,1 1 1 = 75 31b 309,1 1 1 = 55 31b 303,1 1 1 = 75 ",
     "31b 303,1 1 1 = 55 31b 323,1 1 1 = 75 31b 323,1 1 1 = 59 300,1 1 1 = 79 300,1 1 1 = 59 ",
     "323,1 1 1 = 79 323,1 1 1 = 59 309,1 1 1 = 79 309,1 1 1 = 59 303,1 1 1 = 79 303,7 1 1 = 3b1 ",
     "313,1 1 1 = 3b1 314,1 1 1 = 3b1 313 300,1 1 1 = 3b1 314 300,1 1 1 = 3b1 313 301,1 1 1 = 3b1 ",
     "314 301,1 1 1 = 3b1 313 342,1 1 1 = 3b1 314 342,1 1 1 = 391 313,1 1 1 = 391 314,1 1 1 = 391 ",
     "313 300,1 1 1 = 391 314 300,1 1 1 = 391 313 301,1 1 1 = 391 314 301,1 1 1 = 391 313 342,1 1 ",
     "1 = 391 314 342,1 1 1 = 3b5 313,1 1 1 = 3b5 314,1 1 1 = 3b5 313 300,1 1 1 = 3b5 314 300,1 1 ",
     "1 = 3b5 313 301,1 1 1 = 3b5 314 301,3 1 1 = 395 313,1 1 1 = 395 314,1 1 1 = 395 313 300,1 1 ",
     "1 = 395 314 300,1 1 1 = 395 313 301,1 1 1 = 395 314 301,3 1 1 = 3b7 313,1 1 1 = 3b7 314,1 1 ",
     "1 = 3b7 313 300,1 1 1 = 3b7 314 300,1 1 1 = 3b7 313 301,1 1 1 = 3b7 314 301,1 1 1 = 3b7 313 ",
     "342,1 1 1 = 3b7 314 342,1 1 1 = 397 313,1 1 1 = 397 314,1 1 1 = 397 313 300,1 1 1 = 397 314 ",
     "300,1 1 1 = 397 313 301,1 1 1 = 397 314 301,1 1 1 = 397 313 342,1 1 1 = 397 314 342,1 1 1 = ",
     "3b9 313,1 1 1 = 3b9 314,1 1 1 = 3b9 313 300,1 1 1 = 3b9 314 300,1 1 1 = 3b9 313 301,1 1 1 = ",
     "3b9 314 301,1 1 1 = 3b9 313 342,1 1 1 = 3b9 314 342,1 1 1 = 399 313,1 1 1 = 399 314,1 1 1 = ",
     "399 313 300,1 1 1 = 399 314 300,1 1 1 = 399 313 301,1 1 1 = 399 314 301,1 1 1 = 399 313 ",
     "342,1 1 1 = 399 314 342,1 1 1 = 3bf 313,1 1 1 = 3bf 314,1 1 1 = 3bf 313 300,1 1 1 = 3bf 314 ",
     "300,1 1 1 = 3bf 313 301,1 1 1 = 3bf 314 301,3 1 1 = 39f 313,1 1 1 = 39f 314,1 1 1 = 39f 313 ",
     "300,1 1 1 = 39f 314 300,1 1 1 = 39f 313 301,1 1 1 = 39f 314 301,3 1 1 = 3c5 313,1 1 1 = 3c5 ",
     "314,1 1 1 = 3c5 313 300,1 1 1 = 3c5 314 300,1 1 1 = 3c5 313 301,1 1 1 = 3c5 314 301,1 1 1 = ",
     "3c5 313 342,1 1 1 = 3c5 314 342,2 1 1 = 3a5 314,2 1 1 = 3a5 314 300,2 1 1 = 3a5 314 301,2 1 ",
     "1 = 3a5 314 342,1 1 1 = 3c9 313,1 1 1 = 3c9 314,1 1 1 = 3c9 313 300,1 1 1 = 3c9 314 300,1 1 ",
     "1 = 3c9 313 301,1 1 1 = 3c9 314 301,1 1 1 = 3c9 313 342,1 1 1 = 3c9 314 342,1 1 1 = 3a9 ",
     "313,1 1 1 = 3a9 314,1 1 1 = 3a9 313 300,1 1 1 = 3a9 314 300,1 1 1 = 3a9 313 301,1 1 1 = 3a9 ",
     "314 301,1 1 1 = 3a9 313 342,1 1 1 = 3a9 314 342,1 1 1 = 3b1 300,1 1 1 = 3b1 301,1 1 1 = 3b5 ",
     "300,1 1 1 = 3b5 301,1 1 1 = 3b7 300,1 1 1 = 3b7 301,1 1 1 = 3b9 300,1 1 1 = 3b9 301,1 1 1 = ",
     "3bf 300,1 1 1 = 3bf 301,1 1 1 = 3c5 300,1 1 1 = 3c5 301,1 1 1 = 3c9 300,1 1 1 = 3c9 301,3 1 ",
     "1 = 3b1 313 345,1 1 1 = 3b1 314 345,1 1 1 = 3b1 313 300 345,1 1 1 = 3b1 314 300 345,1 1 1 = ",
     "3b1 313 301 345,1 1 1 = 3b1 314 301 345,1 1 1 = 3b1 313 342 345,1 1 1 = 3b1 314 342 345,1 1 ",
     "1 = 391 313 345,1 1 1 = 391 314 345,1 1 1 = 391 313 300 345,1 1 1 = 391 314 300 345,1 1 1 = ",
     "391 313 301 345,1 1 1 = 391 314 301 345,1 1 1 = 391 313 342 345,1 1 1 = 391 314 342 345,1 1 ",
     "1 = 3b7 313 345,1 1 1 = 3b7 314 345,1 1 1 = 3b7 313 300 345,1 1 1 = 3b7 314 300 345,1 1 1 = ",
     "3b7 313 301 345,1 1 1 = 3b7 314 301 345,1 1 1 = 3b7 313 342 345,1 1 1 = 3b7 314 342 345,1 1 ",
     "1 = 397 313 345,1 1 1 = 397 314 345,1 1 1 = 397 313 300 345,1 1 1 = 397 314 300 345,1 1 1 = ",
     "397 313 301 345,1 1 1 = 397 314 301 345,1 1 1 = 397 313 342 345,1 1 1 = 397 314 342 345,1 1 ",
     "1 = 3c9 313 345,1 1 1 = 3c9 314 345,1 1 1 = 3c9 313 300 345,1 1 1 = 3c9 314 300 345,1 1 1 = ",
     "3c9 313 301 345,1 1 1 = 3c9 314 301 345,1 1 1 = 3c9 313 342 345,1 1 1 = 3c9 314 342 345,1 1 ",
     "1 = 3a9 313 345,1 1 1 = 3a9 314 345,1 1 1 = 3a9 313 300 345,1 1 1 = 3a9 314 300 345,1 1 1 = ",
     "3a9 313 301 345,1 1 1 = 3a9 314 301 345,1 1 1 = 3a9 313 342 345,1 1 1 = 3a9 314 342 345,1 1 ",
     "1 = 3b1 306,1 1 1 = 3b1 304,1 1 1 = 3b1 300 345,1 1 1 = 3b1 345,1 1 1 = 3b1 301 345,2 1 1 = ",
     "3b1 342,1 1 1 = 3b1 342 345,1 1 1 = 391 306,1 1 1 = 391 304,1 1 1 = 391 300,1 1 1 = 391 ",
     "301,1 1 1 = 391 345,2 1 1 -1c05,3 1 1 = a8 342,1 1 1 = 3b7 300 345,1 1 1 = 3b7 345,1 1 1 = ",
     "3b7 301 345,2 1 1 = 3b7 342,1 1 1 = 3b7 342 345,1 1 1 = 395 300,1 1 1 = 395 301,1 1 1 = 397 ",
     "300,1 1 1 = 397 301,1 1 1 = 397 345,1 1 1 = 1fbf 300,1 1 1 = 1fbf 301,1 1 1 = 1fbf 342,1 1 ",
     "1 = 3b9 306,1 1 1 = 3b9 304,1 1 1 = 3b9 308 300,1 1 1 = 3b9 308 301,3 1 1 = 3b9 342,1 1 1 = ",
     "3b9 308 342,1 1 1 = 399 306,1 1 1 = 399 304,1 1 1 = 399 300,1 1 1 = 399 301,2 1 1 = 1ffe ",
     "300,1 1 1 = 1ffe 301,1 1 1 = 1ffe 342,1 1 1 = 3c5 306,1 1 1 = 3c5 304,1 1 1 = 3c5 308 300,1 ",
     "1 1 = 3c5 308 301,1 1 1 = 3c1 313,1 1 1 = 3c1 314,1 1 1 = 3c5 342,1 1 1 = 3c5 308 342,1 1 1 ",
     "= 3a5 306,1 1 1 = 3a5 304,1 1 1 = 3a5 300,1 1 1 = 3a5 301,1 1 1 = 3a1 314,1 1 1 = a8 300,1 ",
     "1 1 = a8 301,1 1 1 -1f8f,3 1 1 = 3c9 300 345,1 1 1 = 3c9 345,1 1 1 = 3c9 301 345,2 1 1 = ",
     "3c9 342,1 1 1 = 3c9 342 345,1 1 1 = 39f 300,1 1 1 = 39f 301,1 1 1 = 3a9 300,1 1 1 = 3a9 ",
     "301,1 1 1 = 3a9 345,1 1 1 -1f49,3 2 1 +2,126 1 1 -1d7d,4 1 1 -20df,1 1 1 = 41 30a,6f 1 1 = ",
     "2190 338,1 1 1 = 2192 338,13 1 1 = 2194 338,1f 1 1 = 21d0 338,1 1 1 = 21d4 338,1 1 1 = 21d2 ",
     "338,35 1 1 = 2203 338,5 1 1 = 2208 338,3 1 1 = 220b 338,18 1 1 = 2223 338,2 1 1 = 2225 ",
     "338,1b 1 1 = 223c 338,3 1 1 = 2243 338,3 1 1 = 2245 338,2 1 1 = 2248 338,17 1 1 = 3d 338,2 ",
     "1 1 = 2261 338,b 1 1 = 224d 338,1 1 1 = 3c 338,1 1 1 = 3e 338,1 1 1 = 2264 338,1 1 1 = 2265 ",
     "338,3 1 1 = 2272 338,1 1 1 = 2273 338,3 1 1 = 2276 338,1 1 1 = 2277 338,7 1 1 = 227a 338,1 ",
     "1 1 = 227b 338,3 1 1 = 2282 338,1 1 1 = 2283 338,3 1 1 = 2286 338,1 1 1 = 2287 338,23 1 1 = ",
     "22a2 338,1 1 1 = 22a8 338,1 1 1 = 22a9 338,1 1 1 = 22ab 338,31 1 1 = 227c 338,1 1 1 = 227d ",
     "338,1 1 1 = 2291 338,1 1 1 = 2292 338,7 1 1 = 22b2 338,1 1 1 = 22b3 338,1 1 1 = 22b4 338,1 ",
     "1 1 = 22b5 338,3c 2 1 +cdf,7b3 1 1 = 2add 338,570 1 1 = 304b 3099,2 1 1 = 304d 3099,2 1 1 = ",
     "304f 3099,2 1 1 = 3051 3099,2 1 1 = 3053 3099,2 1 1 = 3055 3099,2 1 1 = 3057 3099,2 1 1 = ",
     "3059 3099,2 1 1 = 305b 3099,2 1 1 = 305d 3099,2 1 1 = 305f 3099,2 1 1 = 3061 3099,3 1 1 = ",
     "3064 3099,2 1 1 = 3066 3099,2 1 1 = 3068 3099,7 1 1 = 306f 3099,1 1 1 = 306f 309a,2 1 1 = ",
     "3072 3099,1 1 1 = 3072 309a,2 1 1 = 3075 3099,1 1 1 = 3075 309a,2 1 1 = 3078 3099,1 1 1 = ",
     "3078 309a,2 1 1 = 307b 3099,1 1 1 = 307b 309a,17 1 1 = 3046 3099,a 1 1 = 309d 3099,e 1 1 = ",
     "30ab 3099,2 1 1 = 30ad 3099,2 1 1 = 30af 3099,2 1 1 = 30b1 3099,2 1 1 = 30b3 3099,2 1 1 = ",
     "30b5 3099,2 1 1 = 30b7 3099,2 1 1 = 30b9 3099,2 1 1 = 30bb 3099,2 1 1 = 30bd 3099,2 1 1 = ",
     "30bf 3099,2 1 1 = 30c1 3099,3 1 1 = 30c4 3099,2 1 1 = 30c6 3099,2 1 1 = 30c8 3099,7 1 1 = ",
     "30cf 3099,1 1 1 = 30cf 309a,2 1 1 = 30d2 3099,1 1 1 = 30d2 309a,2 1 1 = 30d5 3099,1 1 1 = ",
     "30d5 309a,2 1 1 = 30d8 3099,1 1 1 = 30d8 309a,2 1 1 = 30db 3099,1 1 1 = 30db 309a,17 1 1 = ",
     "30a6 3099,3 1 1 = 30ef 3099,1 1 1 = 30f0 3099,1 1 1 = 30f1 3099,1 1 1 = 30f2 3099,4 1 1 = ",
     "30fd 3099,c802 1 1 -6cb8,1 1 1 -920d,1 1 1 -6a38,1 1 1 -6c3b,1 1 1 -8a33,1 1 1 -aad3,1 1 1 ",
     "-a521,1 2 1 = 9f9c,2 1 1 -9fb8,1 1 1 -6739,1 1 1 -a384,1 1 1 -9fc4,1 1 1 -9717,1 1 1 ",
     "-82a5,1 1 1 -798a,1 1 1 -72d1,1 1 1 -7157,1 1 1 -701a,1 1 1 -6884,1 1 1 -8f12,1 1 1 -8bfa,1 ",
     "1 1 -883d,1 1 1 -8539,1 1 1 -74db,1 1 1 -67af,1 1 1 -5f29,1 1 1 -aa99,1 1 1 -a5a7,1 1 1 ",
     "-8e19,1 1 1 -8703,1 1 1 -72f2,1 1 1 -5b02,1 1 1 -9bd1,1 1 1 -8937,1 1 1 -7356,1 1 1 -6fc0,1 ",
     "1 1 -965c,1 1 1 -774e,1 1 1 -7108,1 1 1 -9a5e,1 1 1 -9212,1 1 1 -8bc0,1 1 1 -862f,1 1 1 ",
     "-685e,1 1 1 -a9a7,1 1 1 -a777,1 1 1 -a651,1 1 1 -946c,1 1 1 -8e5e,1 1 1 -8722,1 1 1 -824c,1 ",
     "1 1 -7933,1 1 1 -732f,1 1 1 -72da,1 1 1 -6b48,1 1 1 -6206,1 1 1 -5dca,1 1 1 -5b40,1 1 1 ",
     "-80af,1 1 1 -7fbd,1 1 1 -7b9d,1 1 1 -7575,1 1 1 -663b,1 1 1 -5ac1,1 1 1 -6e6b,1 1 1 -a063,1 ",
     "1 1 -9a3f,1 1 1 -7ce4,1 1 1 -78c7,1 1 1 -86e4,1 1 1 -807d,1 1 1 -6c86,1 1 1 -6252,1 1 1 ",
     "-a072,1 1 1 -9ce9,1 1 1 -8f39,1 1 1 -8b73,1 1 1 -8a3f,1 1 1 -7c20,1 1 1 -7b19,1 1 1 -6306,1 ",
     "1 1 -a680,1 1 1 -78c8,1 1 1 -a778,1 1 1 -a789,1 1 1 -7f3a,1 1 1 -7b99,1 1 1 -7567,1 1 1 ",
     "-62e4,1 1 1 -6dda,1 1 1 -968c,1 1 1 -8f5a,1 1 1 -6e5f,1 1 1 -ab25,1 1 1 -9d78,1 1 1 -994e,1 ",
     "1 1 -85da,1 1 1 -83f2,1 1 1 -a64c,1 1 1 -8069,1 1 1 -a9a6,1 1 1 -99bd,1 1 1 -ab5a,1 1 1 ",
     "-8c9c,1 1 1 -93f1,1 1 1 -7c48,1 1 1 -a5a8,1 1 1 -a10e,1 1 1 -826c,1 1 1 -7525,1 1 1 -6ec5,1 ",
     "1 1 -8db6,1 1 1 -69c1,1 1 1 -8cea,1 1 1 -9675,1 1 1 -768f,1 1 1 -95d5,1 1 1 -8411,1 1 1 ",
     "-aac9,1 1 1 -a80f,1 1 1 -a7b0,1 1 1 -90f9,1 1 1 -7c94,1 1 1 -770d,1 1 1 -6eab,1 1 1 -67af,1 ",
     "1 1 -a68a,1 1 1 -a53e,1 1 1 -a00e,1 1 1 -9a96,1 1 1 -93be,1 1 1 -8986,1 1 1 -805b,1 1 1 ",
     "-63d9,1 1 1 -5f1d,1 1 1 -5af1,1 1 1 -5abb,1 1 1 -a6ef,1 1 1 -92c5,1 1 1 -8e15,1 1 1 -6a2b,1 ",
     "1 1 -9b1a,1 1 1 -97ff,1 1 1 -9790,1 1 1 -94f7,1 1 1 -8a6f,1 1 1 -884a,1 1 1 -850b,1 1 1 ",
     "-7fcb,1 1 1 -7ba2,1 1 1 -7928,1 1 1 -6a72,1 1 1 -74ab,1 1 1 -6977,1 1 1 -6651,1 1 1 -a785,1 ",
     "1 1 -a6fa,1 1 1 -a4e1,1 1 1 -88d7,1 1 1 -70de,1 1 1 -6ef7,1 1 1 -9ad9,1 1 1 -99ae,1 1 1 ",
     "-9629,1 1 1 -8df7,1 1 1 -7d68,1 1 1 -8632,1 1 1 -aac4,1 1 1 -a2b0,1 1 1 -9dc3,1 1 1 -9bf1,1 ",
     "1 1 -9990,1 1 1 -85fb,1 1 1 -8545,1 1 1 -7a15,1 1 1 -796a,1 1 1 -677d,1 1 1 -62bc,1 1 1 ",
     "-626b,1 1 1 -619c,1 1 1 -aa2a,1 1 1 -8008,1 1 1 -6803,1 1 1 -6300,1 1 1 -98d8,1 1 1 -ab34,1 ",
     "1 1 -a8e1,1 1 1 -9dce,1 1 1 -9d7e,1 1 1 -9425,1 1 1 -8fbd,1 1 1 -87f2,1 1 1 -837f,1 1 1 ",
     "-74c6,1 1 1 -6947,1 1 1 -5a37,1 1 1 -933d,1 1 1 -6398,1 1 1 -a73e,1 1 1 -924d,1 1 1 -91d6,1 ",
     "1 1 -8c89,1 1 1 -8b2f,1 1 1 -85c3,1 1 1 -8474,1 1 1 -8163,1 1 1 -7cbf,1 1 1 -6172,1 1 1 ",
     "-a864,1 1 1 -97a4,1 1 1 -635b,1 1 1 -a9a9,1 1 1 -9cbc,1 1 1 -8bec,1 1 1 -6aad,1 1 1 -9a4d,1 ",
     "1 1 -9895,1 1 1 -91c3,1 1 1 -8654,1 1 1 -6356,1 1 1 -a7b4,1 1 1 -a5cf,1 1 1 -9d7a,1 1 1 ",
     "-93cd,1 1 1 -9293,1 1 1 -913a,1 1 1 -8cfe,1 1 1 -85de,1 1 1 -8403,1 1 1 -7a6d,1 1 1 -7118,1 ",
     "1 1 -7107,1 1 1 -681d,1 1 1 -6308,1 1 1 -a6ac,1 1 1 -8b32,1 1 1 -a5d0,1 1 1 -881e,1 1 1 ",
     "-8557,1 1 1 -73f6,1 1 1 -634e,1 1 1 -5d9b,1 1 1 -5b54,1 1 1 -925d,1 1 1 -8c2a,1 1 1 -780e,1 ",
     "1 1 -7f2c,1 1 1 -7ed8,1 1 1 -7d67,1 1 1 -873a,1 1 1 -8962,1 1 1 -6ea4,1 1 1 -ab3d,1 1 1 ",
     "-76c8,1 1 1 -a7c5,1 1 1 -a7f9,1 1 1 -9b5b,1 1 1 -972f,1 1 1 -7d2d,1 1 1 -9e7f,1 1 1 -8ce7,1 ",
     "1 1 -9352,1 1 1 -6acc,1 1 1 -71bc,1 1 1 -63bc,1 1 1 -707f,1 1 1 -9b38,1 1 1 -a8cc,1 1 1 ",
     "-a44d,3 1 1 -a1b6,2 1 1 -939e,3 1 1 -a837,1 1 1 -86ec,1 1 1 -834d,1 1 1 -80dc,1 1 1 -80bb,1 ",
     "1 1 -80b5,1 1 1 -808c,1 1 1 -62c6,1 1 1 -7d5f,1 1 1 -7a61,2 1 1 -740e,2 1 1 -6f2a,3 1 1 ",
     "-69ed,1 1 1 -6929,4 1 1 -613b,1 1 1 -612f,1 1 1 -6104,1 1 1 -5c79,1 1 1 -6950,1 1 1 -6378,1 ",
     "1 1 -aa82,1 1 1 -a94a,1 1 1 -a8e5,1 1 1 -a76a,1 1 1 -a750,1 1 1 -a6e4,1 1 1 -a499,1 1 1 ",
     "-a431,1 1 1 -a3d0,1 1 1 -a1f9,1 1 1 -a192,1 1 1 -9dd7,1 1 1 -9dce,1 1 1 -99a9,1 1 1 -98d6,1 ",
     "1 1 -98b1,1 1 1 -984e,1 1 1 -94f2,1 1 1 -9460,1 1 1 -93b2,1 1 1 -91bf,1 1 1 -8cce,1 1 1 ",
     "-8c2c,1 1 1 -8b25,1 1 1 -88da,1 1 1 -881e,1 1 1 -8628,1 1 1 -81ba,1 1 1 -810e,1 1 1 -8104,1 ",
     "1 1 -8106,1 1 1 -80ff,1 1 1 -80fa,1 1 1 -80f4,1 2 1 -80c5,2 1 1 -8014,1 1 1 -7fd4,1 1 1 ",
     "-7e96,1 1 1 -7c63,1 1 1 -7c4f,1 1 1 -7c18,1 1 1 -7ae8,1 1 1 -7a56,1 1 1 -786f,1 2 1 = ",
     "8279,2 1 1 -7608,1 1 1 -7150,1 1 1 -70cb,1 1 1 -6f61,1 1 1 -6f2a,1 1 1 -6d91,1 1 1 -6d5d,1 ",
     "1 1 -6ab0,1 1 1 -6a2f,1 1 1 -6385,1 1 1 -626a,1 1 1 -622f,1 1 1 -99f6,1 1 1 +14882,1 1 1 ",
     "-7855,3 1 1 -ac4a,1 1 1 -a8bc,1 1 1 -a90a,1 1 1 -aaf3,1 1 1 -a92f,1 1 1 -a8f5,1 1 1 -a7af,1 ",
     "1 1 -a77d,1 1 1 -a4db,1 1 1 -a524,1 1 1 -a4e1,1 1 1 -a499,1 1 1 -a222,1 1 1 -a1ca,1 1 1 ",
     "-a13a,1 1 1 -a12b,1 1 1 -a01e,1 1 1 -9f59,1 1 1 -9bb0,1 1 1 -9baa,1 1 1 -9b1b,1 1 1 -9ad8,1 ",
     "1 1 -99ae,1 1 1 -9939,1 1 1 -9980,1 1 1 -98fb,1 1 1 -992a,1 1 1 -9899,1 1 1 -9858,1 1 1 ",
     "-96c9,1 1 1 -9672,1 1 1 -963d,1 1 1 -953a,1 1 1 -941d,1 1 1 -937b,1 1 1 -9378,1 1 1 -933e,1 ",
     "1 1 -8f1c,1 1 1 -8edc,1 1 1 -8d56,1 1 1 -8bbd,1 1 1 -8bce,1 1 1 -8b78,1 1 1 -8a7d,1 1 1 ",
     "-892e,1 1 1 -82f6,1 1 1 -8869,1 1 1 -87f0,1 1 1 -8776,1 1 1 -8630,1 1 1 -859c,1 1 1 -8568,1 ",
     "1 1 -8487,1 1 1 -8486,1 1 1 -83dc,1 1 1 -83cc,1 1 1 -83b4,1 1 1 -835f,1 1 1 -836a,1 1 1 ",
     "-81df,1 1 1 -7ffb,1 1 1 -7eed,1 1 1 -7e33,1 1 1 -7d54,1 1 1 -7cbc,1 1 1 -7b73,1 1 1 -7aad,1 ",
     "1 1 -7761,1 1 1 -76c5,1 1 1 -733c,1 1 1 -7175,1 1 1 -7131,1 1 1 -7122,1 1 1 -6ffa,1 1 1 ",
     "-6fc2,1 1 1 -6ff0,1 1 1 -6fbb,1 1 1 -6fbf,1 1 1 -6fd1,1 1 1 -6f86,1 1 1 -6f36,1 1 1 -6db9,1 ",
     "1 1 -6b8a,1 1 1 -6a51,1 1 1 -692b,1 1 1 -684f,1 1 1 -644a,1 1 1 -63e4,1 1 1 -6372,1 1 1 ",
     "-62ee,1 1 1 -62cb,1 1 1 -62c0,1 1 1 -6291,1 1 1 -5fbb,1 1 1 -5b32,1 1 1 +12d7b,1 1 1 ",
     "+12d74,1 1 1 +13904,1 1 1 -bf35,1 1 1 -babb,1 1 1 -ba9b,1 1 1 +15774,1 1 1 +161fa,1 1 1 ",
     "+183fc,1 1 1 -5b95,1 1 1 -5b4b,44 1 1 = 5d9 5b4,2 1 1 = 5f2 5b7,b 1 1 = 5e9 5c1,1 1 1 = 5e9 ",
     "5c2,1 1 1 = 5e9 5bc 5c1,1 1 1 = 5e9 5bc 5c2,1 1 1 = 5d0 5b7,1 1 1 = 5d0 5b8,1 1 1 = 5d0 ",
     "5bc,1 1 1 = 5d1 5bc,1 1 1 = 5d2 5bc,1 1 1 = 5d3 5bc,1 1 1 = 5d4 5bc,1 1 1 = 5d5 5bc,1 1 1 = ",
     "5d6 5bc,2 1 1 = 5d8 5bc,1 1 1 = 5d9 5bc,1 1 1 = 5da 5bc,1 1 1 = 5db 5bc,1 1 1 = 5dc 5bc,2 1 ",
     "1 = 5de 5bc,2 1 1 = 5e0 5bc,1 1 1 = 5e1 5bc,2 1 1 = 5e3 5bc,1 1 1 = 5e4 5bc,2 1 1 = 5e6 ",
     "5bc,1 1 1 = 5e7 5bc,1 1 1 = 5e8 5bc,1 1 1 = 5e9 5bc,1 1 1 = 5ea 5bc,1 1 1 = 5d5 5b9,1 1 1 = ",
     "5d1 5bf,1 1 1 = 5db 5bf,1 1 1 = 5e4 5bf,a7b 1 1 = 105d2 307,1b 1 1 = 105da 307,ab6 1 1 = ",
     "11099 110ba,2 1 1 = 1109b 110ba,f 1 1 = 110a5 110ba,83 1 1 = 11131 11127,1 1 1 = 11132 ",
     "11127,21c 1 1 = 11347 1133e,1 1 1 = 11347 11357,37 1 1 = 11382 113c9,2 1 1 = 11384 113bb,9 ",
     "1 1 = 1138b 113c2,3 1 1 = 11390 113c9,34 1 1 = 113c2 113c2,2 1 1 = 113c2 113b8,1 1 1 = ",
     "113c2 113c9,f3 1 1 = 114b9 114ba,1 1 1 = 114b9 114b0,2 1 1 = 114b9 114bd,fc 1 1 = 115b8 ",
     "115af,1 1 1 = 115b9 115af,37d 1 1 = 11935 11930,47e9 1 1 = 1611e 1611e,1 1 1 = 1611e ",
     "16129,1 1 1 = 1611e 1611f,1 1 1 = 16129 1611f,1 1 1 = 1611e 16120,1 1 1 = 1611e 1611e ",
     "1611f,1 1 1 = 1611e 16129 1611f,1 1 1 = 1611e 1611e 16120,c40 1 1 = 16d67 16d67,1 1 1 = ",
     "16d63 16d67,1 1 1 = 16d63 16d67 16d67,63f4 1 1 = 1d157 1d165,1 1 1 = 1d158 1d165,1 1 1 = ",
     "1d158 1d165 1d16e,1 1 1 = 1d158 1d165 1d16f,1 1 1 = 1d158 1d165 1d170,1 1 1 = 1d158 1d165 ",
     "1d171,1 1 1 = 1d158 1d165 1d172,57 1 1 = 1d1b9 1d165,1 1 1 = 1d1ba 1d165,1 1 1 = 1d1b9 ",
     "1d165 1d16e,1 1 1 = 1d1ba 1d165 1d16e,1 1 1 = 1d1b9 1d165 1d16f,1 1 1 = 1d1ba 1d165 ",
     "1d16f,12640 1 1 -2a9c3,1 1 1 -2a9c9,1 1 1 -2a9c1,1 1 1 -f6e1,1 1 1 -2a8a4,1 1 1 -2a857,1 1 ",
     "1 -2a84b,1 1 1 -2a805,1 1 1 -2a78e,1 1 1 -2a770,1 1 1 -2a723,1 1 1 -2a73c,1 1 1 -2c36e,1 1 ",
     "1 -f1d3,1 1 1 -2a6c1,1 1 1 -2a6bb,1 1 1 -2a6ac,1 1 1 -2a69a,1 1 1 -f2f6,1 1 1 -2c35a,1 1 1 ",
     "-2a6ad,1 1 1 -2a688,1 1 1 -f2cb,1 1 1 -2a680,1 1 1 -2a674,1 1 1 -2a94d,1 1 1 -2a66e,1 1 1 ",
     "-2a666,1 1 1 -663d,1 1 1 -2a628,1 1 1 -2a61b,1 1 1 -2c340,1 1 1 -2a5e5,1 1 1 -2a5db,1 1 1 ",
     "-2a5b0,1 1 1 -2a5ac,1 1 1 -2c30f,1 1 1 -2a55e,1 1 1 -2a55d,1 1 1 -2a543,1 1 1 -2a52e,1 2 1 ",
     "-2a524,2 1 1 -2a514,1 1 1 -2a4e3,1 1 1 -2a4dc,1 1 1 -2a4d4,1 1 1 -2a4bc,1 1 1 -2a4b3,1 3 1 ",
     "= 537f,3 1 1 -ee08,1 1 1 -287c5,1 1 1 -2a46c,1 1 1 -2a458,1 1 1 -ecd5,1 1 1 -2a44e,1 1 1 ",
     "-2a449,1 1 1 -2a435,1 1 1 -2a39e,1 1 1 -2a405,1 1 1 -2a3f6,1 1 1 -2a3d7,1 1 1 -2a39e,1 1 1 ",
     "-2a34b,1 1 1 -2a332,1 1 1 -2a2f0,1 1 1 -2a2e1,1 2 1 = 5584,2 1 1 -2a2ae,1 1 1 -2a29d,1 1 1 ",
     "-2a296,1 1 1 -2a288,1 1 1 -2a135,1 1 1 -2a246,1 1 1 -2a136,1 1 1 -2a1fd,1 1 1 -2a1db,1 1 1 ",
     "-2a649,1 1 1 -29f63,1 1 1 -2a084,1 1 1 -2a05f,1 1 1 -2a047,1 1 1 -2a0ca,1 1 1 -2a024,1 1 1 ",
     "-2a026,1 1 1 -29fac,1 1 1 -e375,1 1 1 -29f68,1 1 1 -29f64,1 1 1 -29f56,1 1 1 -29f43,1 1 1 ",
     "-29f3c,1 1 1 -29efd,1 1 1 -e1b8,1 1 1 -e177,1 1 1 -29e76,1 1 1 -29e48,1 1 1 -29e3d,1 1 1 ",
     "-29e8d,1 1 1 -29e00,1 1 1 -2c179,1 1 1 -2c16c,1 1 1 -29d61,1 2 1 = 5b3e,2 1 1 -dea4,1 1 1 ",
     "-29caa,1 1 1 -29c96,1 1 1 -29c88,1 1 1 -29c7d,1 1 1 -dd59,1 1 1 -29c73,1 1 1 -29c6d,1 1 1 ",
     "-29921,1 1 1 -29c53,1 1 1 -2c0f5,1 1 1 -29c17,1 1 1 -29c0a,1 1 1 -29bb9,1 1 1 -29bed,1 1 1 ",
     "-da97,1 1 1 -29b39,1 1 1 -da97,1 1 1 -29b10,1 1 1 -29b14,1 1 1 -29b04,1 2 1 -29aa0,2 1 1 ",
     "-2c054,1 1 1 -29a87,1 1 1 -29a5d,1 1 1 -29a49,1 1 1 -29a1e,1 1 1 -2c026,1 1 1 -d706,1 1 1 ",
     "-2c00e,1 1 1 -299db,1 1 1 -299d9,1 1 1 -299d7,1 1 1 -299c4,1 1 1 -54fd,1 1 1 -29992,1 2 1 = ",
     "22331,2 1 1 -27692,1 2 1 = 5f22,2 1 1 -2bfcf,1 1 1 -c5df,1 1 1 -96be,1 1 1 -29937,1 1 1 ",
     "-2992f,1 1 1 -2bfb8,1 1 1 -29902,1 1 1 -298d0,1 1 1 -298c7,1 1 1 -298a6,1 1 1 -2981f,1 1 1 ",
     "-2bf67,1 1 1 -2bf86,1 1 1 -2980f,1 1 1 -d1d0,1 1 1 -297de,1 1 1 -2975e,1 1 1 -2975b,1 1 1 ",
     "-2975a,1 1 1 -2975d,1 1 1 -29730,1 1 1 -2971d,1 1 1 -296fa,1 1 1 -29709,1 1 1 -296ff,1 1 1 ",
     "-296d1,1 1 1 -296be,1 1 1 -296bb,1 1 1 -296a2,1 1 1 -29698,1 1 1 -29657,1 1 1 -29604,1 1 1 ",
     "-295e2,1 1 1 -29567,1 1 1 -cdac,1 1 1 -2957c,1 1 1 -295be,1 1 1 -29553,1 1 1 -29539,1 1 1 ",
     "-294d9,1 1 1 -cccd,1 1 1 -2949d,1 1 1 -294fb,1 1 1 -29518,1 1 1 -2be94,1 1 1 -2945a,1 1 1 ",
     "-29446,1 1 1 -29428,1 1 1 -2944f,1 1 1 -2be5b,1 1 1 -29379,1 1 1 -2935d,1 1 1 -c8c0,1 1 1 ",
     "-292e8,1 1 1 -291d4,1 1 1 -29284,1 1 1 -2bdb5,1 1 1 -2923e,1 1 1 -2bdc8,1 1 1 -2bded,1 1 1 ",
     "-2a740,1 1 1 -2a73e,1 1 1 -291d4,1 1 1 -29239,1 1 1 -27829,1 1 1 -2b4fe,1 1 1 -291c1,1 1 1 ",
     "-291be,1 1 1 -291b9,1 1 1 -2917d,1 1 1 -29189,1 1 1 -c51a,1 1 1 -2bd95,1 1 1 -290e5,1 1 1 ",
     "-2915b,1 1 1 -2908f,1 1 1 -2905d,1 1 1 -c476,1 1 1 -29056,1 1 1 -290c6,1 1 1 -28fd2,1 1 1 ",
     "-2bd4a,1 1 1 -28fa6,1 1 1 -28f46,1 1 1 -28f00,1 1 1 -28e43,1 1 1 -c249,1 1 1 -28e12,1 1 1 ",
     "-2bcd6,1 1 1 -28dce,1 1 1 -c049,1 1 1 -28d9d,1 1 1 -2bca4,1 1 1 -28d81,1 1 1 -28d55,1 2 1 ",
     "-28d3b,2 1 1 -be6a,1 1 1 -dbed,1 1 1 -bdff,1 1 1 -28cac,1 1 1 -bc3f,1 1 1 -28c3d,1 1 1 ",
     "-28c30,1 1 1 -28c97,1 1 1 -28be9,1 1 1 -28bc2,1 1 1 -28b8a,1 1 1 -28bc1,1 1 1 -28b9a,1 1 1 ",
     "-28b8c,1 1 1 -28b80,1 1 1 -bbe8,1 1 1 -28bd3,1 1 1 -28ad9,1 1 1 -28a9b,1 1 1 -2bbd7,1 1 1 ",
     "-28a40,1 1 1 -28a45,1 1 1 -ba3c,1 1 1 -28b15,1 1 1 -289a1,1 1 1 -b9b2,1 1 1 -b983,1 1 1 ",
     "-2894c,1 1 1 -288da,1 1 1 -288f6,1 1 1 -288fa,1 1 1 -2bb80,1 1 1 -288cd,1 1 1 -2889b,1 1 1 ",
     "-288a2,1 1 1 -2886d,1 1 1 -f3f6,1 1 1 -287d7,1 1 1 -b6ba,1 1 1 -28782,1 1 1 -b574,1 1 1 ",
     "-286f8,1 1 1 -286ec,1 1 1 -286d2,1 1 1 -b31b,1 1 1 -286a4,1 1 1 -28690,1 1 1 -b1f1,1 1 1 ",
     "-b113,1 1 1 -285ae,1 1 1 -2859e,1 1 1 -2ba7e,1 1 1 -28586,1 2 1 = 3eb8,2 1 1 -284e7,1 1 1 ",
     "-284d3,1 1 1 -284bf,1 1 1 -284ac,1 1 1 -28468,1 1 1 -2ba18,1 1 1 -28410,1 1 1 -acff,1 1 1 ",
     "-283f8,1 1 1 -aca5,1 1 1 -283c8,1 1 1 -d79a,1 1 1 -2832a,1 1 1 -a99a,1 1 1 -a984,1 1 1 ",
     "-a8f9,1 1 1 -2b942,1 1 1 -2b937,1 1 1 -2824c,1 1 1 -a84e,1 1 1 -a850,1 1 1 -a82a,1 1 1 ",
     "-a811,1 2 1 -28227,2 1 1 -28228,1 1 1 -281fe,1 1 1 -2b910,1 1 1 -281bf,1 1 1 -2b905,1 1 1 ",
     "-2b8b6,1 1 1 -a530,1 1 1 -28100,1 1 1 -280c3,1 1 1 -28084,1 1 1 -2b86e,1 1 1 -a32c,1 1 1 ",
     "-27ffd,1 1 1 -a2ba,1 1 1 -a290,1 1 1 -27fc7,1 1 1 -27f6c,1 1 1 -2b829,1 1 1 -27f19,1 1 1 ",
     "-27f10,1 1 1 -27f0c,1 1 1 -9fe0,1 2 1 = 25aa7,2 1 1 -27e71,1 1 1 -2b75e,1 1 1 -9db6,1 1 1 ",
     "-27d9c,1 1 1 -27d9a,1 1 1 -2b73d,1 1 1 -9ce5,1 1 1 -27c94,1 1 1 -2b6c7,1 1 1 -27c80,1 1 1 ",
     "-27c86,1 1 1 -27c6a,1 1 1 -99e5,1 1 1 -27c09,1 1 1 -2b66c,1 1 1 -27ba7,1 1 1 -27b6d,1 1 1 ",
     "-27b2b,1 1 1 -2b63d,1 1 1 -974a,1 1 1 -972c,1 1 1 -2b61b,1 1 1 -969c,1 1 1 -279fc,1 1 1 ",
     "-9639,1 1 1 -279e3,1 1 1 -2797f,1 1 1 -27975,1 1 1 -94a1,1 1 1 -9459,1 1 1 -2791d,1 1 1 ",
     "-93d6,1 1 1 -2790f,1 1 1 -c621,1 1 1 -2b5ac,1 1 1 -278d0,1 1 1 -27880,1 1 1 -2b579,1 1 1 ",
     "-27847,1 1 1 -29ed1,1 1 1 -91e0,1 1 1 -91d3,1 1 1 -c5f6,1 1 1 -c5ee,1 1 1 -2778a,1 1 1 ",
     "-27788,1 1 1 -269ef,1 1 1 -2b523,1 1 1 -276fe,1 1 1 -27705,1 1 1 -276f4,1 1 1 -2a6df,1 1 1 ",
     "-276e2,1 1 1 -276e1,1 1 1 -276d8,1 1 1 -276b0,1 1 1 -8e5b,1 1 1 -276b3,1 1 1 -2767c,1 1 1 ",
     "-27637,1 1 1 -275ee,1 1 1 -27679,1 1 1 -275e0,1 1 1 -275b7,1 1 1 -27548,1 1 1 -2764d,1 1 1 ",
     "-275d7,1 1 1 -275d6,1 1 1 -275c7,1 1 1 -8d6e,1 1 1 -8c3a,1 1 1 -8cd1,1 1 1 -2b47c,1 1 1 ",
     "-274b7,1 1 1 -274b6,1 1 1 -27494,1 1 1 -85e1,1 1 1 -27448,1 1 1 -8a81,1 1 1 -2b451,1 1 1 ",
     "-2b44e,1 1 1 -89ff,1 1 1 -88df,1 1 1 -2b447,1 1 1 -27363,1 1 1 -27358,1 1 1 -2734e,1 1 1 ",
     "-2734d,1 1 1 -2730e,1 1 1 -27330,1 1 1 -272ab,1 1 1 -272d8,1 1 1 -27242,1 1 1 -27294,1 1 1 ",
     "-27252,1 1 1 -27238,1 1 1 -2b3e8,1 1 1 -271df,1 1 1 -271c0,1 1 1 -2b3c9,1 1 1 -27163,1 1 1 ",
     "-27161,1 1 1 -835e,1 1 1 -270ef,1 1 1 -270e9,1 1 1 -2b393,1 1 1 -270cf,1 1 1 -2c50f,1 1 1 ",
     "-811d,1 1 1 -8066,1 1 1 -2b30f,1 1 1 -2b307,1 1 1 -26f2f,1 1 1 -26ee3,1 1 1 -26e47,1 1 1 ",
     "-26d7d,1 1 1 -7d2b,1 1 1 -26d29,1 1 1 -26d14,1 1 1 -26cbb,1 1 1 -26c60,1 1 1 -7aa9,1 1 1 ",
     "-f1d5,1 1 1 -26c0f,1 1 1 -26c1f,1 1 1 -26bec,1 1 1 -f0ff,1 1 1 -26b0a,1 1 1 -26aa7,1 1 1 ",
     "-740e,1 1 1 -73f4,1 1 1 -2694e,1 1 1 -268f2,1 1 1 -268d3,1 1 1 -72b7,1 1 1 -268cb,1 1 1 ",
     "-267af,1 2 1 -26711,2 1 1 -2676e,1 1 1 -265f2,1 1 1 -265d7,1 1 1 -6df3,1 1 1 -26463,1 1 1 ",
     "-2b05a,1 1 1 -26439,1 1 1 -6c7a,1 1 1 -2b00c,1 1 1 -26330,1 1 1 -29c42,1 1 1 -262d2,1 1 1 ",
     "-68b1,1 1 1 -67dd,1 1 1 -2af8a,1 1 1 -2af83,1 1 1 -2621a,1 1 1 -65f1,1 1 1 -2af4a,1 1 1 ",
     "-6567,1 2 1 = 980b,2 1 1 -261d7,1 1 1 -644b,1 1 1 -26120,1 1 1 -2aed0,1 1 1 -260db,1 1 1 ",
     "-2605e,1 1 1 -26044,1 1 1 -26009,1 1 1 -2ae3a,1 1 1 -5ed9,1 1 1 -25ef8,1 1 1 -25dcb,1 1 1 ",
     "-25d0f,1 1 1 -2ad3f,1 1 1 -2ad21,1 1 1 -25ca8,1 1 1 -5942,1 1 1 -2ad19,1 1 1 -590d,1 1 1 ",
     "-5805,1 1 1 -5783,1 1 1 -25b5a,1 1 1 -2acc0,1 1 1 -25b1e,1 1 1 -25b1a,1 1 1 -25b14,1 1 1 ",
     "-25b0b,1 1 1 -25b05,1 1 1 -25ae1,1 1 1 -541d"])

/-- The full canonical decomposition of a code point that has one. -/
def decomposition? (n : Nat) : Option (List Nat) := decompositionMap.image? n

/-- The primary composites, keyed by the pair they decompose to. -/
def compositionTable : ClassTable := ClassTable.ofText
  (String.join
    ["3fc0338 226e 110000 2260 110000 226f 32ffc8 c0 1 c1 1 c2 1 c3 1 100 2 102 1 226 1 c4 1 1ea2 ",
     "1 c5 2 1cd 3 200 2 202 12 1ea0 2 1e00 3 104 10ffdf 1e02 1c 1e04 e 1e06 10ffd0 106 1 108 5 ",
     "10a 5 10c 1b c7 10ffe0 1e0a 5 10e 17 1e0c 4 1e10 6 1e12 4 1e0e 10ffcf c8 1 c9 1 ca 1 1ebc 1 ",
     "112 2 114 1 116 1 cb 1 1eba 3 11a 3 204 2 206 12 1eb8 4 228 1 118 5 1e18 3 1e1a 10ffd7 1e1e ",
     "10fffa 1f4 1 11c 2 1e20 2 11e 1 120 5 1e6 1b 122 10ffdb 124 5 1e22 1 1e26 4 21e 17 1e24 4 ",
     "1e28 7 1e2a 10ffd2 cc 1 cd 1 ce 1 128 1 12a 2 12c 1 130 1 cf 1 1ec8 3 1cf 3 208 2 20a 12 ",
     "1eca 5 12e 8 1e2c 10ffd2 134 10ffff 1e30 b 1e8 17 1e32 4 136 a 1e34 10ffd0 139 b 13d 17 ",
     "1e36 4 13b 6 1e3c 4 1e3a 10ffd0 1e3e 6 1e40 1c 1e42 10ffdd 1f8 1 143 2 d1 4 1e44 5 147 17 ",
     "1e46 4 145 6 1e4a 4 1e48 10ffcf d2 1 d3 1 d4 1 d5 1 14c 2 14e 1 22e 1 d6 1 1ece 2 150 1 1d1 ",
     "3 20c 2 20e a 1a0 8 1ecc 5 1ea 10ffd9 1e54 6 1e56 21fffa 154 6 1e58 5 158 3 210 2 212 12 ",
     "1e5a 4 156 a 1e5e 10ffd0 15a 1 15c 5 1e60 5 160 17 1e62 3 218 1 15e 10ffe0 1e6a 5 164 17 ",
     "1e6c 3 21a 1 162 6 1e70 4 1e6e 10ffcf d9 1 da 1 db 1 168 1 16a 2 16c 2 dc 1 1ee6 1 16e 1 ",
     "170 1 1d3 3 214 2 216 a 1af 8 1ee4 1 1e72 4 172 5 1e76 3 1e74 10ffd3 1e7c 20 1e7e 10ffdd ",
     "1e80 1 1e82 1 174 5 1e86 1 1e84 1b 1e88 10ffe4 1e8a 1 1e8c 10fff8 1ef2 1 dd 1 176 1 1ef8 1 ",
     "232 3 1e8e 1 178 1 1ef6 1a 1ef4 10ffde 179 1 1e90 5 17b 5 17d 17 1e92 e 1e94 76ffcf e0 1 e1 ",
     "1 e2 1 e3 1 101 2 103 1 227 1 e4 1 1ea3 1 e5 2 1ce 3 201 2 203 12 1ea1 2 1e01 3 105 10ffdf ",
     "1e03 1c 1e05 e 1e07 10ffd0 107 1 109 5 10b 5 10d 1b e7 10ffe0 1e0b 5 10f 17 1e0d 4 1e11 6 ",
     "1e13 4 1e0f 10ffcf e8 1 e9 1 ea 1 1ebd 1 113 2 115 1 117 1 eb 1 1ebb 3 11b 3 205 2 207 12 ",
     "1eb9 4 229 1 119 5 1e19 3 1e1b 10ffd7 1e1f 10fffa 1f5 1 11d 2 1e21 2 11f 1 121 5 1e7 1b 123 ",
     "10ffdb 125 5 1e23 1 1e27 4 21f 17 1e25 4 1e29 7 1e2b 3 1e96 10ffcf ec 1 ed 1 ee 1 129 1 12b ",
     "2 12d 2 ef 1 1ec9 3 1d0 3 209 2 20b 12 1ecb 5 12f 8 1e2d 10ffd2 135 a 1f0 10fff5 1e31 b 1e9 ",
     "17 1e33 4 137 a 1e35 10ffd0 13a b 13e 17 1e37 4 13c 6 1e3d 4 1e3b 10ffd0 1e3f 6 1e41 1c ",
     "1e43 10ffdd 1f9 1 144 2 f1 4 1e45 5 148 17 1e47 4 146 6 1e4b 4 1e49 10ffcf f2 1 f3 1 f4 1 ",
     "f5 1 14d 2 14f 1 22f 1 f6 1 1ecf 2 151 1 1d2 3 20d 2 20f a 1a1 8 1ecd 5 1eb 10ffd9 1e55 6 ",
     "1e57 21fffa 155 6 1e59 5 159 3 211 2 213 12 1e5b 4 157 a 1e5f 10ffd0 15b 1 15d 5 1e61 5 161 ",
     "17 1e63 3 219 1 15f 10ffe0 1e6b 1 1e97 4 165 17 1e6d 3 21b 1 163 6 1e71 4 1e6f 10ffcf f9 1 ",
     "fa 1 fb 1 169 1 16b 2 16d 2 fc 1 1ee7 1 16f 1 171 1 1d4 3 215 2 217 a 1b0 8 1ee5 1 1e73 4 ",
     "173 5 1e77 3 1e75 10ffd3 1e7d 20 1e7f 10ffdd 1e81 1 1e83 1 175 5 1e87 1 1e85 2 1e98 19 1e89 ",
     "10ffe4 1e8b 1 1e8d 10fff8 1ef3 1 fd 1 177 1 1ef9 1 233 3 1e8f 1 ff 1 1ef7 1 1e99 19 1ef5 ",
     "10ffde 17a 1 1e91 5 17c 5 17e 17 1e93 e 1e95 30dffcf 1fed 1 385 41 1fc1 1b9ffbe 1ea6 1 1ea4 ",
     "2 1eaa 6 1ea8 21fffb 1de 10fffd 1fa 110000 1fc 3 1e2 10fffd 1e08 32ffff 1ec0 1 1ebe 2 1ec4 ",
     "6 1ec2 54fff8 1e2e 54ffff 1ed2 1 1ed0 2 1ed6 6 1ed4 10fff8 1e4c 3 22c 4 1e4e 10fffc 22a ",
     "21fffd 1fe 43ffff 1db 1 1d7 3 1d5 8 1d9 65fff4 1ea7 1 1ea5 2 1eab 6 1ea9 21fffb 1df 10fffd ",
     "1fb 110000 1fd 3 1e3 10fffd 1e09 32ffff 1ec1 1 1ebf 2 1ec5 6 1ec3 54fff8 1e2f 54ffff 1ed3 1 ",
     "1ed1 2 1ed7 6 1ed5 10fff8 1e4d 3 22d 4 1e4f 10fffc 22b 21fffd 1ff 43ffff 1dc 1 1d8 3 1d6 8 ",
     "1da 65fff4 1eb0 1 1eae 2 1eb4 6 1eb2 10fff7 1eb1 1 1eaf 2 1eb5 6 1eb3 fefff7 1e14 1 1e16 ",
     "10ffff 1e15 1 1e17 3c8ffff 1e50 1 1e52 10ffff 1e51 1 1e53 dd0006 1e64 110000 1e65 550000 ",
     "1e66 110000 1e67 76fffa 1e78 110000 1e79 110007 1e7a 110000 1e7b 153ffff 1e9b 230fff9 1edc ",
     "1 1eda 2 1ee0 6 1ede 1a 1ee2 10ffdd 1edd 1 1edb 2 1ee1 6 1edf 1a 1ee3 edffdd 1eea 1 1ee8 2 ",
     "1eee 6 1eec 1a 1ef0 10ffdd 1eeb 1 1ee9 2 1eef 6 1eed 1a 1ef1 76ffe9 1ee 362fff8 1ec 110000 ",
     "1ed 3eb0000 1e0 110000 1e1 110002 1e1c 110000 1e1d 54fffe 230 110000 231 6930008 1ef ",
     "10eefff4 1fba 1 386 3 1fb9 2 1fb8 d 1f08 1 1f09 31 1fbc 43ffbb 1fc8 1 388 12 1f18 1 1f19 ",
     "21ffec 1fca 1 389 12 1f28 1 1f29 31 1fcc 21ffbb 1fda 1 38a 3 1fd9 2 1fd8 2 3aa b 1f38 1 ",
     "1f39 65ffec 1ff8 1 38c 12 1f48 1 1f49 220000 1fec 43ffec 1fea 1 38e 3 1fe9 2 1fe8 2 3ab c ",
     "1f59 43ffec 1ffa 1 38f 12 1f68 1 1f69 31 1ffc 330000 1fb4 220000 1fc4 32ffbb 1f70 1 3ac 3 ",
     "1fb1 2 1fb0 d 1f00 1 1f01 2e 1fb6 3 1fb3 43ffbb 1f72 1 3ad 12 1f10 1 1f11 21ffec 1f74 1 3ae ",
     "12 1f20 1 1f21 2e 1fc6 3 1fc3 21ffbb 1f76 1 3af 3 1fd1 2 1fd0 2 3ca b 1f30 1 1f31 2e 1fd6 ",
     "65ffbe 1f78 1 3cc 12 1f40 1 1f41 21ffff 1fe4 1 1fe5 43ffec 1f7a 1 3cd 3 1fe1 2 1fe0 2 3cb b ",
     "1f50 1 1f51 2e 1fe6 43ffbe 1f7c 1 3ce 12 1f60 1 1f61 2e 1ff6 3 1ff3 10ffbb 1fd2 1 390 41 ",
     "1fd7 10ffbe 1fe2 1 3b0 41 1fe7 330003 1ff4 43ffbc 3d3 7 3d4 3740000 407 a9fffe 4d0 2 4d2 ",
     "32fff9 403 21ffff 400 6 4d6 2 401 10fffe 4c1 2 4dc 110000 4de 10fff8 40d 4 4e2 2 419 2 4e4 ",
     "21fff9 40c 440007 4e6 54fffc 4ee 2 40e 2 4f0 3 4f2 43fffd 4f4 440000 4f8 220000 4ec 32fffe ",
     "4d1 2 4d3 32fff9 453 21ffff 450 6 4d7 2 451 10fffe 4c2 2 4dd 110000 4df 10fff8 45d 4 4e3 2 ",
     "439 2 4e5 21fff9 45c 440007 4e7 54fffc 4ef 2 45e 2 4f1 3 4f3 43fffd 4f5 440000 4f9 220000 ",
     "4ed 990000 457 1fe0007 476 110000 477 692fff9 4da 110000 4db ff0000 4ea 110000 4eb 151e034b ",
     "622 1 623 1 625 230ffff 624 220000 626 7e70000 6c2 1210000 6d3 330000 6c0 278302e8 929 ",
     "880000 931 330000 934 9d40082 9cb 19 9cc 19800167 b4b 18 b48 1 b4c 4fb0080 b94 373ffe7 bca ",
     "19 bcc 10ffe7 bcb 86f0098 c48 809007f cc0 76ffed cca 13 cc7 1 cc8 43ffff ccb 83c0069 d4a 19 ",
     "d4c 10ffe7 d4b 9b2008c dda 5 ddc 10 dde 32ffeb ddd 26d90264 1026 b8e00b07 1b06 220000 1b08 ",
     "220000 1b0a 220000 1b0c 220000 1b0e 440000 1b12 2b90000 1b3b 220000 1b3d 220000 1b40 110000 ",
     "1b41 330000 1b43 3233e7cf 1e38 110000 1e39 2530000 1e5c 110000 1e5d 770003 1e68 110000 1e69 ",
     "40cfffb 1eac 4 1eb6 10fffc 1ead 4 1eb7 186fffc 1ec6 110000 1ec7 1430000 1ed8 110000 1ed9 ",
     "362fffe 1f02 1 1f04 41 1f06 3 1f80 10ffbb 1f03 1 1f05 41 1f07 3 1f81 110000 1f82 110000 ",
     "1f83 110000 1f84 110000 1f85 110000 1f86 110000 1f87 10ffbb 1f0a 1 1f0c 41 1f0e 3 1f88 ",
     "10ffbb 1f0b 1 1f0d 41 1f0f 3 1f89 110000 1f8a 110000 1f8b 110000 1f8c 110000 1f8d 110000 ",
     "1f8e 110000 1f8f 10ffbb 1f12 1 1f14 10ffff 1f13 1 1f15 76ffff 1f1a 1 1f1c 10ffff 1f1b 1 ",
     "1f1d 76ffff 1f22 1 1f24 41 1f26 3 1f90 10ffbb 1f23 1 1f25 41 1f27 3 1f91 110000 1f92 110000 ",
     "1f93 110000 1f94 110000 1f95 110000 1f96 110000 1f97 10ffbb 1f2a 1 1f2c 41 1f2e 3 1f98 ",
     "10ffbb 1f2b 1 1f2d 41 1f2f 3 1f99 110000 1f9a 110000 1f9b 110000 1f9c 110000 1f9d 110000 ",
     "1f9e 110000 1f9f 10ffbb 1f32 1 1f34 41 1f36 10ffbe 1f33 1 1f35 41 1f37 76ffbe 1f3a 1 1f3c ",
     "41 1f3e 10ffbe 1f3b 1 1f3d 41 1f3f 76ffbe 1f42 1 1f44 10ffff 1f43 1 1f45 76ffff 1f4a 1 1f4c ",
     "10ffff 1f4b 1 1f4d 76ffff 1f52 1 1f54 41 1f56 10ffbe 1f53 1 1f55 41 1f57 87ffbe 1f5b 1 1f5d ",
     "41 1f5f 76ffbe 1f62 1 1f64 41 1f66 3 1fa0 10ffbb 1f63 1 1f65 41 1f67 3 1fa1 110000 1fa2 ",
     "110000 1fa3 110000 1fa4 110000 1fa5 110000 1fa6 110000 1fa7 10ffbb 1f6a 1 1f6c 41 1f6e 3 ",
     "1fa8 10ffbb 1f6b 1 1f6d 41 1f6f 3 1fa9 110000 1faa 110000 1fab 110000 1fac 110000 1fad ",
     "110000 1fae 110000 1faf 110000 1fb2 440000 1fc2 880000 1ff2 3da0000 1fb7 98ffbb 1fcd 1 1fce ",
     "41 1fcf 770003 1fc7 3300000 1ff7 87ffbb 1fdd 1 1fde 41 1fdf 1ab1fff6 219a 220000 219b ",
     "220000 21ae 3fc0000 21cd 220000 21cf 220000 21ce 31f0000 2204 550000 2209 330000 220c ",
     "1980000 2224 220000 2226 1870000 2241 770000 2244 220000 2247 330000 2249 550000 226d ",
     "1540000 2262 330000 2270 110000 2271 dd0000 2274 110000 2275 330000 2278 110000 2279 330000 ",
     "2280 110000 2281 110000 22e0 110000 22e1 550000 2284 110000 2285 330000 2288 110000 2289 ",
     "aa0000 22e2 110000 22e3 1100000 22ac 660000 22ad 110000 22ae 220000 22af 770000 22ea 110000 ",
     "22eb 110000 22ec 110000 22ed e6a12d61 3094 550000 304c 220000 304e 220000 3050 220000 3052 ",
     "220000 3054 220000 3056 220000 3058 220000 305a 220000 305c 220000 305e 220000 3060 220000 ",
     "3062 330000 3065 220000 3067 220000 3069 770000 3070 1 3071 32ffff 3073 1 3074 32ffff 3076 ",
     "1 3077 32ffff 3079 1 307a 32ffff 307c 1 307d 241ffff 309e 990000 30f4 550000 30ac 220000 ",
     "30ae 220000 30b0 220000 30b2 220000 30b4 220000 30b6 220000 30b8 220000 30ba 220000 30bc ",
     "220000 30be 220000 30c0 220000 30c2 330000 30c5 220000 30c7 220000 30c9 770000 30d0 1 30d1 ",
     "32ffff 30d3 1 30d4 32ffff 30d6 1 30d7 32ffff 30d9 1 30da 32ffff 30dc 1 30dd 153ffff 30f7 ",
     "110000 30f8 110000 30f9 110000 30fa bb0000 30fe e2224d26e 105c9 880000 105e4 b6b00db3 1109a ",
     "220000 1109c aa0000 110ab 94c006d 1112e 110000 1112f 23650217 1134b 19 1134c 3eb0072 11383 ",
     "21fff2 11385 770007 1138e 550007 11391 351ffef 113c7 a 113c5 7 113c8 106700e7 114bc a 114bb ",
     "3 114be 10ef00f2 115ba 110000 115bb 3b3c0381 11938 4c67947ee 16121 1 16123 1 16125 9 16122 ",
     "32fff6 16126 1 16128 10ffff 16127 770000 16124 cfda0c48 16d69 440000 16d68 220000 16d6a"])

/-- The character that a pair of code points composes to, if any. -/
def composition? (a b : Nat) : Option Nat := compositionTable.valueAt? (a * 0x110000 + b)

end Text

end CorpusBench
