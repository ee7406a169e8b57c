import CorpusBench.Text.CodeSet

/-!
# Lower case and the context of a capital sigma

The data that lowering text needs, from version 17 of the Unicode character database.

* The **lower-case mapping** of a character is its full lower-case form: a single character for
  all but the capital I with dot above, which becomes `i` and a combining dot.  Characters
  without a lower-case form map to themselves.
* **Cased** characters are the letters with case (and a few symbols); **case-ignorable**
  characters are the marks, format characters, modifier letters and word-internal punctuation
  that a case context looks through.  A capital sigma is lowered to the final form `ς` when a
  cased character stands before it and none after it, skipping case-ignorable ones.

## Main definitions

* `Text.lowerImage` — the lower-case form of a code point.
* `Text.isCased`, `Text.isCaseIgnorable`.
-/

namespace CorpusBench

namespace Text

/-- The lower-case mapping, for the code points whose lower-case form differs. -/
def lowerMap : CodeMap := CodeMap.ofText
  (String.join
    ["41 1a 1 +20,7f 17 1 +20,18 7 1 +20,28 18 2 +1,30 1 1 = 69 307,2 3 2 +1,7 8 2 +1,11 17 2 ",
     "+1,2e 1 1 -79,1 3 2 +1,8 1 1 +d2,1 2 2 +1,4 1 1 +ce,1 1 1 +1,2 2 1 +cd,2 1 1 +1,3 1 1 +4f,1 ",
     "1 1 +ca,1 1 1 +cb,1 1 1 +1,2 1 1 +cd,1 1 1 +cf,2 1 1 +d3,1 1 1 +d1,1 1 1 +1,4 1 1 +d3,1 1 1 ",
     "+d5,2 1 1 +d6,1 3 2 +1,6 1 1 +da,1 1 1 +1,2 1 1 +da,3 1 1 +1,2 1 1 +da,1 1 1 +1,2 2 1 +d9,2 ",
     "2 2 +1,4 1 1 +db,1 1 1 +1,4 1 1 +1,8 2 1 = 1c6,3 2 1 = 1c9,3 2 1 = 1cc,3 8 2 +1,11 9 2 ",
     "+1,13 2 1 = 1f3,3 1 1 +1,2 1 1 -61,1 1 1 -38,1 14 2 +1,28 1 1 -82,2 9 2 +1,18 1 1 +2a2b,1 1 ",
     "1 +1,2 1 1 -a3,1 1 1 +2a28,3 1 1 +1,2 1 1 -c3,1 1 1 +45,1 1 1 +47,1 5 2 +1,12a 2 2 +1,6 1 1 ",
     "+1,9 1 1 +74,7 1 1 +26,2 3 1 +25,4 1 1 +40,2 2 1 +3f,3 11 1 +20,12 9 1 +20,2c 1 1 +8,9 c 2 ",
     "+1,1c 1 1 -3c,3 1 1 +1,2 1 1 -7,1 1 1 +1,3 3 1 -82,3 10 1 +50,10 20 1 +20,50 11 2 +1,2a 1b ",
     "2 +1,36 1 1 +f,1 7 2 +1,f 30 2 +1,61 26 1 +30,b6f 26 1 +1c60,27 1 1 +1c60,6 1 1 +1c60,2d3 ",
     "50 1 +97d0,50 6 1 +8,899 1 1 +1,7 2b 1 -bc0,2d 3 1 -bc0,143 4b 2 +1,9e 1 1 -1dbf,2 30 2 ",
     "+1,68 8 1 -8,10 6 1 -8,10 8 1 -8,10 8 1 -8,10 6 1 -8,11 4 2 -8,f 8 1 -8,20 8 1 -8,10 8 1 ",
     "-8,10 8 1 -8,10 2 1 -8,2 2 1 -4a,2 1 1 -9,c 4 1 -56,4 1 1 -9,c 2 1 -8,2 2 1 -64,e 2 1 -8,2 ",
     "2 1 -70,2 1 1 -7,c 2 1 -80,2 2 1 -7e,2 1 1 -9,12a 1 1 -1d5d,4 1 1 -20bf,1 1 1 -2046,7 1 1 ",
     "+1c,2e 10 1 +10,23 1 1 +1,333 1a 1 +1a,74a 30 1 +30,60 1 1 +1,2 1 1 -29f7,1 1 1 -ee6,1 1 1 ",
     "-29e7,3 3 2 +1,6 1 1 -2a1c,1 1 1 -29fd,1 1 1 -2a1f,1 1 1 -2a1e,2 1 1 +1,3 1 1 +1,9 2 1 ",
     "-2a3f,2 32 2 +1,6b 2 2 +1,7 1 1 +1,794e 17 2 +1,40 e 2 +1,a2 7 2 +1,10 1f 2 +1,47 2 2 +1,4 ",
     "1 1 -8a04,1 5 2 +1,d 1 1 +1,2 1 1 -a528,3 2 2 +1,6 a 2 +1,14 1 1 -a544,1 1 1 -a54f,1 1 1 ",
     "-a54b,1 1 1 -a541,1 1 1 -a544,2 1 1 -a512,1 1 1 -a52a,1 1 1 -a515,1 1 1 +3a0,1 8 2 +1,10 1 ",
     "1 -30,1 1 1 -a543,1 1 1 -8a38,1 2 2 +1,4 1 1 -a567,1 8 2 +1,10 1 1 -a641,19 1 1 +1,572c 1a ",
     "1 +20,4df 28 1 +28,b0 24 1 +28,c0 b 1 +27,c f 1 +27,10 7 1 +27,8 2 1 +27,6ec 33 1 +40,d0 16 ",
     "1 +20,b50 20 1 +20,55a0 20 1 +20,60 19 1 +1b,7a60 22 1 +22"])

/-- The lower-case form of a code point. -/
def lowerImage (n : Nat) : List Nat := (lowerMap.image? n).getD [n]

/-- The cased code points. -/
def casedSet : CodeSet := CodeSet.ofText
  (String.join
    ["41 1a 6 1a 2f 1 a 1 4 1 5 17 1 1f 1 c3 1 4 4 d0 2 23 7 2 1e 5 60 1 2a 4 2 2 2 4 1 1 6 1 1 3 ",
     "1 1 1 14 1 53 1 8b 8 a6 1 26 9 29 b17 26 1 1 5 1 2 2b 1 4 2a0 56 2 6 882 b 5 2b 2 3 40 c0 ",
     "40 116 2 6 2 26 2 6 2 8 1 1 1 1 1 1 1 1f 2 35 1 7 1 1 3 3 1 7 3 4 2 6 4 d 5 3 1 7 74 1 d 1 ",
     "10 d 65 1 4 1 2 a 1 1 3 5 6 1 1 1 1 1 1 4 1 6 4 1 2 4 5 5 4 1 11 20 3 2 331 34 716 e5 6 4 3 ",
     "2 c 26 1 1 5 1 7912 2e 12 1e 84 66 3 4 1 4d 14 6 1 3 335 2b 1 e 6 50 4f40 7 c 5 409 1a 6 1a ",
     "4a5 50 60 24 4 24 74 b 1 f 1 7 1 2 1 b 1 f 1 7 1 2 1c3 1 2 3 1 2a 1 9 4c5 33 d 33 5d 16 a ",
     "16 b1a 40 5560 40 20 19 2 19 652c 55 1 47 1 2 2 1 2 2 2 4 1 c 1 1 1 7 1 41 1 4 2 8 1 7 1 1c ",
     "1 4 1 5 1 1 3 7 1 154 2 19 1 19 1 1f 1 19 1 1f 1 19 1 1f 1 19 1 1f 1 19 1 8 734 a 1 14 6 6 ",
     "105 3e 892 44 7ec 1a 6 1a 6 1a"])

/-- Whether a character has case. -/
def isCased (c : Char) : Bool := casedSet.contains c.toNat

/-- The case-ignorable code points. -/
def caseIgnorableSet : CodeSet := CodeSet.ofText
  (String.join
    ["27 1 6 1 b 1 23 1 1 1 47 1 4 1 1 1 4 1 2 2 1f7 c0 4 2 4 1 9 2 1 1 fb 7 cf 1 5 1 31 2d 1 1 1 ",
     "2 1 2 1 1 2c 1 b 6 a b 1 1 23 1 a 15 10 1 65 8 1 a 1 4 21 1 1 1 1e 1b 5b b 3a b 4 1 2 1 18 ",
     "18 2b 3 2c 1 7 2 5 9 29 3a 37 1 1 1 4 8 4 1 3 7 a 2 d 1 f 1 3a 1 4 4 8 1 14 2 1a 1 2 2 39 1 ",
     "4 2 4 2 2 3 3 1 1e 2 3 1 b 2 39 1 4 5 1 2 4 1 14 2 16 6 1 1 3a 1 2 1 1 4 8 1 7 2 b 2 1e 1 ",
     "3d 1 c 1 32 1 3 1 37 1 1 3 5 3 1 4 7 2 b 2 1d 1 3a 1 2 1 6 1 5 2 14 2 1c 2 39 2 4 4 8 1 14 ",
     "2 1d 1 48 1 7 3 1 1 5a 1 2 7 b 9 62 1 2 9 9 1 1 7 49 2 1b 1 1 1 1 1 37 e 1 5 1 2 5 b 1 24 9 ",
     "1 66 4 1 6 1 2 2 2 19 2 4 3 10 4 d 1 2 2 6 1 f 1 5e 1 260 3 3b2 3 1d 2 1e 2 1e 2 40 2 1 7 8 ",
     "1 2 b 3 1 5 1 2d 5 33 1 41 2 22 1 76 3 4 2 9 1 6 3 db 2 2 1 3a 1 1 7 1 1 1 1 2 8 6 a 2 1 27 ",
     "1 8 2e 2 c 14 4 30 1 1 5 1 1 5 1 28 9 c 2 20 4 2 2 1 3 38 1 1 2 3 1 1 3 3a 8 2 2 40 6 52 3 ",
     "1 d 1 7 4 1 6 1 3 2 32 3f d 1 22 65 1bd 1 1 3 b 3 d 3 d 3 d 2 c 5 8 2 a 1 2 1 2 5 31 5 1 a ",
     "1 1 d 1 10 d 33 21 b8b 2 71 3 7d 1 f 1 60 20 2f 1 1d5 1 24 4 3 5 5 1 5d 6 5d 3 6f16 1 4e2 6 ",
     "10e 1 62 4 1 a 1 1 1c 4 50 2 e 22 4e 1 17 3 66 4 3 2 8 1 3 1 4 1 19 2 5 1 97 2 1a 12 d 1 26 ",
     "8 19 b 2e 3 30 1 2 4 2 2 11 1 15 2 42 6 2 2 2 2 c 1 8 1 23 1 b 1 33 1 1 3 2 2 5 2 1 1 1b 1 ",
     "e 2 5 2 1 1 64 5 9 3 79 1 2 1 4 1 4f30 1 93 11 23d 10 3 1 c 10 22 1 2 1 a9 1 7 1 6 1 b 1 23 ",
     "1 1 1 2f 1 2d 2 43 1 15 3 201 1 e2 1 95 5 405 6 1 2a 1 9 246 3 1 2 5 4 28 3 4 1 a5 2 23d 4 ",
     "26 1 1a 5 1 1 13b 2 18 1 34 6 46 b 31 4 7b 1 36 f 29 1 2 2 a 3 31 4 2 2 2 1 4 1 a 1 32 3 24 ",
     "5 1 8 3e 1 c 2 34 9 a 4 2 1 5f 3 2 1 1 2 6 1 2 1 9d 1 3 8 15 2 39 2 3 1 25 7 3 5 46 6 d 1 1 ",
     "1 1 1 e 2 55 8 2 3 1 1 17 1 54 6 1 1 4 2 1 2 ee 4 6 2 1 2 1b 2 55 8 2 1 1 2 6a 1 1 1 2 6 1 ",
     "1 65 1 1 1 2 4 1 5 103 9 1 2 100 2 1 1 4 1 90 4 2 2 4 1 20 a 28 6 2 4 8 1 9 6 2 3 2e d 1 2 ",
     "c6 1 1 3 1 1 c9 7 1 6 1 1 52 16 2 7 1 2 1 2 7a 6 3 1 1 2 1 7 1 1 48 2 3 1 1 1 41 1 119 2 b ",
     "2 34 5 5 1 1 1 17 1 14d5 11 6 f 2cc8 c 3 3 9c0 5 3b 7 9 4 1fc 3 28 2 1e2 1 3f 11 40 2 1 2 d ",
     "2 3ffc 4 1 7 1 2 c9e 2 1 4 125c 2e 2 17 220 3 9 10 2 7 1e 4 94 3 7bb 37 4 32 8 1 e 1 16 5 1 ",
     "f 550 7 1 11 2 7 1 2 1 5 5 3e 21 1 a0 e 170 1 3d 4 1fb 5 fe 2 f3 1 2 1 7 2 5 1 9 1 1d0 7 6d ",
     "8 aaf 5 c0c01 1 1e 60 80 f0"])

/-- Whether a case context looks through a character. -/
def isCaseIgnorable (c : Char) : Bool := caseIgnorableSet.contains c.toNat

end Text

end CorpusBench
