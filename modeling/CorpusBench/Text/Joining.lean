import CorpusBench.Text.CodeSet

/-!
# Joining types

How each character of a cursive script joins its neighbours, from version 17 of the Unicode
character database: not at all, on the left, on the right, on both sides, by causing joins, or
transparently (marks, which the neighbours join across).  A zero width non-joiner in a domain
label is allowed between a character that joins on the left and one that joins on the right.

## Main definitions

* `Text.JoiningType`, `Text.joiningType`.
-/

namespace CorpusBench

namespace Text

/-- How a character joins its neighbours. -/
inductive JoiningType where
  /-- It does not join (`U`). -/
  | nonJoining
  /-- It joins to the character on its left (`L`). -/
  | left
  /-- It joins to the character on its right (`R`). -/
  | right
  /-- It joins on both sides (`D`). -/
  | dual
  /-- It causes its neighbours to join (`C`). -/
  | causing
  /-- Neighbours join across it (`T`). -/
  | transparent
  deriving DecidableEq, Repr

/-- The joining type numbered `n` in the table, counting from `0` in declaration order. -/
def JoiningType.ofIndex : Nat → JoiningType
  | 1 => .left
  | 2 => .right
  | 3 => .dual
  | 4 => .causing
  | 5 => .transparent
  | _ => .nonJoining

/-- The joining types, by runs. -/
def joiningTable : ClassTable := ClassTable.ofText
  (String.join
    ["0 0 ad 5 1 0 252 5 70 0 113 5 7 0 107 5 2d 0 1 5 1 0 1 5 2 0 1 5 2 0 1 5 1 0 48 5 b 0 1 5 1 ",
     "0 3 3 1 0 1 2 4 3 1 2 1 3 1 2 1 3 5 2 4 3 d 4 1 3 7 2 1 3 2 5 15 0 e 3 2 5 1 2 3 0 1 2 3 3 ",
     "10 2 12 3 26 2 1 3 2 2 9 3 1 2 1 3 1 2 1 3 2 2 2 0 1 2 1 5 7 0 2 5 6 0 2 5 2 0 1 5 4 2 2 0 ",
     "a 3 3 0 2 3 1 0 f 5 1 2 1 5 1 3 3 2 5 3 4 2 1 3 9 2 1 3 1 2 1 3 1 2 1 3 2 2 1 5 1b 0 2 2 1 ",
     "3 b 2 3 3 f 2 2 3 4 2 1 3 1 2 2 3 3 2 2 3 6 0 26 5 b 0 19 3 21 5 9 0 6 4 1 0 2 5 1 0 18 5 4 ",
     "0 1 5 9 0 1 5 3 0 1 5 5 0 12 2 1 3 5 2 2 3 1 2 1 3 a 2 1 3 1 2 3 5 3 0 4 3 1 0 1 3 4 0 1 2 ",
     "1 3 1 2 2 0 5 2 13 4 3 3 1 0 2 3 5 2 1 3 1 0 7 5 9 3 a 2 3 0 1 2 1 3 2 2 2 3 6 2 1 3 f 0 1 ",
     "5 18 0 1 5 20 0 37 5 1 0 1 5 1 0 4 5 8 0 4 5 1 0 3 5 7 0 a 5 2 0 1d 5 1 0 3a 5 1 0 4 5 4 0 ",
     "8 5 1 0 14 5 2 0 1a 5 1 0 2 5 2 0 39 5 1 0 4 5 2 0 4 5 2 0 2 5 3 0 3 5 1 0 1e 5 2 0 3 5 1 0 ",
     "b 5 2 0 39 5 1 0 4 5 5 0 1 5 2 0 4 5 1 0 14 5 2 0 16 5 6 0 1 5 1 0 3a 5 1 0 2 5 1 0 1 5 4 0 ",
     "8 5 1 0 7 5 2 0 b 5 2 0 1e 5 1 0 3d 5 1 0 c 5 1 0 32 5 1 0 3 5 1 0 37 5 1 0 1 5 3 0 5 5 3 0 ",
     "1 5 4 0 7 5 2 0 b 5 2 0 1d 5 1 0 3a 5 1 0 2 5 1 0 6 5 1 0 5 5 2 0 14 5 2 0 1c 5 2 0 39 5 2 ",
     "0 4 5 4 0 8 5 1 0 14 5 2 0 1d 5 1 0 48 5 1 0 7 5 3 0 1 5 1 0 5a 5 1 0 2 5 7 0 c 5 8 0 62 5 ",
     "1 0 2 5 9 0 b 5 7 0 49 5 2 0 1b 5 1 0 1 5 1 0 1 5 1 0 37 5 e 0 1 5 5 0 1 5 2 0 5 5 b 0 1 5 ",
     "24 0 9 5 1 0 66 5 4 0 1 5 6 0 1 5 2 0 2 5 2 0 19 5 2 0 4 5 3 0 10 5 4 0 d 5 1 0 2 5 2 0 6 5 ",
     "1 0 f 5 1 0 2bf 5 3 0 3b2 5 3 0 1d 5 2 0 1e 5 2 0 1e 5 2 0 40 5 2 0 1 5 7 0 8 5 1 0 2 5 b 0 ",
     "9 5 1 0 29 3 1 0 2 4 1 5 3 0 1 5 1 0 10 3 59 0 c 5 2 3 22 5 1 3 1 0 75 5 3 0 4 5 2 0 9 5 1 ",
     "0 6 5 3 0 db 5 2 0 2 5 1 0 3a 5 1 0 1 5 7 0 1 5 1 0 1 5 1 0 2 5 8 0 6 5 a 0 2 5 1 0 30 5 2e ",
     "0 2 5 c 0 14 5 4 0 30 5 1 0 1 5 5 0 1 5 1 0 5 5 1 0 28 5 9 0 c 5 2 0 20 5 4 0 2 5 2 0 1 5 3 ",
     "0 38 5 1 0 1 5 2 0 3 5 1 0 1 5 3 0 3a 5 8 0 2 5 2 0 98 5 3 0 1 5 d 0 1 5 7 0 4 5 1 0 6 5 1 ",
     "0 3 5 2 0 c6 5 40 0 20b 5 1 0 1 4 1 5 2 0 1a 5 5 0 31 5 5 0 5 5 6 0 60 5 21 0 bfe 5 3 0 8d ",
     "5 1 0 60 5 20 0 22a 5 4 0 6b 5 2 0 75d4 5 4 0 1 5 a 0 20 5 2 0 50 5 2 0 110 5 1 0 3 5 1 0 4 ",
     "5 1 0 19 5 2 0 5 5 1 0 13 3 32 1 1 0 51 5 2 0 1a 5 12 0 d 5 1 0 26 5 8 0 19 5 b 0 2e 5 3 0 ",
     "30 5 1 0 2 5 4 0 2 5 2 0 27 5 1 0 43 5 6 0 2 5 2 0 2 5 2 0 c 5 1 0 8 5 1 0 2f 5 1 0 33 5 1 ",
     "0 1 5 3 0 2 5 2 0 5 5 2 0 1 5 1 0 2a 5 2 0 8 5 1 0 ee 5 1 0 2 5 1 0 4 5 1 0 4f30 5 1 0 2e1 ",
     "5 10 0 10 5 10 0 cf 5 1 0 f9 5 3 0 201 5 1 0 e2 5 1 0 95 5 5 0 686 5 3 0 1 5 2 0 5 5 4 0 28 ",
     "5 3 0 4 5 1 0 80 3 5 2 1 0 1 2 1 0 1 2 2 0 2 1 1 2 5 3 4 1 1 3 5 2 1 3 3 2 1 0 2 2 1 5 2 0 ",
     "4 3 4 2 1 0 90 3 1 2 1 3 1 2 3 3 3 2 1 3 2 2 1 3 1 2 2 3 1 2 1 0 17 2 4 3 2 0 151 1 1 3 21 ",
     "2 1 3 1 5 4 0 41 5 5 0 13d 5 2 0 15 2 1 3 2 0 1 3 2 0 32 5 6 0 30 3 3 2 1 3 11 0 1 5 b 3 3 ",
     "2 1 0 1b 3 4 2 2 3 c 5 4 0 2a 3 1 0 1 3 2 2 3 0 1 3 1 2 2 3 2 2 1 3 2 0 1 3 1 2 2 3 1 0 4 2 ",
     "1 3 1 1 1 0 35 5 1 0 36 5 f 0 29 5 1 0 2 5 2 0 a 5 3 0 31 5 4 0 2 5 2 0 7 5 1 0 3d 5 3 0 24 ",
     "5 5 0 1 5 8 0 3e 5 1 0 c 5 2 0 34 5 9 0 a 5 4 0 2 5 1 0 5f 5 3 0 2 5 1 0 1 5 2 0 6 5 1 0 2 ",
     "5 1 0 9d 5 1 0 3 5 8 0 15 5 2 0 39 5 2 0 3 5 1 0 25 5 7 0 3 5 5 0 46 5 6 0 d 5 1 0 1 5 1 0 ",
     "1 5 1 0 e 5 2 0 55 5 8 0 2 5 3 0 1 5 1 0 17 5 1 0 54 5 6 0 1 5 1 0 4 5 2 0 1 5 2 0 ee 5 4 0 ",
     "6 5 2 0 1 5 2 0 1b 5 2 0 55 5 8 0 2 5 1 0 1 5 2 0 6a 5 1 0 1 5 1 0 2 5 6 0 1 5 1 0 65 5 1 0 ",
     "1 5 1 0 2 5 4 0 1 5 5 0 103 5 9 0 1 5 2 0 100 5 2 0 1 5 1 0 4 5 1 0 90 5 4 0 2 5 2 0 4 5 1 ",
     "0 20 5 a 0 28 5 6 0 2 5 4 0 8 5 1 0 9 5 6 0 2 5 3 0 2e 5 d 0 1 5 2 0 c6 5 1 0 1 5 3 0 1 5 1 ",
     "0 c9 5 7 0 1 5 6 0 1 5 1 0 52 5 16 0 2 5 7 0 1 5 2 0 1 5 2 0 7a 5 6 0 3 5 1 0 1 5 2 0 1 5 7 ",
     "0 1 5 1 0 48 5 2 0 3 5 1 0 1 5 1 0 15b 5 2 0 b 5 2 0 34 5 5 0 5 5 1 0 1 5 1 0 17 5 1 0 14d5 ",
     "5 11 0 6 5 f 0 2cc8 5 c 0 3 5 3 0 9c0 5 5 0 3b 5 7 0 418 5 1 0 3f 5 4 0 51 5 1 0 4cb8 5 2 0 ",
     "1 5 4 0 125c 5 2e 0 2 5 17 0 220 5 3 0 9 5 10 0 2 5 7 0 1e 5 4 0 94 5 3 0 7bb 5 37 0 4 5 32 ",
     "0 8 5 1 0 e 5 1 0 16 5 5 0 1 5 f 0 550 5 7 0 1 5 11 0 2 5 7 0 1 5 2 0 1 5 5 0 64 5 1 0 a0 5 ",
     "7 0 177 5 1 0 3d 5 4 0 1fc 5 4 0 fe 5 2 0 f3 5 1 0 2 5 1 0 7 5 2 0 5 5 1 0 1da 5 7 0 29 3 ",
     "44 5 8 0 c16b5 5 1 0 1e 5 60 0 80 5 f0 0"])

/-- The joining type of a character. -/
def joiningType (c : Char) : JoiningType := JoiningType.ofIndex (joiningTable.value c.toNat)

end Text

end CorpusBench
