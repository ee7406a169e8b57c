import CorpusBench.Text.CodeSet

/-!
# Bidirectional classes

The bidirectional class of every code point, from version 15 of the Unicode character database
(unassigned code points take the default of their block: right to left in the Hebrew and Arabic
ranges, left to right elsewhere), with the code points assigned up to version 17 added: their
nonspacing and enclosing marks are nonspacing marks, their symbols and punctuation other
neutrals, and the rest keep the default of their block.  The rule for right-to-left domain labels reads these classes.

## Main definitions

* `Text.BidiClass` — the classes.
* `Text.bidiClass` — the class of a character.
-/

namespace CorpusBench

namespace Text

/-- A bidirectional class. -/
inductive BidiClass where
  /-- Left to right (`L`). -/
  | left
  /-- Right to left (`R`). -/
  | right
  /-- Right to left, Arabic letters (`AL`). -/
  | arabic
  /-- European number (`EN`). -/
  | europeanNumber
  /-- European number separator (`ES`). -/
  | europeanSeparator
  /-- European number terminator (`ET`). -/
  | europeanTerminator
  /-- Arabic number (`AN`). -/
  | arabicNumber
  /-- Common number separator (`CS`). -/
  | commonSeparator
  /-- Nonspacing mark (`NSM`). -/
  | nonspacingMark
  /-- Boundary neutral (`BN`). -/
  | boundaryNeutral
  /-- Paragraph separator (`B`). -/
  | paragraph
  /-- Segment separator (`S`). -/
  | segment
  /-- White space (`WS`). -/
  | whiteSpace
  /-- Other neutral (`ON`). -/
  | otherNeutral
  /-- Left-to-right embedding (`LRE`). -/
  | leftEmbedding
  /-- Left-to-right override (`LRO`). -/
  | leftOverride
  /-- Right-to-left embedding (`RLE`). -/
  | rightEmbedding
  /-- Right-to-left override (`RLO`). -/
  | rightOverride
  /-- Pop directional format (`PDF`). -/
  | popFormat
  /-- Left-to-right isolate (`LRI`). -/
  | leftIsolate
  /-- Right-to-left isolate (`RLI`). -/
  | rightIsolate
  /-- First strong isolate (`FSI`). -/
  | firstStrongIsolate
  /-- Pop directional isolate (`PDI`). -/
  | popIsolate
  deriving DecidableEq, Repr

/-- The class numbered `n` in the table, counting from `0` in declaration order. -/
def BidiClass.ofIndex : Nat → BidiClass
  | 1 => .right
  | 2 => .arabic
  | 3 => .europeanNumber
  | 4 => .europeanSeparator
  | 5 => .europeanTerminator
  | 6 => .arabicNumber
  | 7 => .commonSeparator
  | 8 => .nonspacingMark
  | 9 => .boundaryNeutral
  | 10 => .paragraph
  | 11 => .segment
  | 12 => .whiteSpace
  | 13 => .otherNeutral
  | 14 => .leftEmbedding
  | 15 => .leftOverride
  | 16 => .rightEmbedding
  | 17 => .rightOverride
  | 18 => .popFormat
  | 19 => .leftIsolate
  | 20 => .rightIsolate
  | 21 => .firstStrongIsolate
  | 22 => .popIsolate
  | _ => .left

/-- The bidirectional classes, by runs. -/
def bidiTable : ClassTable := ClassTable.ofText
  (String.join
    ["0 9 9 b 1 a 1 b 1 c 1 a 1 9 e a 3 b 1 c 1 d 2 5 3 d 5 4 1 7 1 4 1 7 2 3 a 7 1 d 6 0 1a d 6 ",
     "0 1a d 4 9 6 a 1 9 1a 7 1 d 1 5 4 d 4 0 1 d 2 9 1 d 2 5 2 3 2 d 1 0 1 d 3 3 1 0 1 d 5 0 17 ",
     "d 1 0 1f d 1 0 1c1 d 2 0 7 d e 0 2 d e 0 5 d 9 0 1 d 11 8 70 0 4 d 2 0 8 d 1 0 5 d 2 0 1 d ",
     "1 0 6e d 1 0 8c 8 7 0 100 d 1 0 2 d 2 5 1 1 1 8 2d 1 1 8 1 1 1 8 2 1 1 8 2 1 1 8 1 1 38 6 6 ",
     "d 2 2 1 5 2 2 1 7 1 2 1 d 2 8 b 2 30 8 15 6 a 5 1 6 2 2 3 8 1 2 65 8 7 6 1 d 1 8 6 2 2 8 2 ",
     "d 1 8 4 2 2 3 a 2 17 8 1 2 1e 8 1b 2 5b 8 b 2 f 1 2b 8 9 1 2 d 4 1 3 8 1 1 18 8 4 1 1 8 9 1 ",
     "1 8 3 1 1 8 5 1 2b 8 3 1 4 2 30 6 2 2 5 8 9 2 2a 8 18 6 1 8 20 0 37 8 1 0 1 8 1 0 4 8 8 0 4 ",
     "8 1 0 3 8 7 0 a 8 2 0 1d 8 1 0 3a 8 1 0 4 8 4 0 8 8 1 0 14 8 2 0 e 5 2 0 7 5 1 0 2 8 1 0 2 ",
     "8 2 0 39 8 1 0 4 8 2 0 4 8 2 0 2 8 3 0 3 8 1 0 1e 8 2 0 3 8 1 0 b 8 2 0 39 8 1 0 4 8 5 0 1 ",
     "8 2 0 4 8 1 0 14 8 2 0 d 5 1 0 8 8 6 0 1 8 1 0 3a 8 1 0 2 8 1 0 1 8 4 0 8 8 1 0 7 8 2 0 b 8 ",
     "2 0 1e 8 1 0 3d 8 1 0 c 8 1 0 25 d 6 5 1 d 1 0 5 8 1 0 3 8 1 0 37 8 1 0 1 8 3 0 5 8 3 0 1 8 ",
     "4 0 7 8 2 0 b 8 2 0 14 d 7 0 2 8 1 0 3a 8 1 0 f 8 2 0 14 8 2 0 1c 8 2 0 39 8 2 0 4 8 4 0 8 ",
     "8 1 0 14 8 2 0 1d 8 1 0 48 8 1 0 7 8 3 0 1 8 1 0 5a 8 1 0 2 8 7 0 4 5 1 0 7 8 8 0 62 8 1 0 ",
     "2 8 9 0 b 8 7 0 49 8 2 0 1b 8 1 0 1 8 1 0 1 8 1 d 4 0 33 8 e 0 1 8 5 0 1 8 2 0 5 8 b 0 1 8 ",
     "24 0 9 8 1 0 66 8 4 0 1 8 6 0 1 8 2 0 2 8 2 0 19 8 2 0 4 8 3 0 10 8 4 0 d 8 1 0 2 8 2 0 6 8 ",
     "1 0 f 8 1 0 2bf 8 3 0 30 d a 0 66 d 1 0 27f c 1 0 1a d 2 0 75 8 3 0 1d 8 2 0 1e 8 2 0 1e 8 ",
     "2 0 40 8 2 0 1 8 7 0 8 8 1 0 2 8 b 0 7 5 1 0 1 8 1 0 12 d a 0 6 d b 8 3 9 1 8 1 0 75 8 2 0 ",
     "22 8 1 0 76 8 3 0 4 8 2 0 9 8 1 0 6 8 3 0 4 d 1 0 3 d 2 0 98 d 22 0 17 8 2 0 2 8 1 0 3a 8 1 ",
     "0 1 8 7 0 1 8 1 0 1 8 1 0 2 8 8 0 6 8 a 0 2 8 1 0 30 8 2e 0 2 8 c 0 14 8 4 0 30 8 1 0 1 8 5 ",
     "0 1 8 1 0 5 8 1 0 b d 2 0 1b 8 9 0 b d 1 8 2 0 20 8 4 0 2 8 2 0 1 8 3 0 38 8 1 0 1 8 2 0 3 ",
     "8 1 0 1 8 3 0 3a 8 8 0 2 8 2 0 98 8 3 0 1 8 d 0 1 8 7 0 4 8 1 0 6 8 1 0 3 8 2 0 c6 8 40 0 ",
     "1bd d 1 0 1 d 3 0 b d 3 0 d d 3 0 d d 3 0 d d 2 0 1 c b 9 3 0 1 1 1 d 18 c 1 a 1 e 1 10 1 ",
     "12 1 f 1 11 1 7 1 5 5 d f 7 1 d 1a c 1 9 6 13 1 14 1 15 1 16 1 9 6 3 1 0 3 3 6 4 2 d 3 0 1 ",
     "3 a 4 2 d 3 0 11 5 21 d 1 5 e 8 21 0 f d 2 0 1 d 4 0 1 d 2 0 a d 1 0 1 d 3 0 5 d 6 0 1 d 1 ",
     "0 1 d 1 0 1 d 1 0 4 5 1 0 b d 2 0 4 d 5 0 5 d 4 0 2 d 10 0 29 d 3 0 4 d 82 4 1 5 1 d 122 0 ",
     "45 d 1a 0 1 d 94 0 16 d b 0 15 d 28 3 14 0 4e d 1c2 0 1 d 153 0 100 d 274 0 2 d 8a 0 e5 d 6 ",
     "0 4 8 3 0 7 d 7 0 7f 8 1 0 60 8 20 d 5e 0 22 d 1a 0 1 d 59 0 c d d6 0 1a d 10 c 1 d 4 0 3 d ",
     "19 0 9 8 4 0 2 d 1 0 5 d 2 0 5 d 3 0 59 8 2 d 2 0 3 d 1 0 5a d 1 0 c4 d 26 0 9 d 1 0 2d d 2 ",
     "0 31 d 10 0 1c d 3 0 32 d f 0 c d 4 0 a7 d 4 0 63 d 2 0 1f d 1 0 19c0 d 40 0 5690 d 37 0 ",
     "146 d 3 0 5f 8 4 d 1 8 a d 2 0 1e 8 2 0 50 8 2 0 e d 22 0 66 d 1 0 79 8 1 0 3 8 1 0 4 8 1 0 ",
     "19 8 2 0 1 d 4 8 1 0 b 5 2 0 3a d 4 0 4c 8 2 0 1a 8 12 0 d 8 1 0 26 8 8 0 19 8 b 0 2e 8 3 0 ",
     "30 8 1 0 2 8 4 0 2 8 2 0 27 8 1 0 43 8 6 0 2 8 2 0 2 8 2 0 c 8 1 0 8 8 1 0 2f 8 1 0 33 8 1 ",
     "0 1 8 3 0 2 8 2 0 5 8 2 0 1 8 1 0 2a 8 2 0 8 8 1 0 73 d 2 0 79 8 1 0 2 8 1 0 4 8 1 0 4f2f 1 ",
     "1 8 1 1 a 4 1 1 26 2 73 d 10 2 16b d 12 2 40 d 2 2 36 d 8 9 20 2 d d 3 8 10 d a 0 6 8 10 d ",
     "20 7 1 d 1 7 1 0 1 d 1 7 1 d 9 5 1 d 2 4 2 d 3 0 1 d 1 5 2 d 1 0 4 2 8f 9 1 0 1 d 2 5 3 d 5 ",
     "4 1 7 1 4 1 7 2 3 a 7 1 d 6 0 1a d 6 0 1a d b 0 7a 5 2 d 3 5 2 0 1 d 7 0 1 9 9 d 5 9 2 0 ",
     "101 d 1 0 3e d 4d 0 3 d d 0 3 d 1 0 5c 8 1 0 e2 8 1 3 1b 0 7a 8 5 0 485 1 11f d 1 1 e1 8 3 ",
     "1 1 8 2 1 5 8 4 1 28 8 3 1 4 8 1 1 a5 8 2 1 52 d 7 1 1c0 2 24 8 4 2 8 6 a 2 6 1 29 8 5 d 1 ",
     "1 1f d 2 1 d0 6 1f 1 2c 8 2 1 13 2 10 d 9 2 21 8 6 1 30 2 16 8 b 2 1f 1 12 8 4 1 7a 0 1 8 1 ",
     "0 36 8 f 0 b d 14 0 a 8 1 0 2 8 2 0 a 8 3 0 31 8 4 0 2 8 2 0 7 8 1 0 3d 8 3 0 24 8 5 0 1 8 ",
     "8 0 3e 8 1 0 c 8 2 0 34 8 9 0 a 8 4 0 2 8 1 0 5f 8 3 0 2 8 1 0 1 8 2 0 6 8 1 0 2 8 1 0 9d 8 ",
     "1 0 3 8 8 0 15 8 2 0 39 8 2 0 3 8 1 0 25 8 7 0 3 8 5 0 46 8 6 0 d 8 1 0 1 8 1 0 1 8 1 0 1 d ",
     "2 0 1 d 2 0 8 8 2 0 55 8 8 0 2 8 3 0 1 8 1 0 17 8 1 0 54 8 6 0 1 8 1 0 4 8 2 0 1 8 2 0 ee 8 ",
     "4 0 6 8 2 0 1 8 2 0 1b 8 2 0 55 8 8 0 2 8 1 0 1 8 2 0 1f d d 0 3e 8 1 0 1 8 1 0 2 8 6 0 1 8 ",
     "1 0 65 8 3 0 2 8 4 0 1 8 5 0 103 8 9 0 1 8 2 0 100 8 2 0 1 8 1 0 4 8 1 0 90 8 4 0 2 8 2 0 4 ",
     "8 1 0 20 8 6 0 2 8 2 0 28 8 6 0 2 8 4 0 8 8 1 0 9 8 6 0 2 8 3 0 2e 8 d 0 1 8 2 0 c6 8 1 0 1 ",
     "8 3 0 1 8 1 0 7a d 1 0 4e 8 7 0 1 8 6 0 54 8 16 0 2 8 7 0 1 8 2 0 1 8 2 0 7a 8 6 0 3 8 1 0 ",
     "1 8 2 0 1 8 7 0 1 8 1 0 48 8 2 0 3 8 1 0 1 8 1 0 15b 8 2 0 b 8 2 0 34 8 5 0 5 8 1 0 1 8 1 0 ",
     "17 8 1 0 7a d 8 5 4 d 11 0 144e 8 1 0 6 8 f 0 2cc8 8 c 0 3 8 3 0 9c0 8 5 0 3b 8 7 0 236 d 3 ",
     "0 1df 8 1 0 3f 8 4 0 4f d 1 0 1 8 1 0 4cb8 8 2 0 1 9 4 0 f5c d f0 0 a d 3 0 3 d 1b4 0 6 d ",
     "17 0 f d 11 0 f 8 2e 0 2 8 17 0 220 8 3 0 9 9 8 8 8 0 2 8 7 0 1e 8 4 0 3b d 2 0 15 d 42 8 3 ",
     "d 1 0 ba d 57 0 384 d 1 0 39 d 1 0 39 d 1 0 39 d 1 0 39 d 1 0 a 3 32 0 200 8 37 0 4 8 32 0 ",
     "8 8 1 0 e 8 1 0 16 8 5 0 1 8 f 0 550 8 7 0 1 8 11 0 2 8 7 0 1 8 2 0 1 8 5 0 64 8 1 0 a0 8 7 ",
     "0 177 8 1 0 3d 8 4 0 f 5 1 0 1ec 8 4 0 fe 8 2 0 f d 1 0 e3 8 1 0 2 8 1 0 7 8 2 0 5 8 1 0 ",
     "10a 1 d0 8 7 1 6d 8 7 1 325 2 50 1 40 2 50 1 b0 2 f0 d 2 2 e 1 100 d 2c 0 4 d 64 0 c d f 0 ",
     "2 d f 0 1 d f 0 1 d 25 0 a 3 b d 5 0 1f d 1 0 3a d 6 0 3d d 1 0 b2 d 6 0 9a d 3d9 0 3 d 11 ",
     "0 3 d d 0 3 d da 0 6 d c 0 4 d 1 0 f d c 0 4 d 38 0 8 d a 0 6 d 28 0 8 d 1e 0 2 d c 0 4 d 2 ",
     "0 e d 9 0 27 d 158 0 8 d e 0 2 d d 0 3 d b 0 3 d 39 0 1 d 1 0 4 d 10 0 2 d c 0 4 d a 0 7 d ",
     "93 0 1 d 5c 3 a d 1 0 403 9 2 0 fffe 9 2 0 fffe 9 2 0 fffe 9 2 0 fffe 9 2 0 fffe 9 2 0 fffe ",
     "9 2 0 fffe 9 2 0 fffe 9 2 0 fffe 9 2 0 fffe 9 2 0 fffe 9 2 0 fffe 9 102 8 f0 9 e10 0 effe 9 ",
     "2 0 fffe 9 2 0 fffe 9"])

/-- The bidirectional class of a character. -/
def bidiClass (c : Char) : BidiClass := BidiClass.ofIndex (bidiTable.value c.toNat)

end Text

end CorpusBench
