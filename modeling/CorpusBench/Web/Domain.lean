import CorpusBench.Web.DomainTable
import CorpusBench.Web.Punycode
import CorpusBench.Text.NormalForm
import CorpusBench.Text.Category
import CorpusBench.Text.Direction
import CorpusBench.Text.Joining

/-!
# Internationalized domain names

A domain of a web address is brought to ASCII in six steps; any failure refuses the domain.

1. **Map** each code point by the domain-name table (`Domain.refusedSet`,
   `Domain.mapping`): a refused code point refuses the domain.
2. **Normalize** the mapped text to normal form C.
3. **Split** it into labels at each full stop.
4. **Decode** each label that begins with `xn--`: the rest must be ASCII, at most
   `decodeLimit` characters long, and decode as Punycode to a label that is not empty and not
   all ASCII, that is in normal form C, does not itself begin with `xn--`, holds no full stop
   and only code points the table leaves as they are.
5. **Check** each label: it does not begin with a mark; a zero width joiner follows a virama,
   and a zero width non-joiner follows a virama or stands between a character joining on the
   left and one joining on the right (looking past transparent characters); and when some
   label holds a right-to-left character (classes `R`, `AL` or `AN`), every label keeps the
   bidi rule.  Last, no code point of the domain is one of the ASCII code points a domain may
   not hold: the controls, the space, `# % / : < > ? @ [ \ ] ^ |` and DEL.
6. **Encode** each decoded label that is not ASCII as `xn--` and its Punycode encoding,
   refusing a label of more than `encodeLimit` characters; the other labels stay as they are
   written.

The two limits keep the quadratic work of Punycode small; neither is reached by a label that a
name server would take, which holds at most 63 characters.

The **bidi rule** asks of a label that begins with a right-to-left character (`R` or `AL`) that
it hold only `R`, `AL`, `AN`, `EN`, `ES`, `CS`, `ET`, `ON`, `BN` and `NSM`, not both `EN` and
`AN`, and that it end, before any `NSM`, with `R`, `AL`, `EN` or `AN`; of a label that begins
with `L`, that it hold only `L`, `EN`, `ES`, `CS`, `ET`, `ON`, `BN` and `NSM` and end, before any
`NSM`, with `L` or `EN`.  A label beginning with any other class breaks it; an empty label
keeps it.

## Main definitions

* `Domain.Status`, `Domain.status` — what the table does to a code point.
* `Domain.bidiRuleHolds`, `Domain.joinersPlaced`.
* `Domain.asciiLabel?` — a label in ASCII.
* `Domain.toAscii?` — a domain in ASCII, or `none` when it is refused.

## Main results

* `Domain.asciiLabel?_ascii` — an ASCII label stays as it is written, whatever its
  length.
-/

namespace CorpusBench

namespace Domain

open Text

/-- What the domain-name table does to a code point. -/
inductive Status where
  /-- The code point stays. -/
  | valid
  /-- The code point is replaced by the text (by nothing when it is ignored). -/
  | mapped (text : List Nat)
  /-- The code point refuses the domain. -/
  | refused

/-- What the table does to a code point. -/
def status (n : Nat) : Status :=
  if refusedSet.contains n then .refused
  else match mapping.image? n with
    | some t => .mapped t
    | none => .valid

/-- Whether the table leaves a code point as it is. -/
def isValid (n : Nat) : Bool :=
  match status n with
  | .valid => true
  | _ => false

/-- Map the code points of a domain; `none` when one is refused. -/
def mapAll : List Char → Option (List Nat)
  | [] => some []
  | c :: rest =>
    match status c.toNat, mapAll rest with
    | .valid, some r => some (c.toNat :: r)
    | .mapped t, some r => some (t ++ r)
    | _, _ => none

/-- The ASCII code points a domain may not hold. -/
def forbidden (c : Char) : Bool :=
  c.toNat ≤ 0x20 || c.toNat = 0x7F || "#%/:<>?@[\\]^|".contains c

/-- Whether a label begins with `xn--`. -/
def isEncoded (label : List Char) : Bool := label.take 4 == ['x', 'n', '-', '-']

/-- The longest Punycode text, after `xn--`, that is decoded. -/
def decodeLimit : Nat := 2000

/-- The longest label, in characters, that is encoded. -/
def encodeLimit : Nat := 1000

/-- The code points a label stands for: those of a label beginning with `xn--` decoded and
checked as step 4 says, the label itself otherwise. -/
def decodeLabel (label : List Char) : Option (List Char) :=
  if isEncoded label then do
    let rest := label.drop 4
    if rest.any (0x80 ≤ ·.toNat) || rest.length > decodeLimit then none
    let decoded ← Punycode.decode? rest
    let points := decoded.map Char.toNat
    if decoded.all (·.toNat < 0x80) || !isNfc points || isEncoded decoded ||
        decoded.contains '.' || !points.all isValid then none
    else some decoded
  else some label

/-- Whether a bidirectional class is right to left for the bidi rule. -/
def isRightToLeft : BidiClass → Bool
  | .right | .arabic | .arabicNumber => true
  | _ => false

/-- The classes a right-to-left label may hold. -/
def allowedRightToLeft : BidiClass → Bool
  | .right | .arabic | .arabicNumber | .europeanNumber | .europeanSeparator | .commonSeparator
  | .europeanTerminator | .otherNeutral | .boundaryNeutral | .nonspacingMark => true
  | _ => false

/-- The classes a left-to-right label may hold. -/
def allowedLeftToRight : BidiClass → Bool
  | .left | .europeanNumber | .europeanSeparator | .commonSeparator | .europeanTerminator
  | .otherNeutral | .boundaryNeutral | .nonspacingMark => true
  | _ => false

/-- Whether a label keeps the bidi rule. -/
def bidiRuleHolds (label : List Char) : Bool :=
  let classes := label.map bidiClass
  let last := (classes.reverse.dropWhile (· = .nonspacingMark)).head?
  match classes.head? with
  | none => true
  | some .right | some .arabic =>
    classes.all allowedRightToLeft &&
      (last matches some .right | some .arabic | some .europeanNumber | some .arabicNumber) &&
      !(classes.contains .europeanNumber && classes.contains .arabicNumber)
  | some .left =>
    classes.all allowedLeftToRight && (last matches some .left | some .europeanNumber)
  | some _ => false

/-- Whether a character is a virama: combining class `9`. -/
def isVirama (c : Char) : Bool := combiningClass c.toNat = 9

/-- Whether the first character that is not transparent joins as `side` asks. -/
def joinsPastTransparent (side : JoiningType → Bool) : List Char → Bool
  | [] => false
  | c :: rest =>
    if joiningType c = .transparent then joinsPastTransparent side rest else side (joiningType c)

/-- Whether a joiner may stand between the characters `before` it (nearest first) and `after`
it. -/
def joinerAllowed (c : Char) (before after : List Char) : Bool :=
  let afterVirama := (before.head?.map isVirama).getD false
  if c.toNat = 0x200D then afterVirama
  else if c.toNat = 0x200C then
    afterVirama ||
      (joinsPastTransparent (fun t => t = .left || t = .dual) before &&
        joinsPastTransparent (fun t => t = .right || t = .dual) after)
  else true

/-- Whether every joiner of a label stands where it may, `before` holding the characters
passed, nearest first. -/
def joinersPlacedFrom : List Char → List Char → Bool
  | [], _ => true
  | c :: rest, before => joinerAllowed c before rest && joinersPlacedFrom rest (c :: before)

/-- Whether every joiner of a label stands where it may. -/
def joinersPlaced (label : List Char) : Bool := joinersPlacedFrom label []

/-- Whether a decoded label passes the checks of step 5, in a domain that holds a right-to-left
character when `bidi` is set. -/
def labelChecked (bidi : Bool) (label : List Char) : Bool :=
  !(label.head?.map isMark).getD false && joinersPlaced label && (!bidi || bidiRuleHolds label)

/-- A label in ASCII: as written when it is ASCII, else `xn--` and its encoding, or `none` when
it is too long to encode. -/
def asciiLabel? (label : List Char) : Option (List Char) :=
  if label.all (·.toNat < 0x80) then some label
  else if label.length > encodeLimit then none
  else some (['x', 'n', '-', '-'] ++ Punycode.encode label)

theorem asciiLabel?_ascii (label : List Char) (h : label.all (·.toNat < 0x80) = true) :
    asciiLabel? label = some label := by
  simp [asciiLabel?, h]

/-- A domain in ASCII, or `none` when it is refused. -/
def toAscii? (domain : List Char) : Option (List Char) := do
  let mapped ← mapAll domain
  let labels := ((nfc mapped).map Char.ofNat).splitOn '.'
  let decoded ← labels.mapM decodeLabel
  let bidi := decoded.any (·.any fun c => isRightToLeft (bidiClass c))
  if !decoded.all (labelChecked bidi) || decoded.any (·.any forbidden) then none
  else (decoded.mapM asciiLabel?).map (['.'].intercalate ·)

end Domain

end CorpusBench
