import CorpusBench.Web.Domain

/-!
# Hosts of web addresses

The host of a web address is a domain, an IPv4 address or a bracketed IPv6 address.

* **IPv6** follows the address syntax: up to eight groups of at most four hex digits, at most
  one `::` standing for a run of zero groups, and optionally a dotted IPv4 address as the last
  two groups.
* **Domains** are percent-decoded and read as UTF-8, then brought to ASCII as
  `Domain.toAscii?` says; an empty result is no host.
* **Numbers.**  A domain whose last label (ignoring one trailing empty label) is a number —
  decimal digits, or `0x` with hex digits — is an IPv4 address, written with one to four parts
  in decimal, octal (leading `0`) or hex (`0x`); each part but the last is below 256 and the
  last fills the remaining bytes.

## Main definitions

* `Host` — a parsed host.
* `Host.parseIpv4?`, `Host.parseIpv6?`, `Host.parse?`.
* `Host.serialize` — a host as an address writes it: a domain in ASCII, IPv4 in
  dotted decimal, IPv6 in its shortest form between brackets.
-/

namespace CorpusBench

/-- A parsed host. -/
inductive Host where
  /-- A domain, in ASCII. -/
  | domain (name : String)
  | ipv4 (address : Nat)
  | ipv6 (groups : List Nat)
  deriving DecidableEq, Repr

namespace Host

/-- The value of an ASCII hex digit. -/
def hexValue? (c : Char) : Option Nat :=
  if c.isDigit then some (c.toNat - 0x30)
  else if 'a' ≤ c && c ≤ 'f' then some (c.toNat - 0x61 + 10)
  else if 'A' ≤ c && c ≤ 'F' then some (c.toNat - 0x41 + 10)
  else none

/-- The value of digits in a radix, when every one is a digit of it. -/
def digitsIn (radix : Nat) (cs : List Char) : Option Nat :=
  cs.foldlM (fun acc c => do
    let d ← hexValue? c
    if d < radix then some (acc * radix + d) else none) 0

/-- One part of an IPv4 address: `0x` and hex digits, `0` and octal digits, or decimal digits;
`0x` alone is zero.  An empty part is no number. -/
def ipv4Part? (part : List Char) : Option Nat :=
  match part with
  | [] => none
  | '0' :: 'x' :: rest | '0' :: 'X' :: rest => if rest.isEmpty then some 0 else digitsIn 16 rest
  | '0' :: rest@(_ :: _) => digitsIn 8 rest
  | _ => if part.all Char.isDigit then digitsIn 10 part else none

/-- Whether a domain ends in a number, and so must be an IPv4 address. -/
def endsInNumber (name : List Char) : Bool :=
  let labels := name.splitOn '.'
  let labels := if labels.getLast? == some [] && labels.length > 1 then labels.dropLast else labels
  match labels.getLast? with
  | some last => (!last.isEmpty && last.all Char.isDigit) || (ipv4Part? last).isSome
  | none => false

/-- An IPv4 address of one to four parts. -/
def parseIpv4? (name : List Char) : Option Nat := do
  let parts := name.splitOn '.'
  let parts := if parts.getLast? == some [] then parts.dropLast else parts
  if parts.length > 4 || parts.isEmpty then none
  let numbers ← parts.mapM ipv4Part?
  let leading := numbers.dropLast
  let last ← numbers.getLast?
  if last ≥ Nat.pow 256 (5 - numbers.length) then none
  if leading.any (· > 255) then none
  return (leading.foldl (fun acc n => acc * 256 + n) 0) * Nat.pow 256 (5 - numbers.length) + last

/-- Read a dotted IPv4 address closing an IPv6 address: exactly four decimal numbers below
256, without leading zeros. -/
def ipv4Tail (cs : List Char) : Option (List Nat) :=
  let parts := cs.splitOn '.'
  if parts.length != 4 then none
  else parts.mapM fun p =>
    match p with
    | [] => none
    | '0' :: _ :: _ => none
    | _ => if p.all Char.isDigit then
        let v := p.foldl (fun acc c => acc * 10 + (c.toNat - 0x30)) 0
        if v ≤ 255 then some v else none
      else none

/-- At most four hex digits and the rest of the input. -/
def hexGroup (cs : List Char) : Nat × Nat × List Char :=
  let ds := (cs.take 4).takeWhile (fun c => (hexValue? c).isSome)
  (ds.foldl (fun acc c => acc * 16 + (hexValue? c).getD 0) 0, ds.length, cs.drop ds.length)

/-- Read the groups of an IPv6 address; `groups` were read before, and `gap` is the number of
groups before the `::`, once it has been read. -/
def ipv6Groups : Nat → List Char → List Nat → Option Nat → Option (List Nat × Option Nat)
  | 0, _, _, _ => none
  | fuel + 1, cs, before, gap =>
    match cs with
    | [] => some (before, gap)
    | _ =>
      let (value, length, rest) := hexGroup cs
      match rest with
      | '.' :: _ =>
        if length = 0 then none
        else do
          let bytes ← ipv4Tail cs
          match bytes with
          | [a, b, c, d] => some (before ++ [a * 256 + b, c * 256 + d], gap)
          | _ => none
      | ':' :: ':' :: more =>
        if gap.isSome || length = 0 then none
        else ipv6Groups fuel more (before ++ [value]) (some (before.length + 1))
      | ':' :: more =>
        if length = 0 || more.isEmpty then none
        else ipv6Groups fuel more (before ++ [value]) gap
      | [] => if length = 0 then none else some (before ++ [value], gap)
      | _ => none

/-- An IPv6 address between brackets (without them): the eight groups, the run of zero groups
that `::` stands for filled in. -/
def parseIpv6? (cs : List Char) : Option (List Nat) := do
  let (start, gap) ← match cs with
    | ':' :: ':' :: rest => some (rest, some 0)
    | ':' :: _ => none
    | _ => some (cs, none)
  if gap.isSome && start.isEmpty then return List.replicate 8 0
  let (groups, gap) ← ipv6Groups (cs.length + 1) start [] gap
  if groups.length > 8 then none
  match gap with
  | some k =>
    if groups.length = 8 then none
    return groups.take k ++ List.replicate (8 - groups.length) 0 ++ groups.drop k
  | none => if groups.length = 8 then return groups else none

/-- Percent-decode the UTF-8 bytes of a text: `%` and two hex digits stand for a byte. -/
def percentDecode : List UInt8 → List UInt8
  | [] => []
  | 0x25 :: a :: b :: rest =>
    match hexValue? (Char.ofNat a.toNat), hexValue? (Char.ofNat b.toNat) with
    | some x, some y => UInt8.ofNat (x * 16 + y) :: percentDecode rest
    | _, _ => 0x25 :: percentDecode (a :: b :: rest)
  | x :: rest => x :: percentDecode rest

/-- The host of a web address with a special scheme. -/
def parse? (input : List Char) : Option Host :=
  match input with
  | '[' :: inner =>
    if inner.getLast? != some ']' then none
    else Host.ipv6 <$> parseIpv6? inner.dropLast
  | _ => do
    let decoded ← String.fromUTF8? (ByteArray.mk (percentDecode (String.ofList input).toUTF8.toList).toArray)
    let ascii ← Domain.toAscii? decoded.toList
    if ascii.isEmpty then none
    if endsInNumber ascii then Host.ipv4 <$> parseIpv4? ascii
    else some (.domain (String.ofList ascii))

/-- An IPv4 address in dotted decimal. -/
def ipv4Text (a : Nat) : String :=
  ".".intercalate ([a / Nat.pow 2 24, a / Nat.pow 2 16 % 256, a / Nat.pow 2 8 % 256, a % 256].map toString)

/-- The start and length of the first longest run of at least two zero groups. -/
def zeroRun (groups : List Nat) : Option (Nat × Nat) :=
  let (best, _) := (groups.zipIdx).foldl (fun (acc : Option (Nat × Nat) × Option (Nat × Nat)) (g, i) =>
    let (best, cur) := acc
    if g = 0 then
      let cur := match cur with
        | some (s, l) => (s, l + 1)
        | none => (i, 1)
      let best := match best with
        | some (bs, bl) => if cur.2 > bl then some cur else some (bs, bl)
        | none => some cur
      (best, some cur)
    else (best, none)) (none, none)
  best.filter (2 ≤ ·.2)

/-- Groups in lower-case hex without leading zeros, joined by colons. -/
def groupsText (groups : List Nat) : String :=
  ":".intercalate (groups.map fun g => String.ofList (Nat.toDigits 16 g))

/-- An IPv6 address in its shortest form: the first longest run of zero groups written as
`::`. -/
def ipv6Text (groups : List Nat) : String :=
  match zeroRun groups with
  | some (s, l) => groupsText (groups.take s) ++ "::" ++ groupsText (groups.drop (s + l))
  | none => groupsText groups

/-- A host as an address writes it: a domain in ASCII, IPv4 in dotted decimal, IPv6 in
brackets. -/
def serialize : Host → String
  | .domain name => name
  | .ipv4 a => ipv4Text a
  | .ipv6 groups => "[" ++ ipv6Text groups ++ "]"

end Host

end CorpusBench
