import CorpusBench.Web.Host
import CorpusBench.Error
import CorpusBench.Text.Blank

/-!
# Web addresses

Whether a text is a web address with a host: an absolute `http` or `https` address.

The text is cleaned first: tabs and line breaks are dropped wherever they are, and control
characters and spaces at either end are dropped.  The scheme is a letter followed by letters,
digits, `+`, `-` and `.`, up to a colon; it is compared without case.  After the scheme of a
web address any run of slashes and backslashes leads to the authority, which ends at the first
`/`, `\`, `?` or `#`.  The authority may start with credentials up to its last `@`, which must
then be followed by a host; the host may be followed by a colon and a port of decimal digits
not above 65535.  The path, query and fragment that follow never make an address invalid.

## Main definitions

* `WebAddress` — the scheme, host and port of an address.
* `WebAddress.parse?` — the address a text spells, for the schemes whose addresses
  always have a host.
* `WebAddress.isWeb` — whether a text is an `http` or `https` address.
* `WebAddress.validate` — a link as entered: trimmed, and refused unless it is a
  web address.
-/

namespace CorpusBench

/-- The parts of an address that decide whether it is valid. -/
structure WebAddress where
  scheme : String
  host : Host
  port : Option Nat

namespace WebAddress

/-- The schemes whose addresses always have a host. -/
def hostSchemes : List String := ["http", "https", "ws", "wss", "ftp"]

/-- Tabs and line breaks dropped, and controls and spaces trimmed from both ends. -/
def clean (s : String) : List Char :=
  let cs := s.toList.filter fun c => c != '\t' && c != '\n' && c != '\r'
  ((cs.dropWhile (·.toNat ≤ 0x20)).reverse.dropWhile (·.toNat ≤ 0x20)).reverse

/-- The scheme, in lower case, and what follows its colon. -/
def splitScheme (cs : List Char) : Option (String × List Char) :=
  match cs with
  | c :: rest =>
    if !c.isAlpha then none
    else
      let body := rest.takeWhile fun c => c.isAlphanum || c = '+' || c = '-' || c = '.'
      match rest.drop body.length with
      | ':' :: after => some (String.ofList ((c :: body).map Char.toLower), after)
      | _ => none
  | [] => none

/-- Whether a character ends the authority. -/
def endsAuthority (c : Char) : Bool := c = '/' || c = '\\' || c = '?' || c = '#'

/-- The host and the port text of an authority without credentials: split at the first colon
outside brackets. -/
def splitPort (cs : List Char) : List Char × Option (List Char) :=
  let rec go : List Char → Bool → List Char → List Char × Option (List Char)
    | [], _, acc => (acc.reverse, none)
    | ':' :: rest, false, acc => (acc.reverse, some rest)
    | c :: rest, inside, acc =>
      go rest (if c = '[' then true else if c = ']' then false else inside) (c :: acc)
  go cs false []

/-- The port of a port text: decimal digits not above 65535; none for an empty text. -/
def portOf (cs : List Char) : Except Unit (Option Nat) :=
  if cs.isEmpty then .ok none
  else if !cs.all Char.isDigit then .error ()
  else
    let v := cs.foldl (fun acc c => acc * 10 + (c.toNat - 0x30)) 0
    if v > 65535 then .error () else .ok (some v)

/-- The address a text spells, for a scheme whose addresses have a host. -/
def parse? (s : String) : Option WebAddress := do
  let (scheme, rest) ← splitScheme (clean s)
  if !hostSchemes.contains scheme then none
  let rest := rest.dropWhile fun c => c = '/' || c = '\\'
  let authority := rest.takeWhile fun c => !endsAuthority c
  let hostPart := match authority.reverse.span (· != '@') with
    | (tail, _) => tail.reverse
  let credentials := authority.contains '@'
  if credentials && hostPart.isEmpty then none
  let (hostText, portText) := splitPort hostPart
  if hostText.isEmpty then none
  let host ← Host.parse? hostText
  let port ← match portText with
    | none => some none
    | some p => match portOf p with
      | .ok v => some v
      | .error () => none
  return ⟨scheme, host, port⟩

/-- Whether a text is an absolute `http` or `https` address. -/
def isWeb (s : String) : Bool :=
  match parse? s with
  | some a => a.scheme == "http" || a.scheme == "https"
  | none => false

/-- A link as entered, trimmed; refused unless it is a web address. -/
def validate (raw : String) : Except ClientError String :=
  let s := Text.trim raw
  if isWeb s then .ok s else .error (.validation ("not a web address: " ++ s))

end WebAddress

end CorpusBench
