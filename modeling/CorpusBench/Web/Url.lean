import CorpusBench.Web.Address
import CorpusBench.Text.Case

/-!
# Absolute URLs

Reading an absolute URL into its parts and writing it back in normal form, as a browser's
address parser does, and the two form encodings of query text.

* **Cleaning and scheme.**  As for `WebAddress`: tabs and line breaks are dropped, controls and
  spaces trimmed, and the scheme (lowered) runs up to the first colon.
* **Special schemes** (`http`, `https`, `ws`, `wss`, `ftp`): any run of slashes and backslashes
  leads to the authority, which ends at `/`, `\`, `?` or `#`.  Credentials run up to its last
  `@`; the host must not be empty; a port equal to the scheme's default is dropped.  A
  backslash in the path is a slash.
* **`file`**: an authority only after two slashes; its host may be empty.
* **Other schemes**: an authority only after `//`, whose host is kept as written (controls
  escaped) and may be empty; without it the path is opaque text.
* **Paths** are split into segments; `.` segments vanish and `..` segments remove the one
  before, also when written with `%2e`.
* **Escapes.**  Each part escapes its own set of characters as `%XX` of their UTF-8 bytes:
  every control and non-ASCII character always, and besides, in user names and passwords
  `space " # < > ? \x60 { } / : ; = @ [ \ ] ^ |`; in paths `space " # < > ? \x60 { }`; in
  queries `space " # < >` (and `'` for special schemes); in fragments `space " < > \x60`.
* **Form encoding** of query pairs keeps letters, digits and `* - . _`, writes a space as `+`
  and escapes every other byte; **component encoding** keeps letters, digits and `- . _ ~`.

## Main definitions

* `Url` — the parts of a URL, each in its written (escaped) form.
* `Url.parse?`, `Url.serialize`.
* `Url.appendPairs` — query pairs added in form encoding.
* `Url.encodeComponent`, `Url.formEncode`.
-/

namespace CorpusBench

/-- The parts of an absolute URL, each as the serialization writes it. -/
structure Url where
  scheme : String
  username : String := ""
  password : Option String := none
  /-- The host; none when the URL has no authority. -/
  host : Option String := none
  port : Option Nat := none
  path : String
  query : Option String := none
  fragment : Option String := none
  deriving DecidableEq, Repr

namespace Url

/-- An upper-case hex digit. -/
def hexDigit (n : Nat) : Char := if n < 10 then Char.ofNat (0x30 + n) else Char.ofNat (0x37 + n)

/-- A byte as `%XX`. -/
def escapeByte (b : UInt8) : List Char := ['%', hexDigit (b.toNat / 16), hexDigit (b.toNat % 16)]

/-- A character as the escapes of its UTF-8 bytes. -/
def escapeChar (c : Char) : List Char := (String.singleton c).toUTF8.toList.flatMap escapeByte

/-- A text with the characters `escapes` names escaped. -/
def encodeWith (escapes : Char → Bool) (cs : List Char) : String :=
  String.ofList (cs.flatMap fun c => if escapes c then escapeChar c else [c])

/-- Controls, DEL and every non-ASCII character. -/
def isControl (c : Char) : Bool := c.toNat < 0x20 || 0x7F ≤ c.toNat

/-- What a fragment escapes. -/
def fragmentEscapes (c : Char) : Bool := isControl c || " \"<>\x60".contains c

/-- What a query escapes; special schemes escape `'` too. -/
def queryEscapes (special : Bool) (c : Char) : Bool :=
  isControl c || " \"#<>".contains c || (special && c = '\'')

/-- What a path segment escapes. -/
def pathEscapes (c : Char) : Bool := fragmentEscapes c || "#?{}".contains c

/-- What a user name or password escapes. -/
def userinfoEscapes (c : Char) : Bool := pathEscapes c || "/:;=@[\\]^|".contains c

/-- A text in component encoding: letters, digits and `- . _ ~` kept, every other byte
escaped. -/
def encodeComponent (s : String) : String :=
  encodeWith (fun c => !(c.isAlphanum || "-._~".contains c)) s.toList

/-- A text in form encoding: letters, digits and `* - . _` kept, a space as `+`, every other
byte escaped. -/
def formEncode (s : String) : String :=
  String.ofList (s.toList.flatMap fun c =>
    if c.isAlphanum || "*-._".contains c then [c]
    else if c = ' ' then ['+']
    else escapeChar c)

/-- The schemes with a host and a standard port. -/
def isSpecial (scheme : String) : Bool := WebAddress.hostSchemes.contains scheme || scheme == "file"

/-- The port a scheme uses when none is written. -/
def defaultPort : String → Option Nat
  | "http" | "ws" => some 80
  | "https" | "wss" => some 443
  | "ftp" => some 21
  | _ => none

/-- Whether a segment is `.`, also written `%2e`. -/
def isSingleDot (seg : String) : Bool := seg == "." || Text.asciiLowerString seg == "%2e"

/-- Whether a segment is `..`, with either dot possibly written `%2e`. -/
def isDoubleDot (seg : String) : Bool :=
  let s := Text.asciiLowerString seg
  s == ".." || s == ".%2e" || s == "%2e." || s == "%2e%2e"

/-- Resolve the dot segments of a path; `acc` holds the kept segments, last first.  A dot
segment at the end leaves an empty last segment, so that the path ends in a slash. -/
def resolveDots : List String → List String → List String
  | [], acc => acc.reverse
  | [seg], acc =>
    if isDoubleDot seg then ("" :: acc.drop 1).reverse
    else if isSingleDot seg then ("" :: acc).reverse
    else (seg :: acc).reverse
  | seg :: rest, acc =>
    if isDoubleDot seg then resolveDots rest (acc.drop 1)
    else if isSingleDot seg then resolveDots rest acc
    else resolveDots rest (seg :: acc)

/-- Split a text at the separators a scheme uses. -/
def splitSegments (special : Bool) (cs : List Char) : List (List Char) :=
  cs.splitOnP fun c => c = '/' || (special && c = '\\')

/-- A hierarchical path: the text up to the query, without its leading separator, in
segments, escaped and resolved. -/
def pathOf (special : Bool) (cs : List Char) : String :=
  let body := match cs with
    | c :: rest => if c = '/' || (special && c = '\\') then rest else cs
    | [] => []
  let segs := (splitSegments special body).map (encodeWith pathEscapes)
  "/" ++ "/".intercalate (resolveDots segs [])

/-- The path text, query and fragment of what follows the authority. -/
def splitTail (cs : List Char) : List Char × Option (List Char) × Option (List Char) :=
  let (beforeHash, hash) := cs.span (· != '#')
  let fragment := match hash with
    | _ :: f => some f
    | [] => none
  let (pathText, question) := beforeHash.span (· != '?')
  let query := match question with
    | _ :: q => some q
    | [] => none
  (pathText, query, fragment)

/-- The credentials and the host-and-port text of an authority. -/
def splitCredentials (authority : List Char) : Option (List Char) × List Char :=
  match authority.reverse.span (· != '@') with
  | (tail, []) => (none, tail.reverse)
  | (tail, _ :: head) => (some head.reverse, tail.reverse)

/-- A user name and password from credentials, split at their first colon. -/
def userinfoOf (cs : List Char) : String × Option String :=
  match cs.span (· != ':') with
  | (user, []) => (encodeWith userinfoEscapes user, none)
  | (user, _ :: pw) =>
    let pw := encodeWith userinfoEscapes pw
    (encodeWith userinfoEscapes user, if pw.isEmpty then none else some pw)

/-- The code points a host kept as written may not hold. -/
def forbiddenInOpaqueHost (c : Char) : Bool :=
  c.toNat = 0 || "\t\n\r #/:<>?@[\\]^|".contains c

/-- The host of a scheme without standard hosts: an IPv6 address, or the text with controls
escaped. -/
def opaqueHost (cs : List Char) : Option String :=
  match cs with
  | '[' :: _ => (Host.parse? cs).map Host.serialize
  | _ => if cs.any forbiddenInOpaqueHost then none else some (encodeWith isControl cs)

/-- The host of a special scheme; `file` allows an empty host and drops `localhost`. -/
def specialHost (scheme : String) (cs : List Char) : Option String :=
  if scheme == "file" && cs.isEmpty then some ""
  else do
    let h ← Host.parse? cs
    let text := h.serialize
    if scheme == "file" && text == "localhost" then some "" else some text

/-- The authority and the rest: credentials, host and port, each checked. -/
def readAuthority (scheme : String) (special : Bool) (cs : List Char) :
    Option (String × Option String × String × Option Nat × List Char) := do
  let authority := cs.takeWhile fun c => !(c = '/' || c = '?' || c = '#' || (special && c = '\\'))
  let rest := cs.drop authority.length
  let (credentials, hostPort) := splitCredentials authority
  let (user, pw) := match credentials with
    | some c => userinfoOf c
    | none => ("", none)
  if credentials.isSome && hostPort.isEmpty then none
  let (hostText, portText) := WebAddress.splitPort hostPort
  if special && scheme != "file" && hostText.isEmpty then none
  let host ← if special then specialHost scheme hostText else opaqueHost hostText
  let port ← match portText with
    | none => some none
    | some p => match WebAddress.portOf p with
      | .ok v => some v
      | .error () => none
  let port := if port == defaultPort scheme then none else port
  return (user, pw, host, port, rest)

/-- The URL a text spells, or none when it is not an absolute URL. -/
def parse? (s : String) : Option Url := do
  let (scheme, rest) ← WebAddress.splitScheme (WebAddress.clean s)
  let special := isSpecial scheme
  let isSlash := fun c => c = '/' || (special && c = '\\')
  let hasAuthority := match rest with
    | a :: b :: _ => isSlash a && isSlash b
    | _ => false
  if special && scheme != "file" then
    let (user, pw, host, port, tail) ← readAuthority scheme true (rest.dropWhile isSlash)
    let (pathText, query, fragment) := splitTail tail
    return { scheme, username := user, password := pw, host := some host, port,
             path := pathOf true pathText,
             query := query.map (encodeWith (queryEscapes true)),
             fragment := fragment.map (encodeWith fragmentEscapes) }
  else if hasAuthority then
    let (user, pw, host, port, tail) ← readAuthority scheme special (rest.drop 2)
    let (pathText, query, fragment) := splitTail tail
    let path := if pathText.isEmpty && !special then "" else pathOf special pathText
    return { scheme, username := user, password := pw, host := some host, port, path,
             query := query.map (encodeWith (queryEscapes special)),
             fragment := fragment.map (encodeWith fragmentEscapes) }
  else
    let (pathText, query, fragment) := splitTail rest
    let path := match pathText with
      | c :: _ => if isSlash c || special then pathOf special pathText else encodeWith isControl pathText
      | [] => if special then "/" else ""
    return { scheme, path, query := query.map (encodeWith (queryEscapes special)),
             fragment := fragment.map (encodeWith fragmentEscapes) }

/-- Whether the URL names a host. -/
def hasHost (u : Url) : Bool :=
  match u.host with
  | some h => !h.isEmpty
  | none => false

/-- The URL in normal form. -/
def serialize (u : Url) : String :=
  let userinfo :=
    if u.username.isEmpty && u.password.isNone then ""
    else u.username ++ (match u.password with
      | some pw => ":" ++ pw
      | none => "") ++ "@"
  let authority := match u.host with
    | some h => "//" ++ userinfo ++ h ++ (match u.port with
      | some p => ":" ++ toString p
      | none => "")
    | none => ""
  u.scheme ++ ":" ++ authority ++ u.path ++
    (match u.query with
      | some q => "?" ++ q
      | none => "") ++
    (match u.fragment with
      | some f => "#" ++ f
      | none => "")

/-- Add query pairs in form encoding, after any query already there; a query left empty is
dropped. -/
def appendPairs (u : Url) (pairs : List (String × String)) : Url :=
  let added := "&".intercalate (pairs.map fun (k, v) => formEncode k ++ "=" ++ formEncode v)
  let query := match u.query with
    | some q => if q.isEmpty || added.isEmpty then q ++ added else q ++ "&" ++ added
    | none => added
  { u with query := if query.isEmpty then none else some query }

end Url

end CorpusBench
