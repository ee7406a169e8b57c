import CorpusBench.Web.Url
import CorpusBench.Error
import CorpusBench.Json.Read
import CorpusBench.Json.Decode

/-!
# HTTP requests

A request is built step by step, and the first step that fails spoils it: a failed request is
a *builder* failure and is never sent.

* **Address.**  The URL text must read as an absolute URL with a host.  Credentials in it are
  taken out of the address and sent as basic authorization instead.
* **Query pairs** are added in form encoding; a query left empty is dropped.
* **Headers.**  A header value may hold tabs and any character but controls and DEL.
* **Sending** needs an `http` or `https` address; the network then answers with a response,
  or the request never arrives.

What each failure reads as, as the detail of a network failure of the client:
`builder error` (a bad address or header), `builder error for url (<address>)` (an address
without host, or a scheme that cannot be sent), `error sending request for url (<address>)`
(no answer).

A response with a status outside `2xx` is the failure its status stands for, with the body as
the detail; a body that does not decode as the expected document is a serialization failure.

**Runs of requests.**  A program that makes several requests in turn keeps each request it made
with its reply, and stops at the first failure: nothing is asked after it, and the failure is
the run's outcome.

## Main definitions

* `Request`, `Response`, `Network`.
* `Request.start`, `withQuery`, `withHeader`, `withBearer`, `withBody` — the steps.
* `Network.send` — send a built request.
* `Response.checked`, `Response.decode`.
* `Exchange`, `Sent` — a request made with its reply, and a run of
  requests with its outcome.
* `Network.exchange` — make one request, keeping it and its reply.

## Main results

* `Network.send_unreachable` — on a network where nothing answers, every request
  that could be sent fails naming its address.
-/

namespace CorpusBench

/-- A request method. -/
inductive Method where
  | get | post | patch | delete
  deriving DecidableEq, Repr

/-- The name of a method. -/
def Method.name : Method → String
  | .get => "GET"
  | .post => "POST"
  | .patch => "PATCH"
  | .delete => "DELETE"

/-- What a request carries. -/
inductive Body where
  | empty
  | text (s : String)
  | bytes (b : List UInt8)
  | json (j : Json)

/-- A request ready to send. -/
structure Request where
  method : Method
  url : Url
  headers : List (String × String) := []
  body : Body := .empty

/-- Why a request failed before it reached a server. -/
inductive SendError where
  /-- A step of building failed; the address when the failure concerns it. -/
  | builder (address : Option String)
  /-- The request was sent and never answered. -/
  | unanswered (address : String)
  deriving DecidableEq, Repr

namespace SendError

/-- The text of a failed request. -/
def message : SendError → String
  | .builder none => "builder error"
  | .builder (some a) => "builder error for url (" ++ a ++ ")"
  | .unanswered a => "error sending request for url (" ++ a ++ ")"

/-- A failed request as a failure of the client. -/
def toClientError (e : SendError) : ClientError := .network e.message

end SendError

/-- A request being built: the request so far, or the failure that spoiled it. -/
abbrev Building := Except SendError Request

/-- The answer of a server. -/
structure Response where
  status : Nat
  body : String

/-- What the network does with a request: the response of the server it reaches, or none when
no answer comes. -/
structure Network where
  answer : Request → Option Response

/-- The network on which no request gets an answer. -/
def Network.unreachable : Network := ⟨fun _ => none⟩

namespace Request

/-- Percent-decode a credential; none when the bytes are not UTF-8. -/
def decodeCredential (s : String) : Option String :=
  String.fromUTF8? (ByteArray.mk (Host.percentDecode s.toUTF8.toList).toArray)

/-- Base64 of some bytes, with padding. -/
def base64 (bytes : List UInt8) : String :=
  let alphabet := "ABCDEFGHIJKLMNOPQRSTUVWXYZabcdefghijklmnopqrstuvwxyz0123456789+/".toList
  let digit := fun (n : Nat) => alphabet.getD n 'A'
  let rec go : List UInt8 → List Char
    | a :: b :: c :: rest =>
      let n := a.toNat * 65536 + b.toNat * 256 + c.toNat
      digit (n / 262144) :: digit (n / 4096 % 64) :: digit (n / 64 % 64) :: digit (n % 64) :: go rest
    | [a, b] =>
      let n := a.toNat * 65536 + b.toNat * 256
      [digit (n / 262144), digit (n / 4096 % 64), digit (n / 64 % 64), '=']
    | [a] =>
      let n := a.toNat * 65536
      [digit (n / 262144), digit (n / 4096 % 64), '=', '=']
    | [] => []
  String.ofList (go bytes)

/-- Take the credentials out of an address: the address without them and the value of the
basic authorization header.  A user name that does not decode leaves the address as it is; a
password that does not decode counts as no password, so an address whose only credential is
such a password also stays as it is. -/
def takeCredentials (u : Url) : Url × Option String :=
  match decodeCredential u.username with
  | none => (u, none)
  | some user =>
    let pw := (u.password.map decodeCredential).getD none
    if user.isEmpty && pw.isNone then (u, none)
    else ({ u with username := "", password := none },
      some ("Basic " ++ base64 (user ++ ":" ++ pw.getD "").toUTF8.toList))

/-- Start a request to the address a text spells. -/
def start (method : Method) (address : String) : Building :=
  match Url.parse? address with
  | none => .error (.builder none)
  | some u =>
    if !u.hasHost then .error (.builder (some u.serialize))
    else
      let (u, basic) := takeCredentials u
      .ok { method, url := u, headers := match basic with
        | some v => [("authorization", v)]
        | none => [] }

/-- Whether a text may stand as a header value: tabs, and no control character or DEL. -/
def validHeaderValue (v : String) : Bool :=
  v.toList.all fun c => c = '\t' || (0x20 ≤ c.toNat && c.toNat != 0x7F)

/-- Add query pairs. -/
def withQuery (pairs : List (String × String)) (b : Building) : Building :=
  b.map fun r => { r with url := r.url.appendPairs pairs }

/-- Add a header; a value that may not stand in a header spoils the request. -/
def withHeader (name value : String) (b : Building) : Building := do
  let r ← b
  if validHeaderValue value then return { r with headers := r.headers ++ [(name, value)] }
  else throw (.builder none)

/-- Add the bearer token, when there is one. -/
def withBearer (token : Option String) (b : Building) : Building :=
  match token with
  | some t => withHeader "authorization" ("Bearer " ++ t) b
  | none => b

/-- Set what the request carries. -/
def withBody (body : Body) (b : Building) : Building :=
  b.map fun r => { r with body := body }

end Request

namespace Network

/-- Send a built request: only `http` and `https` addresses can be sent, and a request the
network does not answer fails naming its address. -/
def send (net : Network) (b : Building) : Except SendError Response := do
  let r ← b
  if r.url.scheme != "http" && r.url.scheme != "https" then
    throw (.builder (some r.url.serialize))
  match net.answer r with
  | some resp => return resp
  | none => throw (.unanswered r.url.serialize)

theorem send_unreachable (r : Request) (h : r.url.scheme = "http" ∨ r.url.scheme = "https") :
    Network.unreachable.send (.ok r) = .error (.unanswered r.url.serialize) := by
  rcases h with h | h <;> simp [send, unreachable, h, bind, Except.bind] <;> rfl

end Network

namespace Response

/-- A response with a success status, or the failure its status stands for. -/
def checked (r : Response) : Except ClientError Response :=
  if 200 ≤ r.status && r.status < 300 then .ok r else .error (ClientError.ofStatus r.status r.body)

/-- The body decoded as a document of the expected shape. -/
def decode {α : Type} (d : Decoder α) (r : Response) : Except ClientError α :=
  match Json.parse r.body with
  | .ok j =>
    match d.run j with
    | .ok a => .ok a
    | .error _ => .error (.serialization "error decoding response body")
  | .error _ => .error (.serialization "error decoding response body")

end Response

/-- Send a request and check its status. -/
def Network.fetch (net : Network) (b : Building) : Except ClientError Response := do
  let r ← (net.send b).mapError SendError.toClientError
  r.checked

/-- A request a program made, as built (or the failure that spoiled it), and its reply: the
checked response, or why none came. -/
structure Exchange where
  request : Building
  reply : Except ClientError Response

/-- What a run of requests did: the requests it made, in order, with their replies, and its
outcome.  A failure ends the run, so no request is made after it. -/
structure Sent (α : Type) where
  log : List Exchange
  outcome : Except ClientError α

namespace Sent

instance : Monad Sent where
  pure a := ⟨[], .ok a⟩
  bind x f := match x.outcome with
    | .ok a => ⟨x.log ++ (f a).log, (f a).outcome⟩
    | .error e => ⟨x.log, .error e⟩

instance : MonadExceptOf ClientError Sent where
  throw e := ⟨[], .error e⟩
  tryCatch x handle := match x.outcome with
    | .ok _ => x
    | .error e => ⟨x.log ++ (handle e).log, (handle e).outcome⟩

variable {α β : Type} {x : Sent α} {f : α → Sent β}

@[simp] theorem pure_eq (a : α) : (pure a : Sent α) = ⟨[], .ok a⟩ := rfl

@[simp] theorem throw_eq (e : ClientError) : (throw e : Sent α) = ⟨[], .error e⟩ := rfl

theorem bind_of_ok {a : α} (h : x.outcome = .ok a) :
    x >>= f = ⟨x.log ++ (f a).log, (f a).outcome⟩ := by
  show (match x.outcome with
    | .ok a => (⟨x.log ++ (f a).log, (f a).outcome⟩ : Sent β)
    | .error e => ⟨x.log, .error e⟩) = _
  rw [h]

theorem bind_of_error {e : ClientError} (h : x.outcome = .error e) :
    x >>= f = ⟨x.log, .error e⟩ := by
  show (match x.outcome with
    | .ok a => (⟨x.log ++ (f a).log, (f a).outcome⟩ : Sent β)
    | .error e => ⟨x.log, .error e⟩) = _
  rw [h]

@[simp] theorem mk_error_bind (log : List Exchange) (e : ClientError) :
    (⟨log, .error e⟩ : Sent α) >>= f = ⟨log, .error e⟩ := bind_of_error rfl

@[simp] theorem mk_ok_bind (log : List Exchange) (a : α) :
    (⟨log, .ok a⟩ : Sent α) >>= f = ⟨log ++ (f a).log, (f a).outcome⟩ := bind_of_ok rfl

end Sent

/-- Make one request: the run that asked for it alone. -/
def Network.exchange (net : Network) (b : Building) : Sent Response :=
  ⟨[⟨b, net.fetch b⟩], net.fetch b⟩

end CorpusBench
