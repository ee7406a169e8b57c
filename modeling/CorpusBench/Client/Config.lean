import CorpusBench.Error
import CorpusBench.Text.Numeral
import CorpusBench.Json.Value

/-!
# Connection settings

The settings every part of the client shares: the API origin, an optional bearer token, the
per-request and per-sprawl deadlines in seconds, and the chunk size of file uploads.  They come
from defaults, from setters, or from the `CORPORA_*` variables of an environment; a set of
settings is usable when it passes `ClientConfig.validate`.

* The origin is kept without trailing slashes, so that API paths (which start with `/`) can be
  appended to it.
* Validation checks, in this order: an empty origin, an origin that is not `http://` or
  `https://`, a zero deadline, a zero chunk size.  The first failure is reported.
* A variable that is set must read as an unsigned word of its field (an optional `+` and
  digits); an empty token counts as no token.

## Main definitions

* `ClientConfig` — the settings, with `new`, `validate` and `toJson`.
* `ConfigError` — a refused setting, with its message.
* `ClientConfig.fromEnv` — the settings an environment gives.

## Main results

* `ClientConfig.validate_default` — the defaults are usable.
* `ClientConfig.validate_ok_iff` — exactly when a set of settings is usable.
-/

namespace CorpusBench

/-- Why a set of settings was refused. -/
inductive ConfigError where
  /-- The settings do not fit together or a value is out of range. -/
  | validation (detail : String)
  /-- A variable is set to a text its field cannot hold. -/
  | invalidValue (var value : String)
  deriving DecidableEq, Repr

namespace ConfigError

/-- The text of a refused setting. -/
def message : ConfigError → String
  | .validation d => "Validation error: " ++ d
  | .invalidValue var value => "Invalid value for " ++ var ++ ": " ++ value

/-- A refused setting as a client failure. -/
def toClientError (e : ConfigError) : ClientError := .config e.message

end ConfigError

/-- The settings of a client. -/
structure ClientConfig where
  /-- The API origin, without trailing slash. -/
  baseUrl : String := "http://127.0.0.1:8000"
  /-- The bearer token sent with every API request. -/
  token : Option String := none
  timeoutSecs : Nat := 30
  /-- The deadline of one neighbourhood request made by a sprawl. -/
  sprawlTimeoutSecs : Nat := 60
  uploadChunkSize : Nat := 5242880
  deriving DecidableEq, Repr

namespace ClientConfig

/-- A text without the slashes at its end. -/
def trimSlashes (s : String) : String :=
  String.ofList (s.toList.reverse.dropWhile (· = '/')).reverse

/-- The default settings pointing at `base`. -/
def new (base : String) : ClientConfig := { baseUrl := trimSlashes base }

/-- Check the settings; the first failure in the order of the module's description. -/
def validate (c : ClientConfig) : Except ConfigError Unit :=
  if c.baseUrl.isEmpty then .error (.validation "base_url cannot be empty")
  else if !(c.baseUrl.startsWith "http://" || c.baseUrl.startsWith "https://") then
    .error (.validation ("base_url must start with http:// or https://, got: " ++ c.baseUrl))
  else if c.timeoutSecs = 0 || c.sprawlTimeoutSecs = 0 then
    .error (.validation "timeouts must be greater than zero")
  else if c.uploadChunkSize = 0 then
    .error (.validation "upload_chunk_size must be greater than zero")
  else .ok ()

theorem validate_default : validate {} = .ok () := by
  simp [validate]

/-- The settings are usable exactly when the origin is `http://` or `https://` and no
deadline and no chunk size is zero. -/
theorem validate_ok_iff (c : ClientConfig) :
    c.validate = .ok () ↔
      ((c.baseUrl.startsWith "http://" || c.baseUrl.startsWith "https://") = true ∧
        c.timeoutSecs ≠ 0 ∧ c.sprawlTimeoutSecs ≠ 0 ∧ c.uploadChunkSize ≠ 0) := by
  unfold validate
  by_cases he : c.baseUrl.isEmpty = true
  · have hs : (c.baseUrl.startsWith "http://" || c.baseUrl.startsWith "https://") = false := by
      have : c.baseUrl = "" := by simpa using he
      rw [this]
      decide
    simp [he, hs]
  · by_cases hs : (c.baseUrl.startsWith "http://" || c.baseUrl.startsWith "https://") = true
    · simp only [he, hs, Bool.not_true, Bool.false_eq_true, if_false, true_and]
      by_cases ht : c.timeoutSecs = 0 <;> by_cases hp : c.sprawlTimeoutSecs = 0 <;>
        by_cases hc : c.uploadChunkSize = 0 <;> simp [ht, hp, hc]
    · simp [he, hs]

/-- The settings as a document; the token only when there is one. -/
def toJson (c : ClientConfig) : Json :=
  Json.mkObj ([("base_url", Json.str c.baseUrl)] ++
    (match c.token with
      | some t => [("token", Json.str t)]
      | none => []) ++
    [("timeout_secs", Json.ofNat c.timeoutSecs),
     ("sprawl_timeout_secs", Json.ofNat c.sprawlTimeoutSecs),
     ("upload_chunk_size", Json.ofNat c.uploadChunkSize)])

/-- The variables that settings are read from. -/
def settingVariables : List String :=
  ["CORPORA_BASE_URL", "CORPORA_TOKEN", "CORPORA_TIMEOUT_SECS", "CORPORA_SPRAWL_TIMEOUT_SECS",
   "CORPORA_UPLOAD_CHUNK_SIZE"]

/-- A word-valued variable: its value when set and readable, the fallback when unset. -/
def wordVar (env : String → Option String) (var : String) (w : Width) (fallback : Nat) :
    Except ConfigError Nat :=
  match env var with
  | none => .ok fallback
  | some raw =>
    match readWord? w raw with
    | some n => .ok n
    | none => .error (.invalidValue var raw)

/-- The settings an environment gives: each variable that is set replaces its default, then
the whole is validated. -/
def fromEnv (env : String → Option String) : Except ConfigError ClientConfig := do
  let d : ClientConfig := {}
  let base := match env "CORPORA_BASE_URL" with
    | some url => trimSlashes url
    | none => d.baseUrl
  let token := (env "CORPORA_TOKEN").filter (!·.isEmpty)
  let timeout ← wordVar env "CORPORA_TIMEOUT_SECS" .u64 d.timeoutSecs
  let sprawl ← wordVar env "CORPORA_SPRAWL_TIMEOUT_SECS" .u64 d.sprawlTimeoutSecs
  let chunk ← wordVar env "CORPORA_UPLOAD_CHUNK_SIZE" .usize d.uploadChunkSize
  let c : ClientConfig :=
    { baseUrl := base, token := token, timeoutSecs := timeout, sprawlTimeoutSecs := sprawl,
      uploadChunkSize := chunk }
  c.validate
  return c

end ClientConfig

end CorpusBench
