import CorpusBench.Command.Args
import CorpusBench.Client.Config

/-!
# Client commands

Commands on the client's settings: `client_config` builds settings from defaults and setters
and reports whether they are usable; `client_config_env` reads them from a set of variables.

## Main definitions

* `Command.Client.clientConfigCmd`, `Command.Client.clientConfigEnvCmd`.
-/

namespace CorpusBench

namespace Command

namespace Client

/-- Settings from the members of a command: `base_url` through `ClientConfig.new`, then the
setters of the members that are present. -/
def configOf (req : Json) : Step ClientConfig := do
  let c := match ← Args.strOpt req "base_url" with
    | some base => ClientConfig.new base
    | none => {}
  let token ← Args.strOpt req "token"
  let timeout ← Args.natOpt req "timeout_secs" .u64
  let sprawl ← Args.natOpt req "sprawl_timeout_secs" .u64
  let chunk ← Args.natOpt req "upload_chunk_size" .usize
  return { c with token := token.orElse fun _ => c.token,
                  timeoutSecs := timeout.getD c.timeoutSecs,
                  sprawlTimeoutSecs := sprawl.getD c.sprawlTimeoutSecs,
                  uploadChunkSize := chunk.getD c.uploadChunkSize }

/-- `client_config`: the settings and the outcome of their validation. -/
def clientConfigCmd (req : Json) : Step Json := do
  let c ← configOf req
  let check := match c.validate with
    | .ok () => Json.null
    | .error e => errorJson e.toClientError
  return Json.mkObj [("config", c.toJson), ("validate", check)]

/-- The variables of a command: only those settings are read from. -/
def envOf (req : Json) : Step (List (String × String)) := do
  let fields ← Args.objectOr req "env"
  fields.mapM fun (k, v) => do
    if ClientConfig.settingVariables.contains k then return (k, ← Args.asStr k v)
    else bad ("unsupported variable " ++ k)

/-- `client_config_env`: the settings the variables give. -/
def clientConfigEnvCmd (req : Json) : Step Json := do
  let env ← envOf req
  match ClientConfig.fromEnv (fun k => List.lookup k env) with
  | .ok c => return c.toJson
  | .error e => fail e.toClientError

end Client

end Command

end CorpusBench
