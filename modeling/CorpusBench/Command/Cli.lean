import CorpusBench.Command.Http
import CorpusBench.Tool.Run
import CorpusBench.Json.Read

/-!
# The program command

`cli` runs `corpora` with a command line, an environment and an optional environment file,
against the same unreachable test server as `http`.  `<base>` in the environment's values and
in the file stands for the server's address, which is also the API address unless the
environment names another; `<logs>` in the environment's values stands for a scratch
directory.

The answer shows the exit status; standard output as one document when it reads as one, else
as its lines, each a document when it reads as one; and from standard error the whole refusal
of a command line (status `2`), else the message of the first line starting with `Error: `.

## Main definitions

* `Command.Cli.outputLines` — the lines of a text.
* `Command.Cli.outputJson`, `Command.Cli.errorJson`.
* `Command.Cli.cliCmd`.
-/

namespace CorpusBench

namespace Command

namespace Cli

/-- The scratch directory `<logs>` stands for. -/
def logsDir : String := "/tmp/corpora-logs"

/-- Drop the carriage return before a line feed. -/
def dropReturn (l : String) : String := if l.endsWith "\r" then (l.dropEnd 1).toString else l

/-- The lines of a text: the pieces between line feeds, without a carriage return before the
feed, and without an empty piece after the last feed. -/
def outputLines (s : String) : List String :=
  match (s.splitOn "\n").reverse with
  | [] => []
  | last :: earlier =>
    let full := earlier.reverse.map dropReturn
    if last.isEmpty then full else full ++ [last]

/-- A text as a document when it reads as one. -/
def asDocument (s : String) : Json :=
  match Json.parse s with
  | .ok j => j
  | .error _ => .str s

/-- Standard output as the answer shows it. -/
def outputJson (out : String) : Json :=
  match Json.parse out with
  | .ok j => j
  | .error _ => .arr ((outputLines out).map asDocument)

/-- Standard error as the answer shows it. -/
def errorJson (o : Tool.Outcome) : Json :=
  if o.exitCode = 2 then .str o.stderr
  else match (outputLines o.stderr).find? (·.startsWith "Error: ") with
    | some l => .str (l.drop 7).toString
    | none => .null

/-- `cli`: run the program once. -/
def cliCmd (req : Json) : Step Json := do
  let args ← Args.strListOr req "args"
  let _ ← (← Args.arrayOr req "routes").mapM Http.routeOf
  let fields ← Args.objectOr req "env"
  let env ← fields.mapM fun (k, v) => do
    return (k, ((← Args.asStr k v).replace Http.placeholder Http.serverAddress).replace "<logs>" logsDir)
  let dotenv := (← Args.strOpt req "dotenv").map (·.replace Http.placeholder Http.serverAddress)
  let env := if env.any (·.1 == "CORPORA_BASE_URL") then env
    else env ++ [("CORPORA_BASE_URL", Http.serverAddress)]
  let o := Tool.run Network.unreachable env dotenv args
  return Http.hideAddress (Json.mkObj [("exit", Json.ofNat o.exitCode),
    ("stdout", outputJson o.stdout), ("error", errorJson o), ("requests", .arr [])])

end Cli

end Command

end CorpusBench
