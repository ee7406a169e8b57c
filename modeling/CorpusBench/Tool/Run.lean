import CorpusBench.Tool.Grammar
import CorpusBench.Tool.DotEnv
import CorpusBench.CommandLine.Parse
import CorpusBench.Client.Api
import CorpusBench.Graph.Explorer.Run
import CorpusBench.Jobs.Permissions
import CorpusBench.Json.Write

/-!
# Running `corpora`

A run reads the environment file into the environment (without replacing variables already
set), reads the command line, builds the HTTP client from the environment and runs the
subcommand.  It ends with an exit status and the text of its two output streams:

* `0` with help or version text, or with the subcommand's output;
* `2` with the refusal of the command line on standard error (the help page when nothing is
  given);
* `1` with `Error: ` and the failure on standard error, causes joined by `: `.

The subcommands:

* `explore` checks the page size, then collapses, hides and filters in turn (a collapse that
  does not read fails the run), explores the seeds and prints the settled snapshot, indented;
* `list` asks for pages of the given size (at least one), with the query when it is not blank,
  and prints one line `{"id", "uri", "label"}` a record;
* `tasks` fetches the job sites, then the tasks, and prints the permitted ones, indented.

## Main definitions

* `Tool.Outcome` — what a run leaves behind.
* `Tool.run` — run the program.
-/

namespace CorpusBench

namespace Tool

open CommandLine

/-- What a run leaves behind: its exit status and the text of its output streams. -/
structure Outcome where
  exitCode : Nat
  stdout : String
  stderr : String

/-- A failed run: `Error: ` and the message on standard error. -/
def failure (message : String) : Outcome := ⟨1, "", "Error: " ++ message ++ "\n"⟩

/-- Where the explorer of a run gets neighbourhoods: straight from the client. -/
def clientSource (client : HttpClient) : NeighborSource Unit :=
  fun u q => pure (client.networkJson u q, none)

/-- Apply the shaping changes in turn, then explore the seeds. -/
def shapeAndExplore (src : NeighborSource Unit) (cfg : ExplorerConfig)
    (changes : List (Except String (Explorer → Bool × Explorer))) (seeds : List String) :
    Proc (World Unit) (Except String Unit) :=
  match changes with
  | [] => do
    match ← World.explore src cfg seeds with
    | .ok _ => pure (.ok ())
    | .error e => pure (.error e.message)
  | .error msg :: _ => pure (.error msg)
  | .ok change :: rest => do
    match ← World.changeAndReset src cfg change with
    | .ok _ => shapeAndExplore src cfg rest seeds
    | .error e => pure (.error e.message)

/-- The change a collapse makes, or why it does not read. -/
def collapseChange (raw : String) : Except String (Explorer → Bool × Explorer) :=
  match Collapse.parse raw with
  | .ok c => .ok (Explorer.addCollapse c)
  | .error e => .error ("Invalid --collapse " ++ raw ++ ": " ++ e.message)

/-- `explore`: the settled snapshot, indented. -/
def explore (client : HttpClient) (m : Matches) : Except String String := do
  let limit := countOf ((m.value? "per_type_limit").getD "")
  (validatePerTypeLimit limit).mapError (·.message)
  let cfg : ExplorerConfig :=
    { perTypeLimit := limit, sprawlTimeout := client.config.sprawlTimeoutSecs * 1000 }
  let filters := (m.values "filters").filterMap fun raw => (readFilter raw).toOption
  let changes := (m.values "collapse").map collapseChange ++
    (m.values "hide").map (fun t => .ok (Explorer.hideType t)) ++
    filters.map (fun (t, v) => .ok (Explorer.setFilterView t v))
  let program := shapeAndExplore (clientSource client) cfg changes (m.values "seeds")
  match Proc.runFrom Proc.standardFuel 0 program ⟨Explorer.start cfg, ()⟩ with
  | .finished (.ok ()) w _ => return Json.pretty 0 w.explorer.snapshot ++ "\n"
  | .finished (.error msg) _ _ => throw msg
  | .halted h => throw h.message
  | .stalled => throw "the explorer stalled"

/-- The line printed for a record. -/
def recordLine (r : ContentRecord) : String :=
  Json.compact (Json.mkObj [("id", .str r.id), ("uri", .str r.uri), ("label", .str r.label)])

/-- `list`: one line a record. -/
def list (client : HttpClient) (m : Matches) : Except String String := do
  let pageSize := max (countOf ((m.value? "page_size").getD "")) 1
  let query := match m.value? "q" with
    | some q => if (Text.trim q).isEmpty then [] else [("q", q)]
    | none => []
  let params := [("page-size", toString pageSize)] ++ query
  let corpus := (m.value? "corpus").getD ""
  let contentType := (m.value? "content_type").getD ""
  let records ← (client.api.spool corpus contentType params Spool.standardCap).mapError (·.message)
  return String.join (records.map fun r => recordLine r ++ "\n")

/-- `tasks`: the tasks the scholar may run, indented. -/
def tasks (client : HttpClient) (m : Matches) : Except String String := do
  let scholar : Scholar :=
    { username := (m.value? "username").getD "", isAdmin := m.flag "admin",
      permittedTaskIds := StrSet.ofList (m.values "allowed") }
  let jobsites ← client.listJobsites.mapError (·.message)
  let tasks ← client.listTasks.mapError (·.message)
  let permitted := permittedTasks scholar jobsites tasks ((m.value? "content_type").getD "")
  return Json.pretty 0 (.arr (permitted.map PermittedTask.toJson)) ++ "\n"

/-- Run a subcommand whose command line was read. -/
def runMatches (network : Network) (env : String → Option String) (m : Matches) : Outcome :=
  match ClientConfig.fromEnv env with
  | .error e => failure ("Failed to configure API client: " ++ e.toClientError.message)
  | .ok config =>
    match HttpClient.new config network with
    | .error e => failure ("Failed to configure API client: " ++ e.message)
    | .ok client =>
      let result :=
        if m.command.name == exploreCommand.name then explore client m
        else if m.command.name == listCommand.name then list client m
        else tasks client m
      match result with
      | .ok out => ⟨0, out, ""⟩
      | .error msg => failure msg

/-- Run `corpora` with the environment `env` (the first binding of a name counts), the
environment file `dotenv` when there is one, and the command line `args`. -/
def run (network : Network) (env : List (String × String)) (dotenv : Option String)
    (args : List String) : Outcome :=
  let env := match dotenv with
    | some text => DotEnv.load env text
    | none => env
  match corpora.read (DotEnv.lookupIn env) false args with
  | .show text => ⟨0, text, ""⟩
  | .refuse text => ⟨2, "", text⟩
  | .run m => runMatches network (DotEnv.lookupIn env) m

end Tool

end CorpusBench
