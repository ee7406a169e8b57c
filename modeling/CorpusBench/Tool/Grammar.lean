import CorpusBench.CommandLine.Spec
import CorpusBench.Text.Numeral
import CorpusBench.Text.Blank
import CorpusBench.Graph.Explorer.State

/-!
# The command line of `corpora`

`corpora` explores and lists the content of a corpus server.  It has three subcommands:

* `explore --seed URI… [--per-type-limit N] [--collapse From.Proxy.To…] [--hide TYPE…]
  [--filter TYPE=VIEW_ID…]` explores the graph around the seeds;
* `list CORPUS CONTENT_TYPE [--q QUERY] [--page-size N]` lists every record of a type;
* `tasks CONTENT_TYPE [--username NAME] [--admin] [--allow TASK…]` lists the tasks a scholar may
  run.

Counts are read as signed 64-bit integers and must then fit 32 unsigned bits, so `-1` is refused
for its range and `x` for its digits.  A view filter needs a non-blank type and view around its
first `=`.

## Main definitions

* `Tool.countRefusal`, `Tool.readFilter` — the value checks.
* `Tool.corpora` — the grammar.
-/

namespace CorpusBench

namespace Tool

open CommandLine

/-- Why a text is not a 32-bit count, if it is not one. -/
def countRefusal (raw : String) : Option String :=
  match readInt64 raw with
  | .error reason => some reason
  | .ok v => if 0 ≤ v ∧ v ≤ 4294967295 then none else some (toString v ++ " is not in 0..=4294967295")

/-- The value of a count that passed `countRefusal`. -/
def countOf (raw : String) : Nat :=
  match readInt64 raw with
  | .ok v => v.toNat
  | .error _ => 0

/-- A view filter `TYPE=VIEW_ID`: the two sides of the first `=`, trimmed, neither blank. -/
def readFilter (raw : String) : Except String (String × String) :=
  match raw.toList.span (· != '=') with
  | (contentType, _ :: view) =>
    let contentType := Text.trim (String.ofList contentType)
    let view := Text.trim (String.ofList view)
    if contentType.isEmpty || view.isEmpty then .error ("expected TYPE=VIEW_ID, got: " ++ raw)
    else .ok (contentType, view)
  | _ => .error ("expected TYPE=VIEW_ID, got: " ++ raw)

/-- The number of records asked for by one page request unless told otherwise. -/
def standardPageSize : Nat := 50

/-- `explore`. -/
def exploreCommand : Command where
  name := "explore"
  about := "Explore the graph around seed records and print the settled snapshot"
  params := [
    { id := "seeds", shape := .option, long := "seed", valueName := "SEEDS",
      help := "Seed content URI, e.g. /corpus/42/Book/7 (repeatable)", required := true,
      repeated := true },
    { id := "per_type_limit", shape := .option, long := "per-type-limit",
      valueName := "PER_TYPE_LIMIT", help := "Neighbors fetched per related type on each sprawl",
      default := some (toString ({} : ExplorerConfig).perTypeLimit), check := countRefusal },
    { id := "collapse", shape := .option, long := "collapse", valueName := "COLLAPSE",
      help := "Collapse a relationship given as From.Proxy.To (repeatable)", repeated := true },
    { id := "hide", shape := .option, long := "hide", valueName := "HIDE",
      help := "Hide a content type (repeatable)", repeated := true },
    { id := "filters", shape := .option, long := "filter", valueName := "FILTERS",
      help := "Restrict a content type to a content view, as TYPE=VIEW_ID (repeatable)",
      repeated := true,
      check := fun raw => match readFilter raw with
        | .error reason => some reason
        | .ok _ => none }]

/-- `list`. -/
def listCommand : Command where
  name := "list"
  about := "Spool every record of a content type"
  params := [
    { id := "corpus", shape := .positional, valueName := "CORPUS", help := "Corpus id",
      required := true },
    { id := "content_type", shape := .positional, valueName := "CONTENT_TYPE",
      help := "Content type name", required := true },
    { id := "q", shape := .option, long := "q", valueName := "Q", help := "General search query" },
    { id := "page_size", shape := .option, long := "page-size", valueName := "PAGE_SIZE",
      help := "Records per page request", default := some (toString standardPageSize),
      check := countRefusal }]

/-- `tasks`. -/
def tasksCommand : Command where
  name := "tasks"
  about := "List tasks a scholar may run against a content type"
  params := [
    { id := "content_type", shape := .positional, valueName := "CONTENT_TYPE",
      help := "Content type name", required := true },
    { id := "username", shape := .option, long := "username", valueName := "USERNAME",
      help := "Scholar name shown in logs", default := some "anonymous",
      env := some "CORPORA_USERNAME" },
    { id := "admin", shape := .flag, long := "admin",
      help := "Treat the scholar as an admin (may run every task)", env := some "CORPORA_ADMIN" },
    { id := "allowed", shape := .option, long := "allow", valueName := "ALLOWED",
      help := "Task id the scholar is permitted to run (repeatable)", repeated := true }]

/-- The grammar of `corpora`. -/
def corpora : Program where
  name := "corpora"
  about := "Explore and list Corpora content"
  version := "2026.10.0"
  commands := [exploreCommand, listCommand, tasksCommand]

end Tool

end CorpusBench
