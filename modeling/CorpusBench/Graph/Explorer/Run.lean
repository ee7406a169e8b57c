import CorpusBench.Graph.Explorer.State
import CorpusBench.Concurrent.Proc
import CorpusBench.Content.Uri
import CorpusBench.Content.Neighborhood

/-!
# Exploring

The operations of the explorer that talk to the server, as programs over the explorer and the
server together.  Several of them may run side by side: a program never holds the state while
it waits, so answers are merged in the order they arrive.

* A **sprawl** of a node asks for one page of its neighbourhood and merges it, counted as
  pending from start to end.  An excluded node is not asked for; an answer asked for before a
  reset is dropped; an answer that outlives the sprawl deadline is a timeout.  After the merge
  come the resprawl (errors ignored) and, for a seed, one sprawl of every new node, side by
  side.
* An **expansion** is a sprawl inside a batch: whichever expansion ends the batch runs the one
  settle pass, whether its own sprawl failed or not.
* **Exploring** adds seeds and sprawls them side by side; it waits until nothing is pending and
  settles.  It fails only when every seed failed.
* A **reset** clears the plot and explores the seeds again; changing the collapses, hidden
  types or view filters resets when it changes anything.

## Main definitions

* `NeighborSource` — where neighbourhoods come from.
* `World` — the explorer and the source it asks.
* `World.sprawl`, `World.expand`, `World.explore`,
  `World.resetGraph`, `World.changeAndReset`.
-/

namespace CorpusBench

/-- Where neighbourhoods come from, as a program over the source's state `σ`: the answer to a
request and, when it takes a while, its delay in milliseconds. -/
abbrev NeighborSource (σ : Type) :=
  ContentUri → NetworkQuery → Proc σ (Except ClientError Neighborhood × Option Nat)

/-- The explorer together with the state of the source it asks. -/
structure World (σ : Type) where
  explorer : Explorer
  source : σ

namespace World

variable {σ : Type}

/-- A request to the source. -/
def ask {α : Type} (p : Proc σ α) : Proc (World σ) α :=
  Proc.zoom (·.source) (fun s w => { w with source := s }) p

/-- Change the explorer, with a result. -/
def onExplorer {α : Type} (f : Explorer → α × Explorer) : Proc (World σ) α :=
  Proc.modifyGet fun w => let (a, e) := f w.explorer; (a, { w with explorer := e })

/-- Change the explorer in a way that may abort the run. -/
def onExplorerOrAbort {α : Type} (f : Explorer → Except Abort (α × Explorer)) : Proc (World σ) α := do
  let w ← Proc.get
  match f w.explorer with
  | .ok (a, e) => Proc.set { w with explorer := e }; pure a
  | .error h => Proc.abort h

/-- The explorer as it is now. -/
def explorerNow : Proc (World σ) Explorer := Proc.gets (·.explorer)

/-- Count one more pending operation. -/
def beginPending : Proc (World σ) Unit := onExplorer fun e => ((), { e with pending := e.pending.begin })

/-- End a pending operation; whether it was the last. -/
def releasePending : Proc (World σ) Bool :=
  onExplorer fun e => let (last, p) := e.pending.release; (last, { e with pending := p })

/-- Wait until nothing is pending. -/
def awaitQuiescence : Proc (World σ) Unit := Proc.waitFor (·.explorer.pending.isQuiescent)

/-- The answer to a neighbourhood request within the sprawl deadline: a failure at once, an
answer after its delay, or a timeout at the deadline when the answer would come later. -/
def fetchNeighborhood (src : NeighborSource σ) (cfg : ExplorerConfig) (uri : String) (target : ContentUri)
    (q : NetworkQuery) : Proc (World σ) (Except ClientError Neighborhood) := do
  let (answer, delay) ← ask (src target q)
  match answer, delay with
  | .error e, _ => pure (.error e)
  | .ok n, some d =>
    if cfg.sprawlTimeout < d then do
      Proc.pause cfg.sprawlTimeout
      pure (.error (.timeout ("network neighborhood for " ++ uri ++ " exceeded " ++
        durationText cfg.sprawlTimeout)))
    else if d = 0 then pure (.ok n)
    else do
      Proc.pause d
      pure (.ok n)
  | .ok n, none => pure (.ok n)

/-- The outcome of the children of a sprawl added to its own: a failed child is counted. -/
def absorbChildren (o : SprawlOutcome) (results : List (Except ClientError SprawlOutcome)) : SprawlOutcome :=
  results.foldl (fun o r => match r with
    | .ok c => o.absorb c
    | .error _ => { o with childrenFailed := o.childrenFailed + 1 }) o

/-- Enough depth for every sprawl: a chain of resprawls of a seed, its children, and their
chains of resprawls. -/
def sprawlDepth (cfg : ExplorerConfig) : Nat := 2 * cfg.maxResprawls + 4

mutual
/-- Sprawl a node: counted as pending from its start to its end.  Each nested sprawl uses one
unit of the depth. -/
def sprawl (src : NeighborSource σ) (cfg : ExplorerConfig) : Nat → String → SprawlOptions →
    Proc (World σ) (Except ClientError SprawlOutcome)
  | 0, _, _ => pure (.ok {})
  | depth + 1, uri, o =>
    match ContentUri.parse uri with
    | .error e => pure (.error e)
    | .ok target => do
      beginPending
      let r ← sprawlCounted src cfg depth uri target o
      let _ ← releasePending
      pure r
-- a sprawl and its body take turns using up the depth
termination_by d => 2 * d

/-- The body of a sprawl, while it is counted. -/
def sprawlCounted (src : NeighborSource σ) (cfg : ExplorerConfig) (depth : Nat) (uri : String) (target : ContentUri)
    (o : SprawlOptions) : Proc (World σ) (Except ClientError SprawlOutcome) := do
  let e ← explorerNow
  if e.excluded.contains uri then return .ok {}
  let skip := o.skip.getD (((e.model.node? uri).map (·.skip)).getD 0)
  let generation := e.generation
  match ← fetchNeighborhood src cfg uri target (e.query skip o) with
  | .error err => return .error err
  | .ok answer =>
    let e ← explorerNow
    if e.generation != generation then return .ok {}
    let m ← onExplorerOrAbort (·.merge uri answer skip o cfg.maxResprawls)
    let mut outcome : SprawlOutcome := { nodesAdded := m.nodesAdded, edgesAdded := m.edgesAdded }
    if m.resprawl then
      match ← sprawl src cfg depth uri { o with skip := none, resprawl := o.resprawl + 1 } with
      | .ok more => outcome := { outcome.absorb more with resprawls := (outcome.absorb more).resprawls + 1 }
      | .error _ => pure ()
    if o.sprawlChildren && !m.newUris.isEmpty then
      let results ← Proc.joinAll (m.newUris.map fun c => sprawl src cfg depth c {})
      outcome := absorbChildren outcome results
    return .ok outcome
termination_by 2 * depth + 1
end

/-- Sprawl a node from the top, with the full depth. -/
def sprawlTop (src : NeighborSource σ) (cfg : ExplorerConfig) (uri : String) (o : SprawlOptions) :
    Proc (World σ) (Except ClientError SprawlOutcome) :=
  sprawl src cfg (sprawlDepth cfg) uri o

/-- The settle pass. -/
def settle (cfg : ExplorerConfig) : Proc (World σ) SettleReport :=
  onExplorerOrAbort (·.settle cfg.linkScale)

/-- The end of an expansion whose sprawl gave `r`: release the batch, and settle when that was
the last operation pending. -/
def expandEnd (cfg : ExplorerConfig) (r : Except ClientError SprawlOutcome) :
    Proc (World σ) (Except ClientError (SprawlOutcome × Option SettleReport)) := do
  let last ← releasePending
  let settled ← if last then some <$> settle cfg else pure none
  pure (r.map (·, settled))

/-- Sprawl inside a batch; the expansion that ends the batch settles. -/
def expand (src : NeighborSource σ) (cfg : ExplorerConfig) (uri : String) (o : SprawlOptions) :
    Proc (World σ) (Except ClientError (SprawlOutcome × Option SettleReport)) := do
  beginPending
  let r ← sprawlTop src cfg uri o
  expandEnd cfg r

/-- Sprawl seeds side by side; fails with the first error only when every seed failed. -/
def sprawlSeeds (src : NeighborSource σ) (cfg : ExplorerConfig) (seeds : List String) : Proc (World σ) (Except ClientError Unit) := do
  let results ← Proc.joinAll (seeds.map fun s => sprawlTop src cfg s SprawlOptions.seed)
  let failures := results.filterMap fun r => match r with
    | .error e => some e
    | .ok _ => none
  pure <| match failures with
    | e :: _ => if failures.length == results.length then .error e else .ok ()
    | [] => .ok ()

/-- Add seeds (all of which must read as URIs), sprawl them, wait until nothing is pending and
settle; the failure of the seeds comes after the settle pass. -/
def explore (src : NeighborSource σ) (cfg : ExplorerConfig) (seeds : List String) : Proc (World σ) (Except ClientError SettleReport) := do
  match seeds.mapM ContentUri.parse with
  | .error e => pure (.error e)
  | .ok _ =>
    onExplorer fun e => ((), { e with seeds := seeds.foldl (fun acc s => if acc.contains s then acc else acc ++ [s]) e.seeds })
    let r ← sprawlSeeds src cfg seeds
    awaitQuiescence
    let report ← settle cfg
    pure (r.map fun _ => report)

/-- Clear the plot and explore the seeds again; exclusions, hidden types, collapses and filters
stay. -/
def resetGraph (src : NeighborSource σ) (cfg : ExplorerConfig) : Proc (World σ) (Except ClientError SettleReport) := do
  let seeds ← onExplorer fun e =>
    (e.seeds, { e with model := {}, legend := {}, generation := e.generation + 1 })
  let r ← sprawlSeeds src cfg seeds
  awaitQuiescence
  let report ← settle cfg
  pure (r.map fun _ => report)

/-- Make a change to the explorer; when it changed anything, reset.  Whether it changed. -/
def changeAndReset (src : NeighborSource σ) (cfg : ExplorerConfig) (change : Explorer → Bool × Explorer) :
    Proc (World σ) (Except ClientError Bool) := do
  let changed ← onExplorer change
  if changed then
    match ← resetGraph src cfg with
    | .error e => pure (.error e)
    | .ok _ => pure (.ok true)
  else pure (.ok false)

end World

end CorpusBench
