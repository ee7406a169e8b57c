import CorpusBench.Proofs.Graph.Explorer
import CorpusBench.Proofs.Concurrent.Keeps
import CorpusBench.Graph.Explorer.Run

/-!
# Exploring keeps invariants

A program of the explorer touches the explorer only through atomic changes (`onExplorer`,
`onExplorerOrAbort`) and the source only through `ask`.  So a property of programs holds of
every sprawl, expansion, exploration and reset once it holds of their atomic steps and survives
the ways they are put together (`World.Rules`).  Keeping (`Proc.Keeps`) a property of worlds
that the atomic steps keep (`World.Invariant`) is such a property: counting an operation in or
out, merging an answer, the settle pass, and the requests to the source; a reset and a change
of settings keep it when clearing the plot and the change do.  This holds whatever the source
answers, whenever it answers, and however the programs are interleaved.

The explorer being well formed is such an invariant (`World.invariant_wellFormed`).

The sprawls are mutually recursive through their depth: `Rules.sprawl_of` is an induction on
the depth, whose step is the rule for the body of a sprawl given that the sprawls it starts
have the property.

## Main definitions

* `World.Rules` — what a property of programs needs for the programs of the explorer to have it.
* `World.Invariant` — a property of worlds kept by the atomic steps.
* `World.WellFormed` — the explorer of a world is well formed.

## Main results

* `World.Rules.sprawl_of`, `.expand_of`, `.explore_of`, `.resetGraph_of`,
  `.changeAndReset_of` — the programs have a property that follows the rules.
* `World.Invariant.rules` — keeping an invariant follows the rules.
* `World.wellFormedRules` — the programs keep the explorer well formed.
-/

namespace CorpusBench

namespace World

variable {σ : Type} {I : World σ → Prop}

/-- The explorer of a world is well formed. -/
def WellFormed (w : World σ) : Prop := w.explorer.WellFormed

/-! ### Rules for the programs of the explorer -/

section Rules

variable {P : {α : Type} → Proc (World σ) α → Prop}

/-- A property of programs that holds of answers and survives sequencing and running side by
side. -/
structure Closed (P : {α : Type} → Proc (World σ) α → Prop) : Prop where
  pure {α : Type} (a : α) : P (pure a)
  bind {α β : Type} {p : Proc (World σ) α} {k : α → Proc (World σ) β} :
    P p → (∀ a, P (k a)) → P (p >>= k)
  joinAll {β : Type} {ps : List (Proc (World σ) β)} : (∀ p ∈ ps, P p) → P (Proc.joinAll ps)

lemma Closed.map (hc : Closed P) {α β : Type} {p : Proc (World σ) α} (f : α → β) (hp : P p) :
    P (f <$> p) :=
  hc.bind hp fun a => hc.pure (f a)

/-- The children of a sprawl, sprawled side by side when asked for, end every branch of its
body: they have the property when the sprawls do. -/
lemma Closed.children_of (hc : Closed P) {src : NeighborSource σ} {cfg : ExplorerConfig}
    {depth : Nat} (ih : ∀ uri o, P (sprawl src cfg depth uri o)) (uris : List String) (b : Bool)
    (k : List (Except ClientError SprawlOutcome) → Except ClientError SprawlOutcome)
    (r : Except ClientError SprawlOutcome) :
    P (if b = true then
        Proc.joinAll (uris.map fun c => sprawl src cfg depth c {}) >>= fun rs => Pure.pure (k rs)
      else Pure.pure r) := by
  split
  · refine hc.bind (hc.joinAll fun p hp => ?_) fun _ => hc.pure _
    obtain ⟨c, -, rfl⟩ := List.mem_map.1 hp
    exact ih c {}
  · exact hc.pure _

/-- What a property of programs needs for every sprawl, expansion, exploration and reset to
have it: besides answers, sequences and programs side by side, it holds of a program counted
as pending, of the body of a sprawl whose sprawls have it, of the settle pass, of the wait
until nothing is pending, and of the changes of the seeds and the clearing of the plot. -/
structure Rules (src : NeighborSource σ) (cfg : ExplorerConfig)
    (P : {α : Type} → Proc (World σ) α → Prop) : Prop extends Closed P where
  counted {α β : Type} {p : Proc (World σ) α} {k : α → Bool → Proc (World σ) β} :
    P p → (∀ a b, P (k a b)) →
      P (beginPending >>= fun _ => p >>= fun a => releasePending >>= k a)
  body {depth : Nat} : (∀ uri o, P (sprawl src cfg depth uri o)) →
    ∀ uri target o, ContentUri.parse uri = .ok target → P (sprawlCounted src cfg depth uri target o)
  settlePass : P (settle cfg)
  quiescence : P awaitQuiescence
  addSeeds (f : Explorer → List String) : P (onExplorer fun e => ((), { e with seeds := f e }))
  clear : P (onExplorer fun e =>
    (e.seeds, { e with model := {}, legend := {}, generation := e.generation + 1 }))

namespace Rules

variable {src : NeighborSource σ} {cfg : ExplorerConfig} (rules : Rules src cfg P)
include rules

/-- Every sprawl has the property. -/
lemma sprawl_of : ∀ (depth : Nat) (uri : String) (o : SprawlOptions),
    P (sprawl src cfg depth uri o)
  | 0, _, _ => by
    simp only [sprawl]
    exact rules.pure _
  | depth + 1, uri, o => by
    simp only [sprawl]
    split
    · -- a URI that does not parse is refused before anything is counted
      exact rules.pure _
    · next target htarget =>
      exact rules.counted (rules.body (sprawl_of depth) uri target o htarget) fun _ _ => rules.pure _

/-- An expansion counts its batch around its sprawl, and settles when it ends the batch. -/
lemma expand_of (uri : String) (o : SprawlOptions) : P (expand src cfg uri o) := by
  unfold expand expandEnd
  refine rules.counted (rules.sprawl_of _ uri o) fun _ last => ?_
  split
  · exact rules.bind (rules.map _ rules.settlePass) fun _ => rules.pure _
  · exact rules.bind (rules.pure _) fun _ => rules.pure _

lemma sprawlSeeds_of (seeds : List String) : P (sprawlSeeds src cfg seeds) := by
  unfold sprawlSeeds
  refine rules.bind (rules.joinAll fun p hp => ?_) fun _ => rules.pure _
  obtain ⟨s, -, rfl⟩ := List.mem_map.1 hp
  exact rules.sprawl_of _ s _

/-- What an exploration does once it has added its seeds, and a reset once it has cleared the
plot: sprawl the seeds, wait until nothing is pending, and settle. -/
lemma sprawlAndSettle_of (seeds : List String) :
    P (do
      let r ← sprawlSeeds src cfg seeds
      awaitQuiescence
      let report ← settle cfg
      Pure.pure (r.map fun _ => report)) :=
  rules.bind (rules.sprawlSeeds_of seeds) fun _ => rules.bind rules.quiescence fun _ =>
    rules.bind rules.settlePass fun _ => rules.pure _

lemma explore_of (seeds : List String) : P (explore src cfg seeds) := by
  unfold explore
  split
  · exact rules.pure _
  · exact rules.bind (rules.addSeeds _) fun _ => rules.sprawlAndSettle_of seeds

lemma resetGraph_of : P (resetGraph src cfg) := by
  unfold resetGraph
  exact rules.bind rules.clear rules.sprawlAndSettle_of

/-- A change of the explorer, and the reset that follows when it changed anything. -/
lemma changeAndReset_of {change : Explorer → Bool × Explorer} (hchange : P (onExplorer change)) :
    P (changeAndReset src cfg change) := by
  unfold changeAndReset
  refine rules.bind hchange fun changed => ?_
  split
  · refine rules.bind rules.resetGraph_of fun r => ?_
    split <;> exact rules.pure _
  · exact rules.pure _

end Rules

end Rules

/-! ### Atomic steps -/

lemma keeps_explorerNow : Proc.Keeps I (explorerNow : Proc (World σ) Explorer) :=
  Proc.Keeps.gets _

/-- A request to the source leaves the explorer alone. -/
lemma keeps_ask {α : Type} (p : Proc σ α) : Proc.Keeps WellFormed (ask p) := by
  unfold ask
  refine Proc.Keeps.zoom ?_ p
  intro _ _ hw
  exact hw

lemma keeps_onExplorer {α : Type} {f : Explorer → α × Explorer}
    (hf : ∀ w, I w → I { w with explorer := (f w.explorer).2 }) :
    Proc.Keeps I (onExplorer f : Proc (World σ) α) :=
  Proc.Keeps.modifyGet fun w hw => hf w hw

lemma keeps_onExplorerOrAbort {α : Type} {f : Explorer → Except Abort (α × Explorer)}
    (hf : ∀ w a e, I w → f w.explorer = .ok (a, e) → I { w with explorer := e }) :
    Proc.Keeps I (onExplorerOrAbort f : Proc (World σ) α) := by
  refine Proc.Keeps.get_bind fun w hw => ?_
  split
  · next a e he => exact (Proc.Keeps.set (hf _ _ _ hw he)).bind fun _ => .pure _
  · exact .abort _

lemma keeps_awaitQuiescence : Proc.Keeps I (awaitQuiescence : Proc (World σ) Unit) :=
  Proc.Keeps.waitFor _

lemma keeps_closed : Closed (Proc.Keeps I) where
  pure := .pure
  bind hp hk := hp.bind hk
  joinAll := Proc.Keeps.joinAll

/-! ### Invariants of the atomic steps -/

/-- A property of worlds that the atomic changes of the explorer keep: counting an operation in
or out, merging an answer, and the settle pass. -/
structure Invariant (I : World σ → Prop) : Prop where
  pending : ∀ w (p : PendingOps), I w → I { w with explorer := { w.explorer with pending := p } }
  merge : ∀ w uri answer skip o maxR (m : Merged) e, I w →
    w.explorer.merge uri answer skip o maxR = .ok (m, e) → I { w with explorer := e }
  settle : ∀ w scale (r : SettleReport) e, I w → w.explorer.settle scale = .ok (r, e) →
    I { w with explorer := e }

/-- The atomic changes keep the explorer well formed. -/
lemma invariant_wellFormed : Invariant (σ := σ) WellFormed where
  pending _ _ hw := ⟨hw.model, hw.excluded_unplotted⟩
  merge _ _ _ _ _ _ _ _ hw hm := Explorer.WellFormed.merge hw hm
  settle _ _ _ _ hw hs := Explorer.WellFormed.settle hw hs

namespace Invariant

variable (hI : Invariant I) (src : NeighborSource σ) (cfg : ExplorerConfig)
  (hask : ∀ u q, Proc.Keeps I (ask (src u q)))
include hask

omit hI in
/-- A neighbourhood request: the source's answer, after its delay or at the deadline. -/
lemma keeps_fetchNeighborhood (uri : String) (target : ContentUri) (q : NetworkQuery) :
    Proc.Keeps I (fetchNeighborhood src cfg uri target q) := by
  unfold fetchNeighborhood
  refine (hask target q).bind fun ⟨answer, delay⟩ => ?_
  dsimp only
  split
  · exact .pure _
  · split
    · exact (Proc.Keeps.pause _).bind fun _ => .pure _
    · split
      · exact .pure _
      · exact (Proc.Keeps.pause _).bind fun _ => .pure _
  · exact .pure _

include hI

/-- The body of a sprawl keeps the invariant when the sprawls it starts do.

**Proof sketch.** Follow the program: reads of the explorer, the request, the merge (which
keeps the invariant), the resprawl and the children, which are sprawls. -/
lemma keeps_sprawlCounted {depth : Nat}
    (ih : ∀ uri o, Proc.Keeps I (sprawl src cfg depth uri o)) (uri : String)
    (target : ContentUri) (o : SprawlOptions) :
    Proc.Keeps I (sprawlCounted src cfg depth uri target o) := by
  unfold sprawlCounted
  dsimp only
  refine keeps_explorerNow.bind fun e => ?_
  split
  · -- an excluded node is not asked for
    exact .pure _
  refine (keeps_fetchNeighborhood src cfg hask uri target _).bind fun r => ?_
  split
  · -- the request failed or timed out
    exact .pure _
  refine keeps_explorerNow.bind fun e' => ?_
  split
  · -- the answer is stale
    exact .pure _
  refine (keeps_onExplorerOrAbort fun w _ _ hw hm => hI.merge w _ _ _ _ _ _ _ hw hm).bind
    fun m => ?_
  have hchildren := keeps_closed.children_of ih m.newUris
  split
  · refine (ih uri _).bind fun r => ?_
    split
    · exact hchildren _ _ _
    · exact hchildren _ _ _
  · exact hchildren _ _ _

/-- The programs of the explorer keep an invariant of the atomic steps that the requests to the
source, changing the seeds and clearing the plot keep. -/
lemma rules
    (hseeds : ∀ w seeds, I w → I { w with explorer := { w.explorer with seeds := seeds } })
    (hclear : ∀ w, I w → I { w with explorer :=
      { w.explorer with model := {}, legend := {}, generation := w.explorer.generation + 1 } }) :
    Rules src cfg (Proc.Keeps I) where
  toClosed := keeps_closed
  counted hp hk := (keeps_onExplorer fun w hw => hI.pending w _ hw).bind fun _ =>
    hp.bind fun a => (keeps_onExplorer fun w hw => hI.pending w _ hw).bind (hk a)
  body ih uri target o _ := hI.keeps_sprawlCounted src cfg hask ih uri target o
  settlePass := keeps_onExplorerOrAbort fun w _ _ hw hs => hI.settle w _ _ _ hw hs
  quiescence := keeps_awaitQuiescence
  addSeeds _ := keeps_onExplorer fun w hw => hseeds w _ hw
  clear := keeps_onExplorer hclear

end Invariant

/-- The programs of the explorer keep it well formed. -/
lemma wellFormedRules (src : NeighborSource σ) (cfg : ExplorerConfig) :
    Rules src cfg (Proc.Keeps WellFormed) :=
  invariant_wellFormed.rules src cfg (fun _ _ => keeps_ask _)
    (fun _ _ hw => ⟨hw.model, hw.excluded_unplotted⟩)
    fun _ _ => ⟨GraphModel.WellFormed.empty, fun _ _ => rfl⟩

end World

end CorpusBench
