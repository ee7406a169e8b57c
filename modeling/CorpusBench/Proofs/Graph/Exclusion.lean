import CorpusBench.Proofs.Graph.Freshness
import CorpusBench.Proofs.Graph.Extrusion

/-!
# The excluded URIs only grow

An extrusion is the one change of the explorer that writes its excluded URIs, and it only adds
to them; every other change leaves them as they are, a reset included.  Here every program of
the explorer is shown to keep its promises (`Proc.Steps`) for the relation
`World.KeepsExcluded`: between two points where the scheduler may switch, every URI excluded at
the start is still excluded at the end.

A unary invariant would not do.  A program that read the explorer, slept, and wrote back what
it read would keep every property of single states, and still take back an exclusion made while
it slept.  The relation rules this out: each program of the explorer writes the explorer only in
the stretch where it reads it.

## Main definitions

* `World.KeepsExcluded` — every URI excluded before is excluded after.

## Main results

* `Explorer.excluded_subset_extrude` — an extrusion only adds exclusions.
* `World.keepsExcludedRules` — every program of the explorer keeps the excluded URIs.
-/

namespace CorpusBench

namespace Explorer

variable {e e' : Explorer} {s : LinkScale}

/-! ### The changes of the explorer and its excluded URIs -/

lemma excluded_merge {uri : String} {answer : Neighborhood} {skip : Nat} {o : SprawlOptions}
    {maxR : Nat} {r : Merged} (hm : e.merge uri answer skip o maxR = .ok (r, e')) :
    e'.excluded = e.excluded := by
  obtain ⟨model, panes, rfl, -⟩ := merge_ok hm
  rfl

lemma excluded_relayout {n : Nat} (h : e.relayout s = .ok (n, e')) : e'.excluded = e.excluded := by
  obtain ⟨m, rfl, -⟩ := relayout_ok h
  rfl

lemma excluded_settle {r : SettleReport} (hs : e.settle s = .ok (r, e')) :
    e'.excluded = e.excluded := by
  unfold Explorer.settle at hs
  obtain ⟨⟨k, e₁⟩, h₁, hs⟩ := Except.bind_eq_ok.1 hs
  cases hs
  have h := excluded_relayout h₁
  -- pinning the seeds on the first load touches the model alone
  split <;> exact h

/-- The loop of an extrusion only adds exclusions, whatever its fuel and its worklist. -/
lemma excluded_subset_extrudeLoop (isolated : Bool) : ∀ (fuel : Nat) (work removed : List String)
    (e : Explorer), e.excluded ⊆ (extrudeLoop isolated fuel work removed e).2.excluded
  | 0, _, _, _ => List.Subset.refl _
  | _ + 1, [], _, _ => List.Subset.refl _
  | fuel + 1, current :: rest, removed, e => by
    rw [Explorer.extrudeLoop]
    split
    · exact excluded_subset_extrudeLoop isolated fuel rest removed e
    · refine List.Subset.trans ?_ (excluded_subset_extrudeLoop isolated fuel _ _ _)
      exact fun u hu => (StrSet.mem_insert current u e.excluded).2 (.inr hu)

/-- An extrusion only adds exclusions, whether or not the explorer is well formed. -/
lemma excluded_subset_extrude {uri : String} {isolated : Bool} {removed : List String}
    (hx : e.extrude uri isolated s = .ok (removed, e')) : e.excluded ⊆ e'.excluded := by
  rw [extrude_eq_relayout] at hx
  obtain ⟨⟨n, e₁⟩, hr, he⟩ := Except.map_eq_ok.1 hx
  obtain ⟨-, rfl⟩ := Prod.mk.inj he
  rw [excluded_relayout hr]
  refine List.Subset.trans ?_ (excluded_subset_extrudeLoop isolated _ _ _ _)
  exact fun u hu => (StrSet.mem_insert uri u e.excluded).2 (.inr hu)

end Explorer

namespace World

variable {σ : Type}

/-- Every URI excluded in `w` is still excluded in `w'`. -/
def KeepsExcluded (w w' : World σ) : Prop := w.explorer.excluded ⊆ w'.explorer.excluded

instance : IsPreorder (World σ) KeepsExcluded where
  refl _ := List.Subset.refl _
  trans _ _ _ h₁ h₂ := List.Subset.trans h₁ h₂

/-! ### Programs keep the excluded URIs -/

section Steps

lemma keepsExcluded_onExplorer {α : Type} {f : Explorer → α × Explorer}
    (hf : ∀ e, e.excluded ⊆ (f e).2.excluded) :
    Proc.Steps (fun _ => True) KeepsExcluded (onExplorer f : Proc (World σ) α) :=
  Proc.Steps.modifyGet fun w _ => ⟨trivial, hf w.explorer⟩

lemma keepsExcluded_onExplorerOrAbort {α : Type} {f : Explorer → Except Abort (α × Explorer)}
    (hf : ∀ e a e', f e = .ok (a, e') → e.excluded ⊆ e'.excluded) :
    Proc.Steps (fun _ => True) KeepsExcluded (onExplorerOrAbort f : Proc (World σ) α) := by
  intro w _
  unfold onExplorerOrAbort
  refine .read ?_
  dsimp only [Proc.bind]
  split
  · next a e he => exact .write (.done a ⟨trivial, hf _ _ _ he⟩)
  · next h _ => exact .halt h (Proc.Settles.refl trivial)

variable (cfg : ExplorerConfig)

/-- A neighbourhood request to the in-memory server touches the server alone. -/
lemma keepsExcluded_fetchNeighborhood (uri : String) (target : ContentUri) (q : NetworkQuery) :
    Proc.Steps (fun _ => True) KeepsExcluded
      (fetchNeighborhood Server.networkAnswer cfg uri target q) := by
  intro w _
  unfold fetchNeighborhood
  refine Proc.StepsFrom.instant_bind (instant_ask_networkAnswer target q) ?_
  refine Proc.wp_mono ?_ _ _ (wp_ask_networkAnswer target q)
  rintro ⟨answer, delay⟩ w₁ ⟨rfl, -⟩
  -- what follows the answer waits or ends, and writes nothing
  refine Proc.StepsFrom.of_steps ?_ ⟨trivial, List.Subset.refl _⟩
  dsimp only
  split
  · exact .pure _
  · split
    · exact (Proc.Steps.pause _).bind fun _ => .pure _
    · split
      · exact .pure _
      · exact (Proc.Steps.pause _).bind fun _ => .pure _
  · exact .pure _

/-- The body of a sprawl keeps the excluded URIs when the sprawls it starts do: its one change
of the explorer is a merge. -/
lemma keepsExcluded_sprawlCounted {depth : Nat}
    (ih : ∀ uri o, Proc.Steps (fun _ => True) KeepsExcluded
      (sprawl Server.networkAnswer cfg depth uri o))
    (uri : String) (target : ContentUri) (o : SprawlOptions) :
    Proc.Steps (fun _ => True) KeepsExcluded
      (sprawlCounted Server.networkAnswer cfg depth uri target o) := by
  unfold sprawlCounted
  refine (Proc.Steps.gets _).bind fun e => ?_
  split
  · exact .pure _
  refine (keepsExcluded_fetchNeighborhood cfg uri target _).bind fun r => ?_
  split
  · exact .pure _
  refine (Proc.Steps.gets _).bind fun e' => ?_
  split
  · exact .pure _
  refine (keepsExcluded_onExplorerOrAbort fun _ _ _ h u hu => by
    rwa [Explorer.excluded_merge h]).bind fun m => ?_
  dsimp only
  have hchildren := steps_closed.children_of ih m.newUris
  split
  · refine (ih uri _).bind fun r => ?_
    split
    · exact hchildren _ _ _
    · exact hchildren _ _ _
  · exact hchildren _ _ _

/-- Every program of the explorer keeps the excluded URIs.  A reset clears the plot and keeps
the exclusions, so that the sprawls of the seeds after it skip the excluded URIs. -/
lemma keepsExcludedRules :
    Rules Server.networkAnswer cfg (Proc.Steps (fun _ => True) KeepsExcluded) where
  toClosed := steps_closed
  counted hp hk := (keepsExcluded_onExplorer fun _ => List.Subset.refl _).bind fun _ =>
    hp.bind fun a => (keepsExcluded_onExplorer fun _ => List.Subset.refl _).bind (hk a)
  body ih uri target o _ := keepsExcluded_sprawlCounted cfg ih uri target o
  settlePass := keepsExcluded_onExplorerOrAbort fun _ _ _ h u hu => by
    rwa [Explorer.excluded_settle h]
  quiescence := Proc.Steps.waitFor _
  addSeeds _ := keepsExcluded_onExplorer fun _ => List.Subset.refl _
  clear := keepsExcluded_onExplorer fun _ => List.Subset.refl _

end Steps

end World

end CorpusBench
