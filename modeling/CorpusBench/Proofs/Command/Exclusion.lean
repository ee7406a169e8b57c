import CorpusBench.Proofs.Graph.Exclusion
import CorpusBench.Proofs.Command.Explorer

/-!
# An extruded node is never plotted again

An extrusion removes a node, and with `remove_isolated` the nodes it strands, and excludes them
(`Explorer.extrude_eq`).  Every step of the `explorer` command keeps the excluded URIs
(`World.KeepsExcluded`) at every point where the scheduler may switch, so from the configuration
an extrusion leaves, whatever the steps in flight when it ran and whatever steps start after it,
resets included, the removed URIs stay excluded.  An excluded URI is never plotted
(`Explorer.WellFormed`), so none of them is plotted again.

## Main definitions

* `Command.Explore.ReachableFrom` — the configurations the command reaches from a
  given one.

## Main results

* `Command.Explore.keepsExcluded_stepProgram` — every step keeps the excluded URIs.
* `Command.Explore.ReachableFrom.keepsExcluded` — so does every run.
* `Command.Explore.extrude_excludes_cascade`.
-/

namespace CorpusBench

namespace Command

namespace Explore

/-! ### Steps -/

/-- Every step keeps the excluded URIs: an extrusion only adds exclusions
(`Explorer.excluded_subset_extrude`), the server-side operations are the programs of `World`,
and every other operation leaves the excluded URIs as they are. -/
lemma keepsExcludedRules (cfg : ExplorerConfig) :
    StepRules cfg (Proc.Steps (fun _ => True) World.KeepsExcluded) where
  toRules := World.keepsExcludedRules cfg
  gets := Proc.Steps.gets
  changing_of hf := by
    refine Proc.Steps.modifyGet fun w _ => ⟨trivial, ?_⟩
    split
    · next v e he =>
      obtain ⟨_, _, _, _, rfl⟩ := (hf _ _ _ he).frame
      exact List.Subset.refl _
    · exact List.Subset.refl _
  resets hc := (World.keepsExcludedRules cfg).changeAndReset_of <|
    World.keepsExcluded_onExplorer fun e u hu => by
      obtain ⟨_, _, _, h⟩ := hc.frame e
      rwa [h]
  extrude _ _ := World.keepsExcluded_onExplorerOrAbort fun _ _ _ hx =>
    Explorer.excluded_subset_extrude hx

/-- Setting the page size keeps the excluded URIs. -/
lemma keepsExcluded_setPageSize (limit : Nat) :
    Proc.Steps (fun _ => True) World.KeepsExcluded (setPageSize limit) :=
  Proc.Steps.modifyGet fun w _ => ⟨trivial, by
    split
    · next v e he =>
      rw [setPageSize_ok he]
      exact List.Subset.refl _
    · exact List.Subset.refl _⟩

/-- Every step keeps the excluded URIs, `parallel` ones included, whatever their nesting. -/
lemma keepsExcluded_stepProgram (cfg : ExplorerConfig) (depth : Nat) :
    ∀ req, Proc.Steps (fun _ => True) World.KeepsExcluded (stepProgram cfg depth req) :=
  (keepsExcludedRules cfg).stepProgram_of depth keepsExcluded_setPageSize

/-! ### Later configurations -/

/-- The configurations the command reaches from the configuration `w₀` with the steps `ps₀` in
flight: any step may start at any time, any step in flight may take its next atomic step at any
instant, and the server may change in between. -/
inductive ReachableFrom (cfg : ExplorerConfig) (w₀ : World Server)
    (ps₀ : List (Proc (World Server) Json)) :
    World Server → List (Proc (World Server) Json) → Prop
  /-- The configuration itself. -/
  | refl : ReachableFrom cfg w₀ ps₀ w₀ ps₀
  /-- The server changes in any way. -/
  | serve {w : World Server} {ps : List (Proc (World Server) Json)} (server : Server) :
      ReachableFrom cfg w₀ ps₀ w ps → ReachableFrom cfg w₀ ps₀ { w with source := server } ps
  /-- A step starts. -/
  | begin {w : World Server} {ps : List (Proc (World Server) Json)} (depth : Nat) (req : Json) :
      ReachableFrom cfg w₀ ps₀ w ps → ReachableFrom cfg w₀ ps₀ w (stepProgram cfg depth req :: ps)
  /-- A step in flight takes its next atomic step, at any instant. -/
  | poll {w : World Server} {pre post : List (Proc (World Server) Json)}
      {p : Proc (World Server) Json} (now : Nat) :
      ReachableFrom cfg w₀ ps₀ w (pre ++ p :: post) →
      ReachableFrom cfg w₀ ps₀ (Proc.poll now p w).2.1 (pre ++ (Proc.poll now p w).1 :: post)

variable {cfg : ExplorerConfig} {w w₀ : World Server} {ps ps₀ : List (Proc (World Server) Json)}

/-- A configuration reached from a reachable one is reachable. -/
lemma ReachableFrom.reachable (h₀ : Reachable cfg w₀ ps₀) (h : ReachableFrom cfg w₀ ps₀ w ps) :
    Reachable cfg w ps := by
  induction h with
  | refl => exact h₀
  | serve server _ ih => exact .serve server ih
  | begin depth req _ ih => exact .begin depth req ih
  | poll now _ ih => exact .poll now ih

/-- In every reachable configuration every step in flight keeps the excluded URIs, from
wherever the others leave it. -/
lemma Reachable.reliedExcluded (h : Reachable cfg w ps) :
    Proc.Relied (fun _ => True) World.KeepsExcluded w ps := by
  induction h with
  | start server => exact ⟨trivial, by simp⟩
  | serve server _ ih => exact ih.step trivial (List.Subset.refl _)
  | begin depth req _ ih => exact ih.cons (keepsExcluded_stepProgram cfg depth req)
  | poll now _ ih => exact ih.poll now

/-- From a configuration whose steps in flight keep the excluded URIs, every later
configuration still excludes every URI excluded at the start.

**Proof sketch.** Induction on the run: a change of the server leaves the explorer alone, a new
step keeps its promises (`keepsExcluded_stepProgram`), and a poll moves the state by
`World.KeepsExcluded` (`Proc.Relied.rel_poll`) and keeps the steps relied. -/
lemma ReachableFrom.keepsExcluded (h₀ : Proc.Relied (fun _ => True) World.KeepsExcluded w₀ ps₀)
    (h : ReachableFrom cfg w₀ ps₀ w ps) :
    World.KeepsExcluded w₀ w ∧ Proc.Relied (fun _ => True) World.KeepsExcluded w ps := by
  induction h with
  | refl => exact ⟨refl_of World.KeepsExcluded w₀, h₀⟩
  | serve server _ ih => exact ⟨ih.1, ih.2.step trivial (List.Subset.refl _)⟩
  | begin depth req _ ih => exact ⟨ih.1, ih.2.cons (keepsExcluded_stepProgram cfg depth req)⟩
  | poll now _ ih => exact ⟨trans_of World.KeepsExcluded ih.1 (ih.2.rel_poll now), ih.2.poll now⟩

/-! ### Extrusion -/

/-- In every configuration the command can reach, an extrusion of `uri` removes the nodes
`Explorer.Extruded` says, each once (the node alone, or the cascade of the nodes it strands,
seeds spared, whatever the order of its worklist), with exactly the edges touching them, excludes
them and the node, takes the node out of the seeds, and ends with a relayout.  From any
reachable configuration with the explorer it leaves, in every later configuration, whatever the
interleaving of the steps in flight and of the steps started after it, resets included, the node
and every node removed are excluded and not plotted. -/
theorem extrude_excludes_cascade (h : Reachable cfg w ps) (uri : String) (isolated : Bool) :
    ∃ (removed : List String) (e₁ : Explorer), w.explorer.Extruded uri isolated removed e₁ ∧
      w.explorer.extrude uri isolated cfg.linkScale =
        (fun p => (removed, p.2)) <$> e₁.relayout cfg.linkScale ∧
      ∀ e₂, w.explorer.extrude uri isolated cfg.linkScale = .ok (removed, e₂) →
        ∀ w₀ ps₀ w' ps', Reachable cfg w₀ ps₀ → w₀.explorer = e₂ →
          ReachableFrom cfg w₀ ps₀ w' ps' → ∀ u, u = uri ∨ u ∈ removed →
            u ∈ w'.explorer.excluded ∧ w'.explorer.model.containsNode u = false := by
  obtain ⟨removed, e₁, hx, heq⟩ := Explorer.extrude_eq h.keeps.1 uri isolated cfg.linkScale
  refine ⟨removed, e₁, hx, heq, fun e₂ hok w₀ ps₀ w' ps' h₀ hw₀ hfrom u hu => ?_⟩
  -- the explorer the extrusion leaves excludes the node and every node removed
  have hu₂ : u ∈ e₂.excluded := by
    rw [heq] at hok
    obtain ⟨⟨n, e₃⟩, hr, he⟩ := Except.map_eq_ok.1 hok
    obtain ⟨-, rfl⟩ := Prod.mk.inj he
    rw [Explorer.excluded_relayout hr]
    exact (hx.excluded u).2 (hu.imp_right .inl)
  have hu' : u ∈ w'.explorer.excluded :=
    (hfrom.keepsExcluded h₀.reliedExcluded).1 (hw₀ ▸ hu₂)
  exact ⟨hu', (hfrom.reachable h₀).keeps.1.excluded_unplotted u hu'⟩

/-- After a sprawl of a person with a correspondent and a book, extruding the person with the
nodes it strands removes all three, the person first, and the extrusion there behaves as
`extrude_excludes_cascade` says. -/
theorem extrude_excludes_cascade_letters :
    (lettersWorld.explorer.extrude "/corpus/42/Person/p1" true
        ({} : ExplorerConfig).linkScale).toOption.map Prod.fst =
      some ["/corpus/42/Person/p1", "/corpus/42/Person/p2", "/corpus/42/Book/b1"] ∧
    ∃ ps, Reachable {} lettersWorld ps ∧
      ∃ (removed : List String) (e₁ : Explorer),
        lettersWorld.explorer.Extruded "/corpus/42/Person/p1" true removed e₁ ∧
        lettersWorld.explorer.extrude "/corpus/42/Person/p1" true ({} : ExplorerConfig).linkScale =
          (fun p => (removed, p.2)) <$> e₁.relayout ({} : ExplorerConfig).linkScale ∧
        ∀ e₂, lettersWorld.explorer.extrude "/corpus/42/Person/p1" true
            ({} : ExplorerConfig).linkScale = .ok (removed, e₂) →
          ∀ w₀ ps₀ w' ps', Reachable {} w₀ ps₀ → w₀.explorer = e₂ →
            ReachableFrom {} w₀ ps₀ w' ps' → ∀ u, u = "/corpus/42/Person/p1" ∨ u ∈ removed →
              u ∈ w'.explorer.excluded ∧ w'.explorer.model.containsNode u = false := by
  obtain ⟨ps, h⟩ := reachable_lettersWorld
  exact ⟨by decide +kernel, ps, h, extrude_excludes_cascade h "/corpus/42/Person/p1" true⟩

end Explore

end Command

end CorpusBench
