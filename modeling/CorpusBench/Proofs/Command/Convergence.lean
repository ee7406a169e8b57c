import CorpusBench.Proofs.Command.Freshness

/-!
# Repeated sprawls from any reachable configuration

In every configuration the explorer command reaches over a server whose relationships join
plain URIs, the explorer is well formed and the ids its model has taken are plain
(`Command.Explore.ReachableOver.plainGraph`): every answer merged is about a plain URI, so its
edges join plain URIs, and the settle pass and extrusions keep the ids plain.  So from any such
configuration, sprawling a node `k` times in a row plots the first `k` pages of its
neighbourhood (`World.sprawlRepeatedly_plots_first_pages`).

## Main results

* `Command.Explore.ReachableOver.plainGraph` — the invariant the repeated sprawls need holds of
  every reachable configuration.
* `Command.Explore.sprawls_plot_first_pages`.
-/

namespace CorpusBench

namespace Command

namespace Explore

variable {cfg : ExplorerConfig} {s : Server} {w : World Server}
  {ps : List (Proc (World Server) Json)}

/-- In every configuration reachable over a server whose relationships join plain URIs, the
explorer is well formed and the ids its model has taken are plain. -/
lemma ReachableOver.plainGraph (h : ReachableOver cfg s w ps) (hs : s.PlainLinks) :
    w.explorer.WellFormed ∧ w.explorer.model.PlainIds w.explorer.excluded :=
  ⟨h.relied.1.wellFormed, h.relied.1.plainIds hs⟩

/-- From any configuration the command reaches over its server, sprawling a node `k` times, one
sprawl after the other with nothing in between, finishes and plots the first `k` pages of its
neighbourhood: every neighbour the server shows it at a position below `k` pages in its group is
plotted and joined to it, one way or the other, unless it is excluded.

The node is a plain URI with no empty part, sprawled by its canonical text; the server's
relationships join plain URIs, and it neither fails the node's requests nor answers them after
the sprawl deadline; the node is not excluded and is unplotted or has its cursor at `0`; the
cursor stays within its word. -/
theorem sprawls_plot_first_pages (cfg : ExplorerConfig) (w : World Server)
    (ps : List (Proc (World Server) Json)) (hreach : ReachableOver cfg w.source w ps)
    (u : ContentUri) (k : Nat) (hsrv : w.source.PlainLinks) (hu : u.Plain)
    (hparts : u.corpusId ≠ "" ∧ u.contentType ≠ "" ∧ u.contentId ≠ "")
    (hfail : u.render ∉ w.source.failing)
    (hdelay : ∀ d, w.source.networkDelay = some d → d ≤ cfg.sprawlTimeout)
    (hex : u.render ∉ w.explorer.excluded)
    (hstart : ∀ n, w.explorer.model.node? u.render = some n → n.skip = 0)
    (hroom : k * ((cfg.maxResprawls + 1) * w.explorer.perTypeLimit) ≤ u32Max) :
    Proc.Total (World.sprawlRepeatedly Server.networkAnswer cfg u.render k) (fun _ w' =>
      ∀ ct xs, (ct, xs) ∈ w.source.visibleNeighbors u (w.explorer.query 0 {}) →
        ∀ i (hi : i < xs.length), i < k * w.explorer.perTypeLimit →
          xs[i].1.render ∉ w.explorer.excluded →
          w'.explorer.model.containsNode xs[i].1.render = true ∧
            w'.explorer.model.Joined u.render xs[i].1.render) w := by
  obtain ⟨hwf, hids⟩ := hreach.plainGraph hsrv
  exact World.sprawlRepeatedly_plots_first_pages cfg w u k hsrv hu hparts hfail hdelay hwf hids
    hex hstart hroom

/-- A book with three chapters. -/
def bookOfThree : Server :=
  { records := [("Book", [("b1", { id := "b1" })]),
      ("Chapter", [("c1", { id := "c1" }), ("c2", { id := "c2" }), ("c3", { id := "c3" })])],
    links := [⟨⟨"42", "Book", "b1"⟩, ⟨"42", "Chapter", "c1"⟩, "chapters"⟩,
      ⟨⟨"42", "Book", "b1"⟩, ⟨"42", "Chapter", "c2"⟩, "chapters"⟩,
      ⟨⟨"42", "Book", "b1"⟩, ⟨"42", "Chapter", "c3"⟩, "chapters"⟩] }

/-- An explorer showing two neighbours of each type a page, over `bookOfThree`, after a sprawl of
the first chapter, started as a step of the command and polled once: the chapter and its book
are plotted. -/
def chapterSprawled : World Server :=
  (Proc.poll 0 (stepProgram { perTypeLimit := 2 } 0
      (.obj [("op", .str "sprawl"), ("uri", .str "/corpus/42/Chapter/c1")]))
    ⟨Explorer.start { perTypeLimit := 2 }, bookOfThree⟩).2.1

/-- After the first chapter was sprawled, the book is on screen with its cursor at `0`, and two
sprawls of the book plot every chapter the server shows it. -/
theorem two_sprawls_plot_book_chapters :
    chapterSprawled.explorer.model.containsNode (ContentUri.mk "42" "Book" "b1").render = true ∧
    Proc.Total (World.sprawlRepeatedly Server.networkAnswer { perTypeLimit := 2 }
      (ContentUri.mk "42" "Book" "b1").render 2) (fun _ w' =>
      ∀ ct xs, (ct, xs) ∈ chapterSprawled.source.visibleNeighbors ⟨"42", "Book", "b1"⟩
          (chapterSprawled.explorer.query 0 {}) →
        ∀ i (hi : i < xs.length), i < 2 * chapterSprawled.explorer.perTypeLimit →
          xs[i].1.render ∉ chapterSprawled.explorer.excluded →
          w'.explorer.model.containsNode xs[i].1.render = true ∧
            w'.explorer.model.Joined (ContentUri.mk "42" "Book" "b1").render xs[i].1.render)
      chapterSprawled := by
  have hop : Args.str (.obj [("op", .str "sprawl"), ("uri", .str "/corpus/42/Chapter/c1")]) "op" ≠
      .ok "set_per_type_limit" := fun h => absurd (congrArg Except.toOption h) (by decide +kernel)
  have h₀ : ReachableOver { perTypeLimit := 2 } bookOfThree chapterSprawled _ :=
    @ReachableOver.poll _ _ _ [] [] _ 0 (.begin _ hop (.start bookOfThree rfl))
  -- the server after the sprawl answers as before, and only its log grew
  have hreach : ReachableOver { perTypeLimit := 2 } chapterSprawled.source chapterSprawled _ :=
    @ReachableOver.poll _ _ _ [] [] _ 0 (.begin _ hop (.start bookOfThree h₀.relied.1.answers.symm))
  have hdelay : chapterSprawled.source.networkDelay = none := by decide +kernel
  have hskip : (chapterSprawled.explorer.model.node? (ContentUri.mk "42" "Book" "b1").render).map
      Node.skip = some 0 := by decide +kernel
  refine ⟨by decide +kernel, sprawls_plot_first_pages { perTypeLimit := 2 } chapterSprawled _
    hreach ⟨"42", "Book", "b1"⟩ 2 (by decide +kernel) (by decide +kernel) (by decide +kernel)
    (by decide +kernel) (fun d h => by rw [hdelay] at h; cases h) (by decide +kernel)
    (fun n hn => ?_) (by decide +kernel)⟩
  rw [hn] at hskip
  exact Option.some.inj hskip

end Explore

end Command

end CorpusBench
