import CorpusBench.Error

/-!
# Programs over a shared state, and their scheduler

The engines that talk to a server (the graph explorer, the content table, the job manager)
run their operations as programs over one shared state: each step of such a program reads
the state, replaces it, sleeps for some virtual milliseconds, waits until a condition on the
state holds, or runs several programs side by side and continues with all their results.

A `Proc σ α` is such a program, written as a tree whose continuations are functions.  The
scheduler runs it on one thread with a virtual clock:

* a *poll* walks the tree once, at the current instant, and runs every part that can run,
  the children of a fork in list order, each until it sleeps, waits on a condition that does
  not hold, or ends;
* polls repeat while something moved; when nothing can move, the clock jumps to the earliest
  wake-up and polling goes on.

This is exactly how one thread drives futures joined together: children of a join are polled
in list order, a child that never sleeps runs to its end before the next one starts, and
wake-ups at one instant resume in list order.

## Main definitions

* `Proc` — programs, with their `Monad` instance.
* `Proc.joinAll` — run programs side by side.
* `Proc.zoom` — run a program over a part of a larger state.
* `Proc.poll` — one pass of the scheduler at an instant.
* `Proc.runFrom` — run a program to its end, with explicit fuel.
* `FairLock` — the tickets handed out and the ticket being served.
* `FairLock.acquire`, `FairLock.release` — programs over any state
  that holds a lock.

## Design

`Proc` lives in `Type 1`: a fork holds children whose result type is its own.  The children of
a fork form the inductive list `Procs`, defined together with `Proc`.  A single poll recurses
only into subterms, so it is structural; only the loop of polls needs fuel.
-/

namespace CorpusBench

mutual
/-- A program over a shared state `σ` with result `α`. -/
inductive Proc (σ : Type) : Type → Type 1 where
  /-- Finished with a result. -/
  | done {α : Type} (a : α) : Proc σ α
  /-- Aborted; the abort ends every program that runs side by side with this one. -/
  | halt {α : Type} (abort : Abort) : Proc σ α
  /-- Look at the shared state. -/
  | read {α : Type} (k : σ → Proc σ α) : Proc σ α
  /-- Replace the shared state. -/
  | write {α : Type} (s : σ) (next : Proc σ α) : Proc σ α
  /-- Sleep for a number of virtual milliseconds. -/
  | sleep {α : Type} (ms : Nat) (next : Proc σ α) : Proc σ α
  /-- Sleeping until the virtual clock reads `time`; a sleep becomes this when it starts. -/
  | sleepUntil {α : Type} (time : Nat) (next : Proc σ α) : Proc σ α
  /-- Wait until the state satisfies a condition. -/
  | await {α : Type} (ready : σ → Bool) (next : Proc σ α) : Proc σ α
  /-- Run the children side by side and continue with their results, in order. -/
  | fork {α β : Type} (children : Procs σ β) (k : List β → Proc σ α) : Proc σ α

/-- The children of a fork. -/
inductive Procs (σ : Type) : Type → Type 1 where
  | nil {β : Type} : Procs σ β
  | cons {β : Type} (p : Proc σ β) (rest : Procs σ β) : Procs σ β
end

namespace Procs

variable {σ β : Type}

/-- The children of a list of programs. -/
def ofList : List (Proc σ β) → Procs σ β
  | [] => .nil
  | p :: ps => .cons p (ofList ps)

/-- The first abort among the children, if one aborted. -/
def firstHalt : Procs σ β → Option Abort
  | .nil => none
  | .cons (.halt a) _ => some a
  | .cons _ rest => firstHalt rest

/-- The results of the children, once every one has finished. -/
def results : Procs σ β → Option (List β)
  | .nil => some []
  | .cons (.done b) rest => (b :: ·) <$> results rest
  | .cons _ _ => none

end Procs

namespace Proc

variable {σ : Type}

/-- Sequencing: run `p`, then the program its result chooses. -/
def bind {α β : Type} : Proc σ α → (α → Proc σ β) → Proc σ β
  | .done a, f => f a
  | .halt h, _ => .halt h
  | .read k, f => .read (fun s => bind (k s) f)
  | .write s n, f => .write s (bind n f)
  | .sleep ms n, f => .sleep ms (bind n f)
  | .sleepUntil t n, f => .sleepUntil t (bind n f)
  | .await r n, f => .await r (bind n f)
  | .fork cs k, f => .fork cs (fun rs => bind (k rs) f)

instance : Monad (Proc σ) where
  pure := Proc.done
  bind := Proc.bind

/-- The shared state. -/
def get : Proc σ σ := .read .done

/-- Replace the shared state. -/
def set (s : σ) : Proc σ Unit := .write s (.done ())

/-- Change the shared state in one step, with a result. -/
def modifyGet {α : Type} (f : σ → α × σ) : Proc σ α :=
  .read fun s => let (a, s') := f s; .write s' (.done a)

/-- Change the shared state in one step. -/
def modify (f : σ → σ) : Proc σ Unit := .read fun s => .write (f s) (.done ())

/-- A value computed from the shared state. -/
def gets {α : Type} (f : σ → α) : Proc σ α := .read fun s => .done (f s)

/-- Sleep for `ms` virtual milliseconds. -/
def pause (ms : Nat) : Proc σ Unit := .sleep ms (.done ())

/-- Wait until the state satisfies `ready`. -/
def waitFor (ready : σ → Bool) : Proc σ Unit := .await ready (.done ())

/-- Abort the run. -/
def abort {α : Type} (a : Abort) : Proc σ α := .halt a

/-- A result that may abort. -/
def ofAbort {α : Type} : Except Abort α → Proc σ α
  | .ok a => .done a
  | .error a => .halt a

/-- Run programs side by side; the results come in the order of the programs. -/
def joinAll {β : Type} (ps : List (Proc σ β)) : Proc σ (List β) := .fork (Procs.ofList ps) .done

mutual
/-- Run a program over a part of a larger state: `view` picks the part out, `update` puts a new
part back. -/
def zoom {τ α : Type} (view : σ → τ) (update : τ → σ → σ) : Proc τ α → Proc σ α
  | .done a => .done a
  | .halt h => .halt h
  | .read k => .read fun s => zoom view update (k (view s))
  | .write t n => .read fun s => .write (update t s) (zoom view update n)
  | .sleep ms n => .sleep ms (zoom view update n)
  | .sleepUntil t n => .sleepUntil t (zoom view update n)
  | .await r n => .await (fun s => r (view s)) (zoom view update n)
  | .fork cs k => .fork (zoomAll view update cs) (fun rs => zoom view update (k rs))

/-- `zoom` on every child of a fork. -/
def zoomAll {τ β : Type} (view : σ → τ) (update : τ → σ → σ) : Procs τ β → Procs σ β
  | .nil => .nil
  | .cons c cs => .cons (zoom view update c) (zoomAll view update cs)
end

mutual
/-- One pass at the instant `now`: run every part of the program that can run, children of a
fork in order.  The flag says whether anything moved. -/
def poll {α : Type} (now : Nat) : Proc σ α → σ → Proc σ α × σ × Bool
  | .done a, s => (.done a, s, false)
  | .halt h, s => (.halt h, s, false)
  | .read k, s => let (p, s', _) := poll now (k s) s; (p, s', true)
  | .write s' n, _ => let (p, s'', _) := poll now n s'; (p, s'', true)
  | .sleep ms n, s => (.sleepUntil (now + ms) n, s, true)
  | .sleepUntil t n, s =>
    if t ≤ now then let (p, s', _) := poll now n s; (p, s', true) else (.sleepUntil t n, s, false)
  | .await r n, s =>
    if r s then let (p, s', _) := poll now n s; (p, s', true) else (.await r n, s, false)
  | .fork cs k, s =>
    let (cs', s', moved) := pollAll now cs s
    match cs'.firstHalt with
    | some h => (.halt h, s', true)
    | none =>
      match cs'.results with
      | some rs => let (p, s'', _) := poll now (k rs) s'; (p, s'', true)
      | none => (.fork cs' k, s', moved)

/-- One pass over the children of a fork, in order; an abort stops the pass. -/
def pollAll {β : Type} (now : Nat) : Procs σ β → σ → Procs σ β × σ × Bool
  | .nil, s => (.nil, s, false)
  | .cons c cs, s =>
    match poll now c s with
    | (.halt h, s1, _) => (.cons (.halt h) cs, s1, true)
    | (c', s1, m1) =>
      let (cs', s2, m2) := pollAll now cs s1
      (.cons c' cs', s2, m1 || m2)
end

mutual
/-- The earliest instant at which a sleeping part of the program wakes. -/
def nextWake {α : Type} : Proc σ α → Option Nat
  | .sleepUntil t _ => some t
  | .fork cs _ => nextWakeAll cs
  | _ => none

/-- The earliest wake-up among the children of a fork. -/
def nextWakeAll {β : Type} : Procs σ β → Option Nat
  | .nil => none
  | .cons c cs =>
    match nextWake c, nextWakeAll cs with
    | some a, some b => some (min a b)
    | some a, none => some a
    | none, b => b
end

end Proc

/-- How a run of a program ends. -/
inductive Ending (σ α : Type) where
  /-- The program finished with a result, a final state and the clock at its end. -/
  | finished (a : α) (s : σ) (clock : Nat)
  /-- The program aborted. -/
  | halted (abort : Abort)
  /-- Nothing can move and nothing sleeps, or the fuel ran out. -/
  | stalled

namespace Proc

variable {σ : Type}

/-- Run a program from the instant `now`: poll while something moves, and jump the clock to the
next wake-up when nothing does.  Each poll uses one unit of fuel. -/
def runFrom {α : Type} : Nat → Nat → Proc σ α → σ → Ending σ α
  | 0, _, _, _ => .stalled
  | fuel + 1, now, p, s =>
    match poll now p s with
    | (.done a, s', _) => .finished a s' now
    | (.halt h, _, _) => .halted h
    | (p', s', true) => runFrom fuel now p' s'
    | (p', s', false) =>
      match nextWake p' with
      | some t => runFrom fuel (max t now) p' s'
      | none => .stalled

/-- Enough polls for every run the engines make: each poll either moves a program or advances
the clock to a wake-up, and the engines' programs are far shorter than this. -/
def standardFuel : Nat := 1000000

/-- Run a program that never sleeps or waits: its single poll runs it to its end. -/
def runNow {α : Type} (p : Proc σ α) (s : σ) : Ending σ α := runFrom standardFuel 0 p s

end Proc

/-! ### A fair lock

A lock that serves waiters in the order they asked, by tickets: asking takes the next ticket,
and the holder is the ticket being served; releasing serves the next ticket.  A program that
asks for a free lock gets it at once, without giving way to others. -/

/-- A lock serving its waiters in order. -/
structure FairLock where
  /-- The number of tickets handed out. -/
  issued : Nat := 0
  /-- The ticket being served. -/
  serving : Nat := 0

namespace FairLock

/-- Whether nobody holds or waits for the lock. -/
def isFree (l : FairLock) : Bool := l.issued == l.serving

variable {σ : Type}

/-- Take a ticket and wait until it is served. -/
def acquire (view : σ → FairLock) (update : FairLock → σ → σ) : Proc σ Unit := do
  let ticket ← Proc.modifyGet fun s =>
    let l := view s
    (l.issued, update { l with issued := l.issued + 1 } s)
  Proc.waitFor fun s => (view s).serving == ticket

/-- Serve the next ticket. -/
def release (view : σ → FairLock) (update : FairLock → σ → σ) : Proc σ Unit :=
  Proc.modify fun s => let l := view s; update { l with serving := l.serving + 1 } s

end FairLock

end CorpusBench
