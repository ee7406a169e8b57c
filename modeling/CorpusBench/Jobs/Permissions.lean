import CorpusBench.Jobs.Job

/-!
# Permitted tasks

The tasks a scholar may run on a content type, on every jobsite that offers them.  A jobsite
lists tasks by id; an id with no task is skipped, and an id listed twice is offered twice.  The
offers are ordered by jobsite name, then task name, keeping the listing order among equals.

## Main definitions

* `PermittedTask` — a task offered on one jobsite.
* `permittedTasks`.

## Main results

* `permittedTasks_mayRun` — every offer is of a task the scholar may run.
-/

namespace CorpusBench

/-- A task offered on one jobsite. -/
structure PermittedTask where
  jobsiteId : String
  jobsiteName : String
  task : Task

namespace PermittedTask

def toJson (p : PermittedTask) : Json :=
  Json.mkObj [("jobsite_id", .str p.jobsiteId), ("jobsite_name", .str p.jobsiteName),
    ("task", p.task.toJson)]

/-- Whether `a` sorts no later than `b`: by jobsite name, then task name. -/
def inOrder (a b : PermittedTask) : Bool :=
  a.jobsiteName < b.jobsiteName || (a.jobsiteName == b.jobsiteName && !(b.task.name < a.task.name))

end PermittedTask

/-- The offers of one jobsite for a content type that the scholar may run. -/
def siteOffers (scholar : Scholar) (tasks : List Task) (contentType : String) (site : Jobsite) :
    List PermittedTask :=
  site.taskIds.filterMap fun taskId =>
    match tasks.find? (·.id == taskId) with
    | some task =>
      if task.contentType == contentType && scholar.mayRun task.id then
        some ⟨site.id, site.name, task⟩
      else none
    | none => none

/-- Every offer of a task for a content type that the scholar may run, in order. -/
def permittedTasks (scholar : Scholar) (jobsites : List Jobsite) (tasks : List Task)
    (contentType : String) : List PermittedTask :=
  (jobsites.flatMap (siteOffers scholar tasks contentType)).mergeSort PermittedTask.inOrder

theorem permittedTasks_mayRun (scholar : Scholar) (jobsites : List Jobsite) (tasks : List Task)
    (contentType : String) (p : PermittedTask)
    (h : p ∈ permittedTasks scholar jobsites tasks contentType) : scholar.mayRun p.task.id = true := by
  unfold permittedTasks at h
  have h' := (List.mem_mergeSort).mp h
  obtain ⟨site, _, hs⟩ := List.mem_flatMap.mp h'
  unfold siteOffers at hs
  obtain ⟨taskId, _, ht⟩ := List.mem_filterMap.mp hs
  split at ht
  · split at ht
    · cases ht
      rename_i hc
      exact (Bool.and_eq_true_iff.mp hc).2
    · cases ht
  · cases ht

end CorpusBench
