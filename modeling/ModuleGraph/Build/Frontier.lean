import ModuleGraph.Build.Job

/-!
# The frontier of a build

The frontier holds the jobs still to handle, first in first out, and every path that was
ever queued. Paths are compared by their components. A path is queued at most once per
build: taking a job off the queue does not make its path new again.

Seeding the frontier with the caller's entries fails at the first entry without a path.
Otherwise the entries are queued in order, and an entry whose path was queued already is
dropped with its content and settings.
-/

namespace ModuleGraph

/-- Jobs still to handle, and every path ever queued. -/
structure Frontier where
  queue : List Job
  pending : List Path
  deriving Inhabited

/-- An entry without a path, given by its position among the entries. -/
structure MissingPath where
  index : Nat
  deriving DecidableEq, Repr

/-- The text of the error. -/
def MissingPath.message (e : MissingPath) : String :=
  "Entry unit #" ++ toString e.index ++
    " has no path: every file passed to the compiler must set its `filename` option"

namespace Frontier

/-- The empty frontier. -/
def empty : Frontier := ⟨[], []⟩

/-- Whether a path was ever queued. -/
def isPending (f : Frontier) (p : Path) : Bool := f.pending.any (·.same p)

/-- Queues a file found while building, unless its path was queued before; says whether
it was queued. -/
def enqueue (f : Frontier) (p : Path) : Bool × Frontier :=
  if f.isPending p then (false, f) else (true, ⟨f.queue ++ [Job.ofPath p], f.pending ++ [p]⟩)

@[simp] theorem enqueue_fst (f : Frontier) (p : Path) : (f.enqueue p).1 = !f.isPending p := by
  unfold enqueue; split <;> simp_all

theorem queue_enqueue (f : Frontier) (p : Path) :
    (f.enqueue p).2.queue = if f.isPending p then f.queue else f.queue ++ [Job.ofPath p] := by
  unfold enqueue; split <;> simp_all

theorem isPending_enqueue (f : Frontier) (p q : Path) :
    (f.enqueue p).2.isPending q = (f.isPending q || p.same q) := by
  unfold enqueue
  by_cases h : f.isPending p = true
  · rw [if_pos h]
    cases hs : p.same q
    · simp
    · have hq : f.isPending q = true := by
        unfold isPending at h ⊢
        rw [List.any_eq_true] at h ⊢
        obtain ⟨r, hr, hrp⟩ := h
        exact ⟨r, hr, Path.same_trans hrp hs⟩
      simp [hq]
  · rw [if_neg h]
    simp [isPending, List.any_append]

/-- Takes the first job off the queue. Its path stays pending. -/
def pop (f : Frontier) : Option (Job × Frontier) :=
  match f.queue with
  | [] => none
  | j :: rest => some (j, { f with queue := rest })

theorem pop_eq_some {f : Frontier} {j : Job} {g : Frontier} (h : f.pop = some (j, g)) :
    f.queue = j :: g.queue ∧ g.pending = f.pending := by
  unfold pop at h
  split at h
  · cases h
  · cases h; simp_all

/-- The number of jobs still queued. -/
def size (f : Frontier) : Nat := f.queue.length

/-- Whether no job is left. -/
def isEmpty (f : Frontier) : Bool := f.queue.isEmpty

/-- The position of the first entry without a path. -/
def firstMissing (entries : List Job) : Option Nat :=
  entries.findIdx? fun j => j.path.isNone

/-- Adds entries in order; an entry whose path is already pending is dropped and
reported. -/
def addEntries : Frontier → List Job → Frontier × List Path
  | f, [] => (f, [])
  | f, j :: rest =>
    match j.path with
    | none => addEntries f rest
    | some p =>
      if f.isPending p then
        let (g, dropped) := addEntries f rest
        (g, p :: dropped)
      else addEntries ⟨f.queue ++ [j], f.pending ++ [p]⟩ rest

/-- The frontier seeded with the caller's entries, with the paths of the entries dropped
as duplicates. -/
def seed (entries : List Job) : Except MissingPath (Frontier × List Path) :=
  match firstMissing entries with
  | some i => .error ⟨i⟩
  | none => .ok (addEntries empty entries)

end Frontier

end ModuleGraph
