import Mathlib.Data.Finset.Basic
import ModuleGraph.Proofs.Frontier

/-!
# Operations on a frontier

A frontier keeps its pending paths as a list and compares paths by their components. Seen from
outside it is a simpler thing, a queue of jobs and the set of files ever queued, each file named
by its components (`SeenQueue`). This module states the operations a caller can make on a
frontier (queue a path, take a job, ask whether a path is pending, count or test the queue) and
proves that a frontier answers every sequence of them as that pair does, from the state its
seeding leaves.

Over a whole run the pair has a plain reading: the jobs taken off the queue followed by those
still queued are the seeded entries, then one job for each path first queued by the caller;
their paths are the first path of each file among everything seeded or queued, so no file is
taken twice; and a path is pending exactly when a path naming its file was seeded or queued.
-/

namespace ModuleGraph

/-- A queue of jobs and the files ever queued, each named by its components. -/
structure SeenQueue where
  queue : List Job
  seen : Finset (List Component)

namespace Frontier

/-- An operation a caller makes on a frontier. -/
inductive Op where
  | enqueue (p : Path)
  | pop
  | isPending (p : Path)
  | size
  | isEmpty

/-- What an operation answers. -/
inductive Answer where
  | queued (b : Bool)
  | popped (job : Option Job)
  | pending (b : Bool)
  | size (n : Nat)
  | empty (b : Bool)

/-- The job an answer hands out: the one a pop took, if there was one. -/
def Answer.job? : Answer → Option Job
  | popped j => j
  | _ => none

/-- The path an operation asks to queue. -/
def Op.enqueued? : Op → Option Path
  | enqueue p => some p
  | _ => none

/-- Makes one operation. -/
def apply (f : Frontier) : Op → Answer × Frontier
  | .enqueue p => ((.queued (f.enqueue p).1), (f.enqueue p).2)
  | .pop =>
    match f.pop with
    | some (j, g) => (.popped (some j), g)
    | none => (.popped none, f)
  | .isPending p => (.pending (f.isPending p), f)
  | .size => (.size f.size, f)
  | .isEmpty => (.empty f.isEmpty, f)

/-- Makes operations in order, collecting the answers. -/
def runOps (f : Frontier) : List Op → List Answer × Frontier
  | [] => ([], f)
  | op :: ops =>
    let (a, g) := f.apply op
    let (as, h) := g.runOps ops
    (a :: as, h)

/-- The pair a frontier stands for: its queue, and the files its pending paths name. -/
def abstract (f : Frontier) : SeenQueue := ⟨f.queue, (f.pending.map Path.components).toFinset⟩

end Frontier

namespace SeenQueue

/-- Makes one operation on the pair: a path is queued, with a job for it alone, only when its
file was never queued, and taking a job leaves the files seen as they are. -/
def apply (a : SeenQueue) : Frontier.Op → Frontier.Answer × SeenQueue
  | .enqueue p =>
    if p.components ∈ a.seen then (.queued false, a)
    else (.queued true, ⟨a.queue ++ [Job.ofPath p], insert p.components a.seen⟩)
  | .pop =>
    match a.queue with
    | [] => (.popped none, a)
    | j :: rest => (.popped (some j), ⟨rest, a.seen⟩)
  | .isPending p => (.pending (decide (p.components ∈ a.seen)), a)
  | .size => (.size a.queue.length, a)
  | .isEmpty => (.empty a.queue.isEmpty, a)

/-- Makes operations on the pair in order, collecting the answers. -/
def runOps (a : SeenQueue) : List Frontier.Op → List Frontier.Answer × SeenQueue
  | [] => ([], a)
  | op :: ops =>
    let (x, b) := a.apply op
    let (xs, c) := b.runOps ops
    (x :: xs, c)

end SeenQueue

/-- The first path of each file names the same files as all the paths. -/
theorem Path.components_unseen_toFinset (ps : List Path) :
    ((Path.unseen [] ps).map Path.components).toFinset = (ps.map Path.components).toFinset := by
  ext c
  simp only [List.mem_toFinset, List.mem_map]
  constructor
  · rintro ⟨q, hq, rfl⟩
    exact ⟨q, (Path.unseen_sublist [] ps).subset hq, rfl⟩
  · rintro ⟨q, hq, rfl⟩
    have h := Path.any_same_append_unseen_eq [] ps q
    simp only [List.nil_append] at h
    have hq' : ps.any (·.same q) = true := List.any_eq_true.mpr ⟨q, hq, Path.same_refl q⟩
    obtain ⟨x, hx, hxq⟩ := List.any_eq_true.mp (h.trans hq')
    exact ⟨x, hx, Path.same_iff.mp hxq⟩

namespace Frontier

/-- A path is pending exactly when its file is among those the pair has seen. -/
theorem isPending_eq_decide (f : Frontier) (p : Path) :
    f.isPending p = decide (p.components ∈ f.abstract.seen) := by
  unfold isPending abstract
  rw [Bool.eq_iff_iff, List.any_eq_true, decide_eq_true_iff, List.mem_toFinset, List.mem_map]
  constructor
  · rintro ⟨q, hq, hqp⟩
    exact ⟨q, hq, Path.same_iff.mp hqp⟩
  · rintro ⟨q, hq, hqp⟩
    exact ⟨q, hq, Path.same_iff.mpr hqp⟩

/-- **Step.** A frontier answers one operation as the pair it stands for, and moves to the pair
the operation leaves. -/
theorem apply_abstract (f : Frontier) (op : Op) :
    (f.apply op).1 = (f.abstract.apply op).1 ∧ (f.apply op).2.abstract = (f.abstract.apply op).2 := by
  cases op with
  | enqueue p =>
    by_cases hp : f.isPending p = true
    · have hseen : p.components ∈ f.abstract.seen := by
        simpa [isPending_eq_decide] using hp
      simp [apply, SeenQueue.apply, enqueue, hp, hseen]
    · have hseen : p.components ∉ f.abstract.seen := by
        simpa [isPending_eq_decide] using hp
      -- a new path joins the pending paths, and its file the files seen
      have hfiles : ((f.pending ++ [p]).map Path.components).toFinset =
          insert p.components (f.pending.map Path.components).toFinset := by
        ext c
        simp only [List.map_append, List.map_cons, List.map_nil, List.mem_toFinset,
          List.mem_append, List.mem_singleton, Finset.mem_insert]
        exact or_comm
      constructor
      · simp [apply, SeenQueue.apply, enqueue, hp, hseen]
      · simp only [apply, SeenQueue.apply, enqueue, hp, hseen, if_false, Bool.false_eq_true]
        simp only [abstract, hfiles]
  | pop =>
    cases hq : f.queue with
    | nil => simp [apply, SeenQueue.apply, pop, abstract, hq]
    | cons j rest => simp [apply, SeenQueue.apply, pop, abstract, hq]
  | isPending p => exact ⟨by simp [apply, SeenQueue.apply, isPending_eq_decide], rfl⟩
  | size => exact ⟨rfl, rfl⟩
  | isEmpty => exact ⟨rfl, rfl⟩

/-- **Run.** A frontier answers every sequence of operations as the pair it stands for. -/
theorem runOps_abstract (f : Frontier) (ops : List Op) :
    (f.runOps ops).1 = (f.abstract.runOps ops).1 ∧
      (f.runOps ops).2.abstract = (f.abstract.runOps ops).2 := by
  induction ops generalizing f with
  | nil => exact ⟨rfl, rfl⟩
  | cons op ops ih =>
    obtain ⟨ha, hs⟩ := apply_abstract f op
    obtain ⟨has, hss⟩ := ih (f.apply op).2
    simp only [runOps, SeenQueue.runOps]
    rw [ha, has, hss, hs]
    exact ⟨rfl, rfl⟩

/-- Over a run, the jobs taken followed by those left are the jobs queued before, then one for
each path the run queues: the first of each file not pending yet among the paths it asks to
queue. Those paths join the pending ones. -/
theorem runOps_popped (f : Frontier) (ops : List Op) :
    (f.runOps ops).1.filterMap Answer.job? ++ (f.runOps ops).2.queue =
        f.queue ++ (Path.unseen f.pending (ops.filterMap Op.enqueued?)).map Job.ofPath ∧
      (f.runOps ops).2.pending = f.pending ++ Path.unseen f.pending (ops.filterMap Op.enqueued?) := by
  induction ops generalizing f with
  | nil => simp [runOps, Path.unseen]
  | cons op ops ih =>
    cases op with
    | enqueue p =>
      obtain ⟨hq, hp⟩ := ih (f.enqueue p).2
      have hg : (f.enqueue p).2 = ⟨f.queue ++ (Path.unseen f.pending [p]).map Job.ofPath,
          f.pending ++ Path.unseen f.pending [p]⟩ := enqueueAll_eq f [p]
      simp only [runOps, apply, List.filterMap_cons, Answer.job?, Op.enqueued?]
      rw [hq, hp, hg, show p :: ops.filterMap Op.enqueued? = [p] ++ ops.filterMap Op.enqueued?
        from rfl, Path.unseen_append]
      simp
    | pop =>
      cases hf : f.queue with
      | nil =>
        have hpop : f.pop = none := by simp [pop, hf]
        obtain ⟨hq, hp⟩ := ih f
        simp only [runOps, apply, hpop, List.filterMap_cons, Answer.job?]
        rw [hq, hp, hf]
        exact ⟨rfl, rfl⟩
      | cons j rest =>
        have hpop : f.pop = some (j, { f with queue := rest }) := by simp [pop, hf]
        obtain ⟨hq, hp⟩ := ih { f with queue := rest }
        simp only [runOps, apply, hpop, List.filterMap_cons, Answer.job?]
        rw [List.cons_append, hq, hp]
        exact ⟨rfl, rfl⟩
    | isPending p =>
      simp only [runOps, apply, List.filterMap_cons, Answer.job?, Op.enqueued?]
      exact ih f
    | size =>
      simp only [runOps, apply, List.filterMap_cons, Answer.job?, Op.enqueued?]
      exact ih f
    | isEmpty =>
      simp only [runOps, apply, List.filterMap_cons, Answer.job?, Op.enqueued?]
      exact ih f

/-- Seeding holds the first entry of each file, in order, with its content and settings, and
has queued exactly their paths. -/
theorem seed_spec {entries : List Job} (hpaths : ∀ j ∈ entries, j.path.isSome) :
    ∃ f dropped, seed entries = .ok (f, dropped) ∧
      f.queue.map Job.key = Path.unseen [] (entries.filterMap Job.path) ∧
      (∀ j ∈ f.queue, j = jobOf entries j.key) ∧ f.pending = f.queue.map Job.key := by
  obtain ⟨js, hjs, hkeys, hjobs⟩ := addEntries_fst empty entries
  replace hjs : (addEntries empty entries).1 = ⟨js, js.map Job.key⟩ := by simpa [empty] using hjs
  replace hkeys : js.map Job.key = Path.unseen [] (entries.filterMap Job.path) := by
    simpa [empty] using hkeys
  refine ⟨(addEntries empty entries).1, (addEntries empty entries).2, ?_, ?_, ?_, ?_⟩
  · rw [seed_eq_ok hpaths]
  · rw [hjs, ← hkeys]
  · rw [hjs]
    exact hjobs
  · rw [hjs]

/-- **The frontier is a queue with a set of seen files.** Seeding a frontier with entries that
all have paths keeps, in order, the first entry of each file, with its content and settings.
From there, every sequence of operations is answered as the pair of that queue and the set of
the entries' files answers it, and leaves the pair it leaves. So the jobs taken off the queue
followed by those still queued are the seeded entries, then a job for the path alone for each
path first queued by the caller; their paths are the first of each file among all the paths
seeded or queued, so no file is taken twice; and a path is pending exactly when a path naming
its file was seeded or queued. -/
theorem seeded_runOps_is_seenQueue (entries : List Job) (hpaths : ∀ j ∈ entries, j.path.isSome)
    (ops : List Op) :
    ∃ f dropped, seed entries = .ok (f, dropped) ∧
      f.queue.map Job.key = Path.unseen [] (entries.filterMap Job.path) ∧
      (∀ j ∈ f.queue, j = jobOf entries j.key) ∧
      let a : SeenQueue := ⟨f.queue, ((entries.filterMap Job.path).map Path.components).toFinset⟩
      let r := f.runOps ops
      let popped := r.1.filterMap Answer.job?
      r.1 = (a.runOps ops).1 ∧ r.2.abstract = (a.runOps ops).2 ∧
        popped ++ r.2.queue =
          f.queue ++ (Path.unseen f.pending (ops.filterMap Op.enqueued?)).map Job.ofPath ∧
        (popped ++ r.2.queue).map Job.key =
          Path.unseen [] (entries.filterMap Job.path ++ ops.filterMap Op.enqueued?) ∧
        Path.Distinct (popped.map Job.key) ∧
        ∀ p, r.2.isPending p =
          (entries.filterMap Job.path ++ ops.filterMap Op.enqueued?).any (·.same p) := by
  obtain ⟨f, dropped, hseed, hkeys, hjobs, hpend⟩ := seed_spec hpaths
  refine ⟨f, dropped, hseed, hkeys, hjobs, ?_⟩
  intro a r popped
  have hpending : f.pending = Path.unseen [] (entries.filterMap Job.path) := hpend.trans hkeys
  -- the seeded frontier stands for the pair of its queue and the entries' files
  have ha : f.abstract = a := by
    unfold abstract
    rw [hpending, Path.components_unseen_toFinset]
  obtain ⟨hanswers, hstate⟩ := runOps_abstract f ops
  obtain ⟨hqueue, hpend'⟩ := runOps_popped f ops
  have hkeys' : (popped ++ r.2.queue).map Job.key =
      Path.unseen [] (entries.filterMap Job.path ++ ops.filterMap Op.enqueued?) := by
    rw [hqueue, List.map_append, List.map_map, Function.comp_def]
    simp only [Job.key_ofPath, List.map_id']
    rw [hkeys, ← hpending, Path.unseen_append, hpending]
    simp
  refine ⟨by rw [hanswers, ha], by rw [hstate, ha], hqueue, hkeys', ?_, ?_⟩
  · -- the paths ever queued name pairwise different files, and those taken come first
    have hd : Path.Distinct ((popped ++ r.2.queue).map Job.key) := by
      rw [hkeys']
      simpa using Path.Distinct.append_unseen (List.Pairwise.nil : Path.Distinct []) _
    rw [List.map_append] at hd
    exact List.Pairwise.sublist (List.sublist_append_left _ _) hd
  · intro p
    unfold isPending
    rw [hpend', Path.any_same_append_unseen_eq, hpending, List.any_append, List.any_append]
    have h := Path.any_same_append_unseen_eq [] (entries.filterMap Job.path) p
    simp only [List.nil_append] at h
    rw [h]

/-- Entries naming one file twice, then a caller queueing a seeded file and a new one, taking a
job and asking about the new file. -/
theorem seeded_runOps_is_seenQueue_on_a_repeated_entry :
    let entries : List Job :=
      [Job.ofPath ⟨"/a.js"⟩, Job.ofPath ⟨"/b.js"⟩, ⟨some ⟨"/a//a.js"⟩, some "x", []⟩]
    let ops : List Op := [.enqueue ⟨"/b.js"⟩, .enqueue ⟨"/c.js"⟩, .pop, .isPending ⟨"/./c.js"⟩]
    (∀ j ∈ entries, j.path.isSome) ∧
      ∃ f dropped, seed entries = .ok (f, dropped) ∧
        f.queue.map Job.key = Path.unseen [] (entries.filterMap Job.path) ∧
        (∀ j ∈ f.queue, j = jobOf entries j.key) ∧
        let a : SeenQueue :=
          ⟨f.queue, ((entries.filterMap Job.path).map Path.components).toFinset⟩
        let r := f.runOps ops
        let popped := r.1.filterMap Answer.job?
        r.1 = (a.runOps ops).1 ∧ r.2.abstract = (a.runOps ops).2 ∧
          popped ++ r.2.queue =
            f.queue ++ (Path.unseen f.pending (ops.filterMap Op.enqueued?)).map Job.ofPath ∧
          (popped ++ r.2.queue).map Job.key =
            Path.unseen [] (entries.filterMap Job.path ++ ops.filterMap Op.enqueued?) ∧
          Path.Distinct (popped.map Job.key) ∧
          ∀ p, r.2.isPending p =
            (entries.filterMap Job.path ++ ops.filterMap Op.enqueued?).any (·.same p) :=
  ⟨by decide, seeded_runOps_is_seenQueue
    [Job.ofPath ⟨"/a.js"⟩, Job.ofPath ⟨"/b.js"⟩, ⟨some ⟨"/a//a.js"⟩, some "x", []⟩]
    (by decide) [.enqueue ⟨"/b.js"⟩, .enqueue ⟨"/c.js"⟩, .pop, .isPending ⟨"/./c.js"⟩]⟩

end Frontier

end ModuleGraph
