import ModuleGraph.Build.Discovery

/-!
# The frontier as a breadth-first queue

A build's frontier is the queue of a breadth-first search over paths compared by their
components. This module says so in the search's own terms: `Path.unseen seen ps` is what
the search appends when it meets the paths `ps` with the paths `seen` queued before, and
each way a build touches its frontier (seeding it with the entries, queueing what one file
references, replaying the references a stored result keeps) appends exactly that.

Two facts carry the rest. A path is queued at most once, so the paths ever queued name
pairwise different files (`Path.Distinct`). And every dependency a file has registered is
pending already, so the test against the file's dependencies in `Discovery.register`
never changes what is queued: registering a reference is queueing the path it resolves to.

The shape a pass keeps its frontier in is `Frontier.Wf`: the paths taken off the queue, then
those still queued, are pending and name different files, and each queued job is the one the
entries give for its path.
-/

namespace ModuleGraph

namespace Path

/-- Paths that name pairwise different files. -/
def Distinct (ps : List Path) : Prop := ps.Pairwise fun p q => p.same q = false

/-- Paths naming pairwise different files are pairwise different. -/
theorem Distinct.nodup {ps : List Path} (h : Distinct ps) : ps.Nodup := by
  refine List.Pairwise.imp ?_ h
  intro p q hpq heq
  rw [heq, same_refl] at hpq
  cases hpq

/-- Paths naming pairwise different files have pairwise different components. -/
theorem Distinct.nodup_components {ps : List Path} (h : Distinct ps) : (ps.map components).Nodup := by
  refine List.pairwise_map.mpr (h.imp ?_)
  intro p q hpq heq
  rw [same_iff.mpr heq] at hpq
  cases hpq

/-- The paths of `ps` that name no file of `seen`, in order, each one counted as seen once
it is taken: what a breadth-first search appends to its queue when it meets `ps`. -/
def unseen (seen : List Path) : List Path → List Path
  | [] => []
  | p :: ps => if seen.any (·.same p) then unseen seen ps else p :: unseen (seen ++ [p]) ps

theorem any_same_trans {seen : List Path} {p q : Path} (h : seen.any (·.same p) = true)
    (hpq : p.same q = true) : seen.any (·.same q) = true := by
  obtain ⟨r, hr, hrp⟩ := List.any_eq_true.mp h
  exact List.any_eq_true.mpr ⟨r, hr, same_trans hrp hpq⟩

/-- What the search appends names no file it had seen. -/
theorem any_same_of_mem_unseen {seen ps : List Path} {q : Path} (h : q ∈ unseen seen ps) :
    seen.any (·.same q) = false := by
  induction ps generalizing seen with
  | nil => simp [unseen] at h
  | cons p ps ih =>
    unfold unseen at h
    split at h
    · exact ih h
    · rename_i hp
      rcases List.mem_cons.mp h with rfl | h
      · simpa using hp
      · have hq := ih h
        simp only [List.any_append, Bool.or_eq_false_iff] at hq
        exact hq.1

/-- What the search appends keeps the paths it has seen pairwise different. -/
theorem Distinct.append_unseen {seen : List Path} (h : Distinct seen) (ps : List Path) :
    Distinct (seen ++ unseen seen ps) := by
  induction ps generalizing seen with
  | nil => simpa [unseen] using h
  | cons p ps ih =>
    unfold unseen
    split
    · exact ih h
    · rename_i hp
      have hfresh : ∀ a ∈ seen, a.same p = false := by
        intro a ha
        simp only [List.any_eq_true, not_exists, not_and] at hp
        simpa using hp a ha
      have hseen : Distinct (seen ++ [p]) :=
        List.pairwise_append.mpr ⟨h, List.pairwise_singleton _ _,
          fun a ha b hb => by rw [List.mem_singleton.mp hb]; exact hfresh a ha⟩
      simpa using ih hseen

/-- Whatever the search meets it has seen afterwards. -/
theorem any_same_append_unseen (seen : List Path) {ps : List Path} {p : Path} (hp : p ∈ ps) :
    (seen ++ unseen seen ps).any (·.same p) = true := by
  induction ps generalizing seen with
  | nil => simp at hp
  | cons q ps ih =>
    unfold unseen
    split
    · rename_i hq
      rcases List.mem_cons.mp hp with rfl | hp
      · simp only [List.any_append, hq, Bool.true_or]
      · exact ih seen hp
    · rcases List.mem_cons.mp hp with rfl | hp
      · simp
      · simpa using ih (seen ++ [q]) hp

/-- The search appends only paths it meets. -/
theorem unseen_sublist (seen ps : List Path) : (unseen seen ps).Sublist ps := by
  induction ps generalizing seen with
  | nil => exact List.Sublist.slnil
  | cons p ps ih =>
    unfold unseen
    split
    · exact (ih seen).cons p
    · exact (ih (seen ++ [p])).cons_cons p

/-- The seen paths and what the search appends name the same files as the seen paths and all
the paths it meets. -/
theorem any_same_append_unseen_eq (seen ps : List Path) (q : Path) :
    (seen ++ unseen seen ps).any (·.same q) = (seen ++ ps).any (·.same q) := by
  induction ps generalizing seen with
  | nil => simp [unseen]
  | cons p ps ih =>
    unfold unseen
    split
    · -- a path met again names a file already seen
      rename_i hp
      rw [ih]
      by_cases hpq : p.same q = true
      · have hq : seen.any (·.same q) = true := any_same_trans hp hpq
        simp [List.any_append, hq]
      · simp [List.any_append, hpq]
    · have h := ih (seen ++ [p])
      simp only [List.append_assoc, List.singleton_append] at h
      exact h

/-- The search reads its seen paths only through the files they name. -/
theorem unseen_congr {seen seen' : List Path}
    (h : ∀ q, seen.any (·.same q) = seen'.any (·.same q)) (ps : List Path) :
    unseen seen ps = unseen seen' ps := by
  induction ps generalizing seen seen' with
  | nil => rfl
  | cons p ps ih =>
    have h' : ∀ q, (seen ++ [p]).any (·.same q) = (seen' ++ [p]).any (·.same q) := by
      intro q
      simp [List.any_append, h q]
    unfold unseen
    rw [h p, ih h, ih h']

/-- Meeting two lists is meeting the first, then the second with what the first added seen. -/
theorem unseen_append (seen xs ys : List Path) :
    unseen seen (xs ++ ys) = unseen seen xs ++ unseen (seen ++ unseen seen xs) ys := by
  induction xs generalizing seen with
  | nil => simp [unseen]
  | cons x xs ih =>
    by_cases hx : seen.any (·.same x) = true
    · simp only [List.cons_append, unseen, hx, if_true]
      exact ih seen
    · simp only [List.cons_append, unseen, hx, Bool.false_eq_true, if_false]
      rw [ih (seen ++ [x])]
      simp [List.append_assoc]

/-- What the search appends after `seen` is the first path of each file among those it meets,
less the files of `seen`. -/
theorem unseen_eq_filter (seen ps : List Path) :
    unseen seen ps = (unseen [] ps).filter fun q => !seen.any (·.same q) := by
  -- the first-of-each-file list is built with its own seen paths, `first`
  suffices h : ∀ first, unseen (seen ++ first) ps =
      (unseen first ps).filter fun q => !seen.any (·.same q) by
    simpa using h []
  induction ps with
  | nil => simp [unseen]
  | cons p ps ih =>
    intro first
    by_cases hfirst : first.any (·.same p) = true
    · have hboth : (seen ++ first).any (·.same p) = true := by
        simp [List.any_append, hfirst]
      simp only [unseen, hboth, hfirst, if_true]
      exact ih first
    · simp only [Bool.not_eq_true] at hfirst
      by_cases hseen : seen.any (·.same p) = true
      · -- a path of a file already seen is dropped by the filter, and seeing it adds nothing
        have hboth : (seen ++ first).any (·.same p) = true := by
          simp [List.any_append, hseen]
        have hsame : ∀ q, (seen ++ (first ++ [p])).any (·.same q) =
            (seen ++ first).any (·.same q) := by
          intro q
          by_cases hpq : p.same q = true
          · have hq : seen.any (·.same q) = true := any_same_trans hseen hpq
            simp [List.any_append, hq]
          · simp [List.any_append, hpq]
        simp only [unseen, hboth, hfirst, if_true, Bool.false_eq_true, if_false, List.filter_cons,
          hseen, Bool.not_true]
        rw [← ih (first ++ [p]), unseen_congr hsame]
      · simp only [Bool.not_eq_true] at hseen
        have hboth : (seen ++ first).any (·.same p) = false := by
          simp [List.any_append, hseen, hfirst]
        simp only [unseen, hboth, hfirst, Bool.false_eq_true, if_false, List.filter_cons, hseen,
          Bool.not_false, if_true]
        rw [← ih (first ++ [p]), List.append_assoc]

end Path

/-- The path a job was queued under. -/
def Job.key (j : Job) : Path := j.filename.getD Path.empty

@[simp] theorem Job.key_ofPath (p : Path) : (Job.ofPath p).key = p := rfl

theorem Job.key_of_path {j : Job} {p : Path} (h : j.path = some p) : j.key = p := by
  unfold Job.path at h
  unfold Job.key
  split at h
  · rename_i q hq
    split at h
    · cases h
    · cases h
      simp [hq]
  · cases h

/-- A job has a path exactly when the path it was queued under is not empty. -/
theorem Job.path_eq_key (j : Job) : j.path = if j.key.text = "" then none else some j.key := by
  unfold Job.path Job.key
  cases j.filename <;> simp [Path.empty]

/-- The job a pass handles for a path it has queued: the first entry whose path names the
same file, or else a job for the path alone. -/
def jobOf (entries : List Job) (p : Path) : Job :=
  (entries.find? fun j => j.path.any (·.same p)).getD (Job.ofPath p)

theorem jobOf_cons_self {j : Job} (es : List Job) {p : Path} (h : j.path = some p) :
    jobOf (j :: es) p = j := by
  simp [jobOf, h]

theorem jobOf_cons_of_any_eq_false {j : Job} (es : List Job) {p : Path}
    (h : j.path.any (·.same p) = false) : jobOf (j :: es) p = jobOf es p := by
  simp [jobOf, h]

/-- A path that names no entry's file is handled as a job of its own. -/
theorem jobOf_of_fresh {es : List Job} {p : Path}
    (h : (es.filterMap Job.path).any (·.same p) = false) : jobOf es p = Job.ofPath p := by
  induction es with
  | nil => rfl
  | cons j es ih =>
    cases hj : j.path with
    | none =>
      rw [jobOf_cons_of_any_eq_false es (by simp [hj])]
      exact ih (by simpa [List.filterMap_cons, hj] using h)
    | some q =>
      have hq : q.same p = false ∧ (es.filterMap Job.path).any (·.same p) = false := by
        simpa [List.filterMap_cons, hj] using h
      rw [jobOf_cons_of_any_eq_false es (by simp [hj, hq.1])]
      exact ih hq.2

namespace Frontier

/-- Queues paths one after another, as the frontier meets them. -/
def enqueueAll (f : Frontier) (ps : List Path) : Frontier :=
  ps.foldl (fun f p => (f.enqueue p).2) f

/-- Queueing paths appends the unseen ones to the pending paths, and a job for each of
them to the queue. -/
theorem enqueueAll_eq (f : Frontier) (ps : List Path) :
    f.enqueueAll ps = ⟨f.queue ++ (Path.unseen f.pending ps).map Job.ofPath,
      f.pending ++ Path.unseen f.pending ps⟩ := by
  induction ps generalizing f with
  | nil => simp [enqueueAll, Path.unseen]
  | cons p ps ih =>
    have hstep : f.enqueueAll (p :: ps) = (f.enqueue p).2.enqueueAll ps := rfl
    rw [hstep, ih]
    unfold enqueue
    by_cases hp : f.isPending p = true
    · simp only [isPending] at hp
      simp [isPending, hp, Path.unseen]
    · simp only [isPending, Bool.not_eq_true] at hp
      simp [isPending, hp, Path.unseen]

/-- Seeding appends, in order, the first entry for each file not yet pending, keyed by its
own path; it is the job that `jobOf` finds for that path among the entries. -/
theorem addEntries_fst (g : Frontier) (es : List Job) :
    ∃ js : List Job, (addEntries g es).1 = ⟨g.queue ++ js, g.pending ++ js.map Job.key⟩ ∧
      js.map Job.key = Path.unseen g.pending (es.filterMap Job.path) ∧
      ∀ j ∈ js, j = jobOf es j.key := by
  induction es generalizing g with
  | nil => exact ⟨[], by simp [addEntries], by simp [Path.unseen], by simp⟩
  | cons j es ih =>
    cases hj : j.path with
    | none =>
      obtain ⟨js, h₁, h₂, h₃⟩ := ih g
      refine ⟨js, by simp [addEntries, hj, h₁],
        by simpa [List.filterMap_cons, hj] using h₂, ?_⟩
      intro j' hj'
      rw [jobOf_cons_of_any_eq_false es (by simp [hj])]
      exact h₃ j' hj'
    | some p =>
      by_cases hp : g.isPending p = true
      · -- a duplicate entry: dropped, and no later key names its file
        obtain ⟨js, h₁, h₂, h₃⟩ := ih g
        simp only [isPending] at hp
        refine ⟨js, by simp [addEntries, hj, isPending, hp, h₁], ?_, ?_⟩
        · simp [hj, Path.unseen, hp, h₂]
        · intro j' hj'
          have hk : j'.key ∈ Path.unseen g.pending (es.filterMap Job.path) :=
            h₂ ▸ List.mem_map_of_mem hj'
          have hne : p.same j'.key = false := by
            cases hpk : p.same j'.key
            · rfl
            · have hseen := Path.any_same_trans hp hpk
              rw [Path.any_same_of_mem_unseen hk] at hseen
              cases hseen
          rw [jobOf_cons_of_any_eq_false es (by simp [hj, hne])]
          exact h₃ j' hj'
      · obtain ⟨js, h₁, h₂, h₃⟩ := ih ⟨g.queue ++ [j], g.pending ++ [p]⟩
        simp only [isPending, Bool.not_eq_true] at hp
        refine ⟨j :: js, ?_, ?_, ?_⟩
        · simp [addEntries, hj, isPending, hp, h₁, Job.key_of_path hj]
        · simp [hj, Path.unseen, hp, Job.key_of_path hj, h₂]
        · intro j' hj'
          rcases List.mem_cons.mp hj' with rfl | hj'
          · rw [Job.key_of_path hj, jobOf_cons_self es hj]
          · have hk : j'.key ∈ Path.unseen (g.pending ++ [p]) (es.filterMap Job.path) :=
              h₂ ▸ List.mem_map_of_mem hj'
            have hne : p.same j'.key = false := by
              have hfresh := Path.any_same_of_mem_unseen hk
              simp only [List.any_append, List.any_cons, List.any_nil, Bool.or_false,
                Bool.or_eq_false_iff] at hfresh
              exact hfresh.2
            rw [jobOf_cons_of_any_eq_false es (by simp [hj, hne])]
            exact h₃ j' hj'

theorem firstMissing_eq_none {entries : List Job} (h : ∀ j ∈ entries, j.path.isSome) :
    firstMissing entries = none := by
  unfold firstMissing
  rw [List.findIdx?_eq_none_iff]
  intro j hj
  simpa using h j hj

/-- Entries that all have paths seed the frontier with the unseen ones among their paths. -/
theorem seed_eq_ok {entries : List Job} (h : ∀ j ∈ entries, j.path.isSome) :
    seed entries = .ok (addEntries empty entries) := by
  simp [seed, firstMissing_eq_none h]

/-- Entries one of which has no path do not seed the frontier. -/
theorem seed_eq_error {entries : List Job} (h : ¬ ∀ j ∈ entries, j.path.isSome) :
    ∃ e, seed entries = .error e := by
  cases hm : firstMissing entries with
  | none =>
    exfalso
    apply h
    intro j hj
    unfold firstMissing at hm
    simpa using List.findIdx?_eq_none_iff.mp hm j hj
  | some i => exact ⟨⟨i⟩, by simp [seed, hm]⟩

/-- The frontier of a pass that has taken the paths `popped` off its queue, as seeding leaves it
and every step keeps it: its pending paths are those taken, then those of the queued jobs, all
naming different files; each queued job is the one the entries give for its path; and every
entry's path is pending. -/
structure Wf (entries : List Job) (popped : List Path) (f : Frontier) : Prop where
  pending : f.pending = popped ++ f.queue.map Job.key
  distinct : Path.Distinct f.pending
  jobs : ∀ j ∈ f.queue, j = jobOf entries j.key
  seeded : ∀ q ∈ entries.filterMap Job.path, f.isPending q = true

variable {entries : List Job} {popped : List Path} {f : Frontier}

/-- Seeding leaves the frontier in shape, with nothing taken off the queue. -/
theorem Wf.seed (entries : List Job) : Wf entries [] (empty.addEntries entries).1 := by
  obtain ⟨js, hjs, hkeys, hjobs⟩ := addEntries_fst empty entries
  replace hjs : (empty.addEntries entries).1 = ⟨js, js.map Job.key⟩ := by simpa [empty] using hjs
  replace hkeys : js.map Job.key = Path.unseen [] (entries.filterMap Job.path) := by
    simpa [empty] using hkeys
  rw [hjs]
  refine ⟨by simp, ?_, hjobs, ?_⟩
  · show Path.Distinct (js.map Job.key)
    rw [hkeys]
    simpa using Path.Distinct.append_unseen (List.Pairwise.nil : Path.Distinct []) _
  · intro q hq
    show (js.map Job.key).any (·.same q) = true
    rw [hkeys]
    simpa using Path.any_same_append_unseen [] hq

theorem Wf.distinct_popped (h : Wf entries popped f) : Path.Distinct popped := by
  have hd := h.distinct
  rw [h.pending] at hd
  exact (List.pairwise_append.mp hd).1

/-- A path taken off the queue for good: pending, and no queued job is for its file. -/
def Past (f : Frontier) (p : Path) : Prop :=
  f.isPending p = true ∧ ∀ j ∈ f.queue, j.key.same p = false

/-- The paths taken off the queue are taken for good. -/
theorem Wf.past (h : Wf entries popped f) {p : Path} (hp : p ∈ popped) : f.Past p := by
  have hd := h.distinct
  rw [h.pending] at hd
  refine ⟨?_, ?_⟩
  · unfold isPending
    rw [h.pending]
    exact List.any_eq_true.mpr ⟨p, List.mem_append_left _ hp, Path.same_refl p⟩
  · intro j hj
    have hcross := (List.pairwise_append.mp hd).2.2 p hp j.key (List.mem_map_of_mem hj)
    rw [Path.same_comm]
    exact hcross

/-- A queued job's path names no file taken off the queue before. -/
theorem Wf.fresh_key (h : Wf entries popped f) {job : Job} {rest : List Job}
    (hq : f.queue = job :: rest) : popped.any (·.same job.key) = false := by
  have hd := h.distinct
  rw [h.pending, hq] at hd
  have hcross := (List.pairwise_append.mp hd).2.2
  simp only [List.any_eq_false]
  intro a ha
  simpa using hcross a ha job.key (by simp)

/-- Taking a job off the queue and queueing what it leads to keeps the frontier in shape, with
the job's path taken. -/
theorem Wf.advance (h : Wf entries popped f) {job : Job} {rest : List Job}
    (hq : f.queue = job :: rest) (targets : List Path) :
    Wf entries (popped ++ [job.key]) ({ f with queue := rest }.enqueueAll targets) := by
  rw [enqueueAll_eq]
  refine ⟨?_, ?_, ?_, ?_⟩
  · show f.pending ++ _ = _
    rw [h.pending, hq]
    simp [Function.comp_def]
  · exact h.distinct.append_unseen _
  · -- a job queued now is for a path of its own: no entry names its file
    intro j hj
    rcases List.mem_append.mp hj with hj | hj
    · exact h.jobs j (by simp [hq, hj])
    · obtain ⟨u, hu, rfl⟩ := List.mem_map.mp hj
      have hfresh := Path.any_same_of_mem_unseen hu
      rw [Job.key_ofPath, jobOf_of_fresh]
      simp only [List.any_eq_false]
      intro q hqe hqu
      have := Path.any_same_trans (h.seeded q hqe) hqu
      simp_all
  · intro q hqe
    have hpend : f.pending.any (·.same q) = true := h.seeded q hqe
    simp only [isPending, List.any_append, hpend, Bool.true_or]

/-- The frontier a pass is seeded with is in shape, with nothing taken off the queue. -/
theorem Wf.of_seed {dropped : List Path} (h : Frontier.seed entries = .ok (f, dropped)) :
    Wf entries [] f := by
  unfold Frontier.seed at h
  split at h
  · cases h
  · have hf : (empty.addEntries entries).1 = f := by rw [Except.ok.inj h]
    rw [← hf]
    exact Wf.seed entries

/-- A path taken for good stays so when a job is taken off the queue and the paths it leads to
are queued. -/
theorem Past.advance {p : Path} (h : f.Past p) {job : Job} {rest : List Job}
    (hq : f.queue = job :: rest) (targets : List Path) :
    ({ f with queue := rest }.enqueueAll targets).Past p := by
  rw [enqueueAll_eq]
  refine ⟨?_, ?_⟩
  · have hp : f.pending.any (·.same p) = true := h.1
    simp only [isPending, List.any_append, hp, Bool.true_or]
  · intro j hj
    rcases List.mem_append.mp hj with hj | hj
    · exact h.2 j (by simp [hq, hj])
    · -- a path queued now names no pending file, and `p` is pending
      obtain ⟨u, hu, rfl⟩ := List.mem_map.mp hj
      have hfresh := Path.any_same_of_mem_unseen hu
      rw [Job.key_ofPath]
      cases hup : u.same p
      · rfl
      · have hpu := Path.any_same_trans h.1 (Path.same_symm hup)
        rw [hfresh] at hpu
        cases hpu

end Frontier

/-- The path a reference leads to from the file at `referencing`. -/
def Lookup.target (how : Lookup) (referencing : Path) (r : Reference) : Path :=
  how.resolve (r.lookup how.byWritten) referencing

namespace Discovery

variable (how : Lookup) (referencing : Path)

/-- The dependencies registered so far are all pending. -/
def Settled (d : Discovery) (f : Frontier) : Prop := ∀ q ∈ d.dependencies, f.isPending q = true

theorem settled_empty (f : Frontier) : Settled empty f := by
  simp [Settled, empty]

/-- Registering a reference queues the path it leads to, as `enqueue` would; the test
against the file's own dependencies only spares the frontier a path it holds already. -/
theorem register_frontier {d : Discovery} {f : Frontier} (h : Settled d f) (r : Reference) :
    (d.register how f r referencing).2.1 = (f.enqueue (how.target referencing r)).2 ∧
      Settled (d.register how f r referencing).1 (d.register how f r referencing).2.1 := by
  unfold register
  simp only
  split
  · rename_i hdep
    obtain ⟨q, hq, hqp⟩ := List.any_eq_true.mp hdep
    have hpend : f.isPending (how.resolve (r.lookup how.byWritten) referencing) = true :=
      Path.any_same_trans (h q hq) hqp
    refine ⟨by simp [Frontier.enqueue, Lookup.target, hpend], h⟩
  · refine ⟨rfl, ?_⟩
    intro q hq
    rw [Frontier.isPending_enqueue]
    rcases List.mem_append.mp hq with hq | hq
    · simp [h q hq]
    · simp [List.mem_singleton.mp hq]

theorem register_references (d : Discovery) (f : Frontier) (r : Reference) :
    (d.register how f r referencing).1.references =
      if d.references.contains r then d.references else d.references ++ [r] := by
  unfold register
  simp only
  split <;> rfl

/-- Registering a reference adds the path it leads to as a dependency, unless a dependency
names that file already. -/
theorem register_dependencies (d : Discovery) (f : Frontier) (r : Reference) :
    (d.register how f r referencing).1.dependencies =
      d.dependencies ++ Path.unseen d.dependencies [how.target referencing r] := by
  unfold register
  simp only
  split
  · rename_i hdep
    simp [Path.unseen, Lookup.target, hdep]
  · rename_i hdep
    simp [Path.unseen, Lookup.target, hdep]

theorem registerAll_settled {d : Discovery} {f : Frontier} (h : Settled d f)
    (refs : List Reference) :
    Settled (registerAll how referencing d f refs).1 (registerAll how referencing d f refs).2.1 := by
  induction refs generalizing d f with
  | nil => exact h
  | cons r refs ih =>
    simp only [registerAll]
    exact ih (register_frontier how referencing h r).2

/-- Registering references in order queues the paths they lead to, in order. -/
theorem registerAll_frontier {d : Discovery} {f : Frontier} (h : Settled d f)
    (refs : List Reference) :
    (registerAll how referencing d f refs).2.1 =
      f.enqueueAll (refs.map (how.target referencing)) := by
  induction refs generalizing d f with
  | nil => rfl
  | cons r refs ih =>
    obtain ⟨hf, hs⟩ := register_frontier how referencing h r
    simp only [registerAll]
    rw [ih hs, hf]
    rfl

/-- The references kept are those met, each once, in the order first met. -/
theorem registerAll_references (d : Discovery) (f : Frontier) (refs : List Reference) :
    (registerAll how referencing d f refs).1.references =
      d.references ++ (refs.filter fun r => !d.references.contains r).eraseDups := by
  induction refs generalizing d f with
  | nil => simp [registerAll]
  | cons r refs ih =>
    simp only [registerAll]
    rw [ih, register_references]
    by_cases hr : d.references.contains r = true
    · rw [if_pos hr, List.filter_cons, if_neg (by rw [hr]; decide)]
    · have hpred : (fun x => !(d.references ++ [r]).contains x) =
          fun x => (!x == r) && !d.references.contains x := by
        funext x
        simp only [List.contains_append, List.contains_cons, List.contains_nil, Bool.or_false,
          Bool.not_or, Bool.and_comm]
      rw [if_neg hr, List.filter_cons, if_pos (by simpa using hr), List.eraseDups_cons,
        List.filter_filter, hpred, List.append_assoc, List.singleton_append]

theorem registerAll_empty_references (f : Frontier) (refs : List Reference) :
    (registerAll how referencing empty f refs).1.references = refs.eraseDups := by
  rw [registerAll_references, List.filter_eq_self.mpr (by simp [empty])]
  rfl

end Discovery

end ModuleGraph
