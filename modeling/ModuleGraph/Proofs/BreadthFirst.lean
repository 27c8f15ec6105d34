import Mathlib.Data.List.Basic
import ModuleGraph.Proofs.Verdict

/-!
# A pass is a breadth-first search

A pass over a file table with the import scan takes its jobs in the order of a
breadth-first search from its entries, and handles each one by the verdict that the store
as it stood when the pass began gives for it. This module states the search on its own
(`Bfs`, with the paths a file leads to as a parameter) and proves the pass equal to it.

The proof runs along `Pass.sweep` with one invariant, `Pass.Inv`. The frontier's pending
paths are the paths taken off the queue so far followed by those still queued, and they
name pairwise different files; each queued job is the one `jobOf` finds for its path; the
store is unchanged at every path not yet taken off the queue, which is why the verdict on a
job, reached when the job comes up, is the one the store at the start gives; and the
modules so far are files the pass can load, each once. That last part bounds the files a
pass handles by its budget, so the budget never runs out before the queue does.
-/

namespace ModuleGraph

open Source

/-- `Bfs next queue seen order`: the breadth-first search that starts from `queue`, the
paths `seen` being those queued so far, visits the paths `order`. Visiting a path appends
to the queue the paths it leads to (`next`) that were not seen, each once, and counts them
as seen. -/
inductive Bfs (next : Path → List Path) : List Path → List Path → List Path → Prop
  | done (seen : List Path) : Bfs next [] seen []
  | visit (p : Path) {queue seen order : List Path} :
      Bfs next (queue ++ Path.unseen seen (next p)) (seen ++ Path.unseen seen (next p)) order →
      Bfs next (p :: queue) seen (p :: order)

namespace Bfs

variable {next : Path → List Path}

/-- A search visits one order only. -/
theorem functional {queue seen o₁ o₂ : List Path} (h₁ : Bfs next queue seen o₁)
    (h₂ : Bfs next queue seen o₂) : o₁ = o₂ := by
  induction h₁ generalizing o₂ with
  | done => cases h₂; rfl
  | visit p _ ih =>
    cases h₂ with
    | visit _ h => rw [ih h]

/-- Two ways of naming the paths a file leads to that always add the same unseen paths
give the same search. -/
theorem congr {next' : Path → List Path}
    (h : ∀ p seen, Path.unseen seen (next p) = Path.unseen seen (next' p))
    {queue seen order : List Path} (hb : Bfs next queue seen order) :
    Bfs next' queue seen order := by
  induction hb with
  | done seen => exact .done seen
  | visit p _ ih =>
    apply Bfs.visit p
    rw [← h]
    exact ih

/-- A search visits each file once. Its seen paths are those it has visited, `visited`,
followed by those still queued; when they name pairwise different files, so do the
visited paths followed by the rest of the order. -/
theorem distinct {queue seen order : List Path} (visited : List Path)
    (hb : Bfs next queue seen order) (hseen : seen = visited ++ queue)
    (hd : Path.Distinct seen) : Path.Distinct (visited ++ order) := by
  induction hb generalizing visited with
  | done seen => simpa [hseen] using hd
  | @visit p queue seen order _ ih =>
    have h := ih (visited ++ [p]) (by simp [hseen]) (Path.Distinct.append_unseen hd _)
    simpa using h

end Bfs

/-- Paths of a file table are files of it. -/
theorem FileTable.any_same_of_get? {t : FileTable} {p : Path} (h : (t.get? p).isSome) :
    (t.files.map Prod.fst).any (·.same p) = true := by
  unfold FileTable.get? at h
  cases hf : t.files.find? (fun e => e.1.same p) with
  | none => simp [hf] at h
  | some e =>
    have hmem := List.mem_of_find?_eq_some hf
    have hsame := List.find?_some hf
    exact List.any_eq_true.mpr ⟨e.1, List.mem_map_of_mem hmem, hsame⟩

/-- A job that `jobOf` finds with content of its own is one of the entries. -/
theorem mem_of_jobOf_content {es : List Job} {p : Path} (h : (jobOf es p).content.isSome) :
    jobOf es p ∈ es := by
  unfold jobOf at h ⊢
  cases hf : es.find? (fun j => j.path.any (·.same p)) with
  | none => simp [hf, Job.ofPath] at h
  | some j => exact List.mem_of_find?_eq_some hf

/-- Paths naming pairwise different files, each a file of `pool`, are no more than `pool`. -/
theorem Path.Distinct.length_le {ps pool : List Path} (h : Distinct ps)
    (hpool : ∀ p ∈ ps, pool.any (·.same p) = true) : ps.length ≤ pool.length := by
  have hsub : ps.map components ⊆ pool.map components := by
    intro c hc
    obtain ⟨p, hp, rfl⟩ := List.mem_map.mp hc
    obtain ⟨q, hq, hqp⟩ := List.any_eq_true.mp (hpool p hp)
    exact List.mem_map.mpr ⟨q, hq, same_iff.mp hqp⟩
  simpa using h.nodup_components.length_le_of_subset hsub

namespace Pass

variable (o : BuildOptions) (t : FileTable) (entries : List Job) (start : ResultCache Scanned)

/-- The verdict a pass over `entries` reaches on a path it takes off its queue: the verdict
on the job it holds for that path, by the store as it stood when the pass began. -/
def verdictAt (p : Path) : Verdict Scanned := verdict o t start (jobOf entries p)

/-- The paths the file at a path leads to, in a pass over `entries`. -/
def next (p : Path) : List Path := (verdictAt o t entries start p).successors o

/-- The files a pass over `entries` can load: the entries' paths and the stored files. -/
def loadable : List Path := entries.filterMap Job.path ++ t.files.map Prod.fst

/-- What holds of a pass between two jobs, `popped` being the paths it has taken off its
queue so far. -/
structure Inv (popped : List Path) (s : Pass Scanned) : Prop where
  pending : s.frontier.pending = popped ++ s.frontier.queue.map Job.key
  distinct : Path.Distinct s.frontier.pending
  jobs : ∀ j ∈ s.frontier.queue, j = jobOf entries j.key
  seeded : ∀ q ∈ entries.filterMap Job.path, s.frontier.isPending q = true
  cache : ∀ q, popped.any (·.same q) = false → ∀ ns, s.cache.get q ns = start.get q ns
  modules : (s.modules.map Prod.fst).Sublist popped
  loaded : ∀ p ∈ s.modules.map Prod.fst, (loadable t entries).any (·.same p) = true

variable {o t entries start}

/-- The invariant holds the frontier in shape. -/
theorem Inv.wf {popped : List Path} {s : Pass Scanned} (hinv : Inv t entries start popped s) :
    s.frontier.Wf entries popped :=
  ⟨hinv.pending, hinv.distinct, hinv.jobs, hinv.seeded⟩

/-- A queued job's path names no file taken off the queue before. -/
theorem Inv.fresh_key {popped : List Path} {s : Pass Scanned} {job : Job} {rest : List Job}
    (hinv : Inv t entries start popped s) (hq : s.frontier.queue = job :: rest) :
    popped.any (·.same job.key) = false :=
  hinv.wf.fresh_key hq

/-- A file loaded by a pass is one of its entries' or a stored file. -/
theorem Inv.loadable_of_loads {popped : List Path} {s : Pass Scanned} {job : Job}
    {rest : List Job} (hinv : Inv t entries start popped s) (hq : s.frontier.queue = job :: rest)
    {c : ResultCache Scanned} {p : Path} (hloads : (verdict o t c job).loads = true)
    (hp : (verdict o t c job).path? = some p) :
    (loadable t entries).any (·.same p) = true := by
  obtain ⟨p', hp', hsrc⟩ := source_of_verdict_loads hloads
  rw [verdict_path?, hp'] at hp
  cases hp
  have hjob : job = jobOf entries job.key := hinv.jobs job (by simp [hq])
  rcases hsrc with hc | hget
  · -- supplied content: the job is an entry, and its path is the entry's
    rw [hjob] at hc
    have hmem := mem_of_jobOf_content hc
    rw [← hjob] at hmem
    have hentry : (entries.filterMap Job.path).any (·.same p) = true :=
      List.any_eq_true.mpr ⟨p, List.mem_filterMap.mpr ⟨job, hmem, hp'⟩, Path.same_refl p⟩
    unfold loadable
    rw [List.any_append, hentry, Bool.true_or]
  · unfold loadable
    rw [List.any_append, FileTable.any_same_of_get? hget, Bool.or_true]

/-- The frontier after a job comes off the queue: the rest of the queue, then the unseen
paths the file leads to. -/
theorem Advances.frontier_eq {v : Verdict Scanned} {s s' : Pass Scanned} {rest : List Job}
    (hadv : Advances o v { s with frontier := { s.frontier with queue := rest } } s') :
    s'.frontier = ⟨rest ++ (Path.unseen s.frontier.pending (v.successors o)).map Job.ofPath,
      s.frontier.pending ++ Path.unseen s.frontier.pending (v.successors o)⟩ := by
  rw [hadv.frontier, Frontier.enqueueAll_eq]

/-- Handling the next job keeps the invariant, with its path taken off the queue. -/
theorem Inv.advance {popped : List Path} {s s' : Pass Scanned} {job : Job} {rest : List Job}
    (hinv : Inv t entries start popped s) (hq : s.frontier.queue = job :: rest)
    (hadv : Advances o (verdict o t s.cache job)
      { s with frontier := { s.frontier with queue := rest } } s') :
    Inv t entries start (popped ++ [job.key]) s' := by
  have hledger : s'.ledger = s.ledger.record o (verdict o t s.cache job) := hadv.ledger
  have hpath : ∀ p, (verdict o t s.cache job).path? = some p → p = job.key := by
    intro p h
    rw [verdict_path?] at h
    exact (Job.key_of_path h).symm
  -- the frontier keeps its shape, with the job's path taken
  have hwf : s'.frontier.Wf entries (popped ++ [job.key]) := by
    rw [hadv.frontier]
    exact hinv.wf.advance hq _
  refine ⟨hwf.pending, hwf.distinct, hwf.jobs, hwf.seeded, ?_, ?_, ?_⟩
  · intro q hq' ns
    simp only [List.any_append, List.any_cons, List.any_nil, Bool.or_false,
      Bool.or_eq_false_iff] at hq'
    have hcache : s'.cache = (s.ledger.record o (verdict o t s.cache job)).cache := by
      rw [← hledger]
      rfl
    rw [hcache, Ledger.record_get o s.ledger _ (fun p hp => hpath p hp ▸ hq'.2) ns]
    exact hinv.cache q hq'.1 ns
  · have hpaths : s'.modules.map Prod.fst =
        (s.ledger.record o (verdict o t s.cache job)).modules.map Prod.fst := by
      rw [← hledger]
      rfl
    rw [hpaths, Ledger.record_paths]
    refine List.Sublist.append hinv.modules ?_
    split
    · cases hv : (verdict o t s.cache job).path? with
      | none => simp
      | some p => simp [hpath p hv]
    · simp
  · have hpaths : s'.modules.map Prod.fst =
        (s.ledger.record o (verdict o t s.cache job)).modules.map Prod.fst := by
      rw [← hledger]
      rfl
    rw [hpaths, Ledger.record_paths]
    intro p hp
    rcases List.mem_append.mp hp with hp | hp
    · exact hinv.loaded p hp
    · split at hp
      · rename_i hloads
        exact hinv.loadable_of_loads hq hloads (Option.mem_toList.mp hp)
      · simp at hp

/-- The verdict on the next job, reached when it comes up, is the one the store at the start
of the pass gives for its path. -/
theorem Inv.verdictAt_key {popped : List Path} {s : Pass Scanned} {job : Job} {rest : List Job}
    (hinv : Inv t entries start popped s) (hq : s.frontier.queue = job :: rest) :
    verdictAt o t entries start job.key = verdict o t s.cache job := by
  unfold verdictAt
  rw [← hinv.jobs job (by simp [hq])]
  apply verdict_congr
  intro p hp ns
  rw [← Job.key_of_path hp]
  exact (hinv.cache job.key (hinv.fresh_key hq) ns).symm

/-- The modules of a pass name pairwise different files it can load, so they are no more
than those files. -/
theorem Inv.modules_length_le {popped : List Path} {s : Pass Scanned}
    (hinv : Inv t entries start popped s) : s.modules.length ≤ (loadable t entries).length := by
  have hlen := Path.Distinct.length_le (hinv.wf.distinct_popped.sublist hinv.modules) hinv.loaded
  simpa using hlen

/-- The run lemma's step: handling the next job visits its path in the search, and what the
pass queued after it is what the search appends; the output is that of recording the job's
verdict, read from the store at the start, before the rest. -/
theorem Inv.visit {popped order : List Path} {s s' sf : Pass Scanned} {job : Job}
    {rest : List Job} (hinv : Inv t entries start popped s) (hq : s.frontier.queue = job :: rest)
    (hadv : Advances o (verdict o t s.cache job)
      { s with frontier := { s.frontier with queue := rest } } s')
    (hbfs : Bfs (next o t entries start) (s'.frontier.queue.map Job.key) s'.frontier.pending
      order)
    (hkeys : ∀ p ∈ order, (jobOf entries p).key = p)
    (hledger : sf.ledger =
      order.foldl (fun L p => L.record o (verdictAt o t entries start p)) s'.ledger) :
    Bfs (next o t entries start) ((job :: rest).map Job.key) s.frontier.pending
        (job.key :: order) ∧
      (∀ p ∈ job.key :: order, (jobOf entries p).key = p) ∧
      sf.ledger = (job.key :: order).foldl
        (fun L p => L.record o (verdictAt o t entries start p)) s.ledger := by
  refine ⟨?_, ?_, ?_⟩
  · rw [hadv.frontier_eq] at hbfs
    apply Bfs.visit job.key
    rw [next, hinv.verdictAt_key hq]
    simpa [Function.comp_def] using hbfs
  · intro p hp
    rcases List.mem_cons.mp hp with rfl | hp
    · exact congrArg Job.key (hinv.jobs job (by simp [hq])).symm
    · exact hkeys p hp
  · rw [hledger, hadv.ledger, List.foldl_cons, hinv.verdictAt_key hq]
    rfl

/-- A pass starts in the invariant: the frontier seeded with the entries, the store as
given, no modules and nothing taken off the queue. -/
theorem Inv.seed {s : Pass Scanned} (hf : s.frontier = (Frontier.empty.addEntries entries).1)
    (hc : s.cache = start) (hm : s.modules = []) : Inv t entries start [] s := by
  have hwf : s.frontier.Wf entries [] := by
    rw [hf]
    exact Frontier.Wf.seed entries
  exact ⟨hwf.pending, hwf.distinct, hwf.jobs, hwf.seeded, by simp [hc], by simp [hm], by simp [hm]⟩

/-- **The run lemma.** From any state that satisfies the invariant and has budget enough
for the files it can still load, the rest of the pass succeeds; it visits the paths still
queued in the order of the breadth-first search, and its output is that of handling each
path so visited by its verdict, in that order. -/
theorem sweep_spec (budget : Nat) (s : Pass Scanned) (queue : List Job) :
    ∀ popped, s.frontier.queue = queue → Inv t entries start popped s →
      (loadable t entries).length ≤ budget + s.modules.length →
      ∃ order s', sweep (.ofTable o t) budget s queue = .ok s' ∧
        Bfs (next o t entries start) (queue.map Job.key) s.frontier.pending order ∧
        (∀ p ∈ order, (jobOf entries p).key = p) ∧
        s'.ledger =
          order.foldl (fun L p => L.record o (verdictAt o t entries start p)) s.ledger := by
  fun_induction sweep (PassContext.ofTable o t) budget s queue with
  | case1 budget s =>
    intro popped _ _ _
    exact ⟨[], s, rfl, .done _, by simp, rfl⟩
  | case2 budget s job rest e s' hfail =>
    intro popped _ _ _
    obtain ⟨s'', hh, -⟩ := handle_spec o t _ job
    rw [hh] at hfail
    split at hfail <;> cases hfail
  | case3 budget s job rest s' hpass ih =>
    intro popped hq hinv hb
    obtain ⟨s'', hh, hadv⟩ := handle_spec o t _ job
    rw [hh] at hpass
    split at hpass
    · cases hpass
    · rename_i hloads
      obtain rfl := Step.passed.inj hpass
      have hinv' := hinv.advance hq hadv
      -- a job that is passed over queues nothing: the queue is what was left
      have hqueue : s''.frontier.queue = rest := by
        rw [hadv.frontier_eq, Verdict.successors_eq_nil o (by simpa using hloads)]
        simp [Path.unseen]
      have hmods : s''.modules.length = s.modules.length := by
        simpa [hloads] using hadv.modules_length
      obtain ⟨order, sf, hsweep, hbfs, hkeys, hledger⟩ :=
        ih (popped ++ [job.key]) hqueue hinv' (by omega)
      exact ⟨job.key :: order, sf, hsweep, hinv.visit hq hadv (hqueue ▸ hbfs) hkeys hledger⟩
  | case4 s job rest s' hproc =>
    intro popped hq hinv hb
    obtain ⟨s'', hh, hadv⟩ := handle_spec o t _ job
    rw [hh] at hproc
    split at hproc
    · rename_i hloads
      obtain rfl := Step.processed.inj hproc
      -- a budget spent to nothing leaves no room for another loaded file
      have hmods : s''.modules.length = s.modules.length + 1 := by
        simpa [hloads] using hadv.modules_length
      have hle := (hinv.advance hq hadv).modules_length_le
      omega
    · cases hproc
  | case5 s job rest s' hproc b ih =>
    intro popped hq hinv hb
    obtain ⟨s'', hh, hadv⟩ := handle_spec o t _ job
    rw [hh] at hproc
    split at hproc
    · rename_i hloads
      obtain rfl := Step.processed.inj hproc
      have hinv' := hinv.advance hq hadv
      have hmods : s''.modules.length = s.modules.length + 1 := by
        simpa [hloads] using hadv.modules_length
      obtain ⟨order, sf, hsweep, hbfs, hkeys, hledger⟩ :=
        ih (popped ++ [job.key]) rfl hinv' (by omega)
      exact ⟨job.key :: order, sf, hsweep, hinv.visit hq hadv hbfs hkeys hledger⟩
    · cases hproc

/-- The verdict on a path queued under its own name is on that path, unless it is empty. -/
theorem verdictAt_path? {p : Path} (h : (jobOf entries p).key = p) :
    (verdictAt o t entries start p).path? = Option.guard (fun p => p.text != "") p := by
  rw [verdictAt, verdict_path?, Job.path_eq_key, h]
  by_cases hp : p.text = "" <;> simp [hp, Option.guard]

/-- Over paths queued under their own names, listing the path of each verdict with a
property that no dropped job has picks out the paths whose verdicts have it. -/
theorem filterMap_verdictAt {order : List Path} (hkeys : ∀ p ∈ order, (jobOf entries p).key = p)
    (P : Verdict Scanned → Bool) (hP : P .dropped = false) :
    (order.filterMap fun p => if P (verdictAt o t entries start p) then
        (verdictAt o t entries start p).path? else none) =
      order.filter fun p => P (verdictAt o t entries start p) := by
  rw [← List.filterMap_eq_filter]
  apply List.filterMap_congr
  intro p hp
  by_cases hv : P (verdictAt o t entries start p)
  · have hne : (verdictAt o t entries start p).path? ≠ none := by
      rw [Ne, Verdict.path?_eq_none]
      intro hd
      rw [hd, hP] at hv
      cases hv
    rw [verdictAt_path? (hkeys p hp)] at hne ⊢
    simp_all [Option.guard]
  · simp [hv, Option.guard]

section Views

/-! What recording the verdicts along paths queued under their own names lists. -/

variable {order : List Path} (hkeys : ∀ p ∈ order, (jobOf entries p).key = p)
  (L : Ledger Scanned)
include hkeys

/-- The handled jobs are the paths, less the empty ones. -/
theorem foldl_verdictAt_handled :
    (order.foldl (fun L p => L.record o (verdictAt o t entries start p)) L).handled.map Prod.fst =
      L.handled.map Prod.fst ++ order.filter (fun p => p.text != "") := by
  rw [Ledger.foldl_record_handled, List.map_append, List.map_filterMap,
    ← List.filterMap_eq_filter]
  congr 1
  apply List.filterMap_congr
  intro p hp
  rw [Verdict.handling?_map_fst, verdictAt_path? (hkeys p hp)]

/-- The modules are the paths whose files are loaded. -/
theorem foldl_verdictAt_paths :
    (order.foldl (fun L p => L.record o (verdictAt o t entries start p)) L).modules.map Prod.fst =
      L.modules.map Prod.fst ++ order.filter (fun p => (verdictAt o t entries start p).loads) := by
  rw [Ledger.foldl_record_paths, filterMap_verdictAt hkeys _ rfl]

/-- The missing paths are those found to be no file. -/
theorem foldl_verdictAt_missing :
    (order.foldl (fun L p => L.record o (verdictAt o t entries start p)) L).missing =
      L.missing ++ order.filter (fun p => (verdictAt o t entries start p).isMissing) := by
  rw [Ledger.foldl_record_missing, filterMap_verdictAt hkeys _ rfl]

end Views

end Pass

/-- **A pass over a file table.** A pass whose entries all have paths succeeds. It visits
the entries' paths, each file once, and then the paths they lead to, in the order of the
breadth-first search; its output is that of handling each path it visits, in that order,
by the verdict the store as it stood at the start gives. -/
theorem Build.run_spec (t : FileTable) (o : BuildOptions) (entries : List Job)
    (start : ResultCache Scanned) (serial : Nat) (hpaths : ∀ j ∈ entries, j.path.isSome) :
    let r := Build.run Transformer.importScan t.source o entries start serial
    ∃ order b, r.outcome = .ok b ∧
      Bfs (Pass.next o t entries start) (Path.unseen [] (entries.filterMap Job.path))
        (Path.unseen [] (entries.filterMap Job.path)) order ∧
      (∀ p ∈ order, (jobOf entries p).key = p) ∧
      (⟨r.cache, b.modules, b.missing, r.serial, r.calls, r.handled⟩ : Ledger Scanned) =
        order.foldl (fun L p => L.record o (Pass.verdictAt o t entries start p))
          ⟨start, [], [], serial, [], []⟩ := by
  obtain ⟨js, hjs, hkeys, -⟩ := Frontier.addEntries_fst Frontier.empty entries
  replace hjs : (Frontier.empty.addEntries entries).1 = ⟨js, js.map Job.key⟩ := by
    simpa [Frontier.empty] using hjs
  simp only [Frontier.empty] at hkeys
  unfold Build.run
  rw [Frontier.seed_eq_ok hpaths]
  simp only
  -- the state the sweep starts from, whatever its log
  generalize hs0 : (⟨(Frontier.empty.addEntries entries).1, start, [], [], 0, 0, 0, serial, _,
    [], []⟩ : Pass Scanned) = s0
  have hinv : Pass.Inv t entries start [] s0 :=
    Pass.Inv.seed (by rw [← hs0]) (by rw [← hs0]) (by rw [← hs0])
  have hbudget : (Pass.loadable t entries).length ≤
      (t.source.capacity + entries.length) + s0.modules.length := by
    have hle := List.length_filterMap_le Job.path entries
    simp only [Pass.loadable, List.length_append, List.length_map, FileTable.source,
      FileTable.size, ← hs0, List.length_nil]
    omega
  obtain ⟨order, s', hsweep, hbfs, hk, hledger⟩ := @Pass.sweep_spec o t entries start
    (t.source.capacity + entries.length) s0 (Frontier.empty.addEntries entries).1.queue []
    (by rw [← hs0]) hinv hbudget
  have hstart : s0.frontier = ⟨js, js.map Job.key⟩ := by
    rw [← hs0]
    exact hjs
  have hctx : (⟨Transformer.importScan, t.source, o, o.caching.partition?, o.skipsCached.1⟩ :
      PassContext Scanned) = PassContext.ofTable o t := rfl
  rw [hctx, hsweep]
  refine ⟨order, ⟨s'.modules, s'.missing⟩, rfl, ?_, hk, ?_⟩
  · rw [hstart, hjs] at hbfs
    simpa [hkeys] using hbfs
  · have hl0 : s0.ledger = ⟨start, [], [], serial, [], []⟩ := by
      rw [← hs0]
      rfl
    rw [← hl0, ← hledger]
    rfl

/-- **Breadth-first order.** A pass over a file table whose entries all have paths
succeeds. The jobs it handles are the paths of the breadth-first search from the entries'
paths, each file once as first listed, in the search's order, less the empty paths it
drops, and each is handled as its verdict says: the verdict that also decides where the file
leads. Its modules are the paths among them whose files it loads, and its missing paths
those it finds to be no file, both in that order. -/
theorem Build.run_follows_breadth_first (t : FileTable) (o : BuildOptions)
    (entries : List Job) (start : ResultCache Scanned) (serial : Nat)
    (hpaths : ∀ j ∈ entries, j.path.isSome) :
    let r := Build.run Transformer.importScan t.source o entries start serial
    let roots := Path.unseen [] (entries.filterMap Job.path)
    ∃ order b, r.outcome = .ok b ∧ Bfs (Pass.next o t entries start) roots roots order ∧
      r.handled = order.filterMap (fun p => (Pass.verdictAt o t entries start p).handling?) ∧
      r.handled.map Prod.fst = order.filter (fun p => p.text != "") ∧
      b.paths = order.filter (fun p => (Pass.verdictAt o t entries start p).loads) ∧
      b.missing = order.filter (fun p => (Pass.verdictAt o t entries start p).isMissing) := by
  obtain ⟨order, b, hok, hbfs, hkeys, hledger⟩ := Build.run_spec t o entries start serial hpaths
  refine ⟨order, b, hok, hbfs, ?_, ?_, ?_, ?_⟩
  · have h := congrArg Ledger.handled hledger
    dsimp only at h
    rw [Ledger.foldl_record_handled, List.nil_append] at h
    exact h
  · have h := congrArg (fun L : Ledger Scanned => L.handled.map Prod.fst) hledger
    dsimp only at h
    rw [Pass.foldl_verdictAt_handled hkeys, List.map_nil, List.nil_append] at h
    exact h
  · have h := congrArg (fun L : Ledger Scanned => L.modules.map Prod.fst) hledger
    dsimp only at h
    rw [Pass.foldl_verdictAt_paths hkeys, List.map_nil, List.nil_append] at h
    exact h
  · have h := congrArg Ledger.missing hledger
    dsimp only at h
    rw [Pass.foldl_verdictAt_missing hkeys, List.nil_append] at h
    exact h

/-- A pass from one entry that imports a second file, with results kept and skipping on. -/
theorem Build.run_follows_breadth_first_from_one_entry :
    let t : FileTable := ⟨[(⟨"main.js"⟩, "import './dep.js'"), (⟨"dep.js"⟩, "")]⟩
    let o : BuildOptions := ⟨.shared, true, false, resolveStandard, none, []⟩
    let entries := [Job.ofPath ⟨"main.js"⟩]
    let r := Build.run Transformer.importScan t.source o entries .empty 0
    let roots := Path.unseen [] (entries.filterMap Job.path)
    (∀ j ∈ entries, j.path.isSome) ∧
      ∃ order b, r.outcome = .ok b ∧ Bfs (Pass.next o t entries .empty) roots roots order ∧
        r.handled = order.filterMap (fun p => (Pass.verdictAt o t entries .empty p).handling?) ∧
        r.handled.map Prod.fst = order.filter (fun p => p.text != "") ∧
        b.paths = order.filter (fun p => (Pass.verdictAt o t entries .empty p).loads) ∧
        b.missing = order.filter (fun p => (Pass.verdictAt o t entries .empty p).isMissing) :=
  ⟨by decide, Build.run_follows_breadth_first ⟨[(⟨"main.js"⟩, "import './dep.js'"),
    (⟨"dep.js"⟩, "")]⟩ ⟨.shared, true, false, resolveStandard, none, []⟩
    [Job.ofPath ⟨"main.js"⟩] .empty 0 (by decide)⟩

/-- **Each job by its verdict.** A pass over a file table whose entries all have paths
succeeds, and takes pairwise different files off its queue, in breadth-first order, each
path with the first entry for it (or a job for the path alone). Its store, modules, missing
paths, serial numbers, transformer calls and handled jobs are those of recording, path
after path, the verdict on that job read from the store as it stood when the pass began;
no earlier job of the pass changes what a later one sees. A pass that skips files it has
results for serves none. -/
theorem Build.run_handles_each_job_by_its_verdict (t : FileTable) (o : BuildOptions)
    (entries : List Job) (start : ResultCache Scanned) (serial : Nat)
    (hpaths : ∀ j ∈ entries, j.path.isSome) :
    let r := Build.run Transformer.importScan t.source o entries start serial
    let roots := Path.unseen [] (entries.filterMap Job.path)
    ∃ order b, r.outcome = .ok b ∧ Bfs (Pass.next o t entries start) roots roots order ∧
      Path.Distinct order ∧ (∀ p ∈ order, (jobOf entries p).key = p) ∧
      (⟨r.cache, b.modules, b.missing, r.serial, r.calls, r.handled⟩ : Ledger Scanned) =
        order.foldl (fun L p => L.record o (verdict o t start (jobOf entries p)))
          ⟨start, [], [], serial, [], []⟩ ∧
      ((o.skipCached && o.caching.isOn) = true →
        ∀ p ∈ order, ∀ q e, verdict o t start (jobOf entries p) ≠ .serve q e) := by
  obtain ⟨order, b, hok, hbfs, hkeys, hledger⟩ := Build.run_spec t o entries start serial hpaths
  have hroots := Path.Distinct.append_unseen List.Pairwise.nil (entries.filterMap Job.path)
  have hdistinct : Path.Distinct order := by
    simpa using hbfs.distinct [] (by simp) (by simpa using hroots)
  exact ⟨order, b, hok, hbfs, hdistinct, hkeys, hledger,
    fun hskip _ _ q e => verdict_ne_serve hskip q e⟩

/-- A pass from an entry given twice, once with content of its own, with skipping on. -/
theorem Build.run_handles_each_job_by_its_verdict_on_a_repeated_entry :
    let t : FileTable := ⟨[(⟨"main.js"⟩, "import './dep.js'")]⟩
    let o : BuildOptions := ⟨.shared, true, false, resolveStandard, none, []⟩
    let entries := [⟨some ⟨"main.js"⟩, some "", []⟩, Job.ofPath ⟨"./main.js"⟩]
    let start : ResultCache Scanned := .empty
    let r := Build.run Transformer.importScan t.source o entries start 0
    let roots := Path.unseen [] (entries.filterMap Job.path)
    (∀ j ∈ entries, j.path.isSome) ∧
      ∃ order b, r.outcome = .ok b ∧ Bfs (Pass.next o t entries start) roots roots order ∧
        Path.Distinct order ∧ (∀ p ∈ order, (jobOf entries p).key = p) ∧
        (⟨r.cache, b.modules, b.missing, r.serial, r.calls, r.handled⟩ : Ledger Scanned) =
          order.foldl (fun L p => L.record o (verdict o t start (jobOf entries p)))
            ⟨start, [], [], 0, [], []⟩ ∧
        ((o.skipCached && o.caching.isOn) = true →
          ∀ p ∈ order, ∀ q e, verdict o t start (jobOf entries p) ≠ .serve q e) :=
  ⟨by decide, Build.run_handles_each_job_by_its_verdict
    ⟨[(⟨"main.js"⟩, "import './dep.js'")]⟩
    ⟨.shared, true, false, resolveStandard, none, []⟩
    [⟨some ⟨"main.js"⟩, some "", []⟩, Job.ofPath ⟨"./main.js"⟩] .empty 0 (by decide)⟩

end ModuleGraph
