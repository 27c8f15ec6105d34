import Mathlib.Data.List.Pairwise
import ModuleGraph.Proofs.Handling
import ModuleGraph.Proofs.Provenance

/-!
# What a pass writes to the store, and what it reads

A pass writes the store only when it transforms a file, and then only that file's entry in its
own partition: the content it loaded, the result it lists, and the references the transformer
asked about, each once. So the store a successful pass leaves is the one it found with those
entries written in the order the files were transformed (`PassContext.storeAll`). The entries of
the files it skipped, found missing or served are as they were, and so are all other
partitions; a pass that keeps no results leaves the store as it found it; and a path stored
before keeps its slot and its first spelling (`ResultCache.places_put`).

What a pass reads of the store is its own partition, and only that: a pass from a store that
agrees with another on that partition goes the same way, step for step, and gives the same
build (`Pass.sweep_withCache`).

The writes are tracked along the sweep by `Pass.Wrote`, with the frontier's shape
(`Frontier.Wf`) to know that no file is handled twice.
-/

namespace ModuleGraph

variable {α : Type}

namespace ResultCache

/-- Where the store keeps its entries: each slot's partition and path, as first stored. -/
def places (c : ResultCache α) : List (Partition × Path) :=
  c.slots.map fun s => (s.partition, s.key)

/-- Storing an entry for a path already stored keeps every slot where it was, with its path as
first spelled; a path not stored yet gets a new slot at the end. -/
theorem places_put (c : ResultCache α) (p : Path) (ns : Partition) (e : Entry α) :
    (c.put p ns e).2.places = if c.contains p ns then c.places else c.places ++ [(ns, p)] := by
  unfold put
  split
  · rename_i old h
    simp only [contains, h, Option.isSome_some, if_true, places, List.map_map]
    congr 1
    funext s
    simp only [Function.comp]
    split <;> rfl
  · rename_i h
    simp [contains, h, places]

theorem places_prefix_put (c : ResultCache α) (p : Path) (ns : Partition) (e : Entry α) :
    c.places <+: (c.put p ns e).2.places := by
  rw [places_put]
  split
  · exact List.prefix_refl _
  · exact List.prefix_append _ _

/-- Two stores agree on the partition `ns?` names, if it names one. -/
def AgreeOn (ns? : Option Partition) (c c' : ResultCache α) : Prop :=
  ∀ ns ∈ ns?, ∀ p, c.get p ns = c'.get p ns

end ResultCache

namespace PassContext

variable (ctx : PassContext α)

/-- The store `start` with the entries `ws` written in order. -/
def storeAll (start : ResultCache α) (ws : List (Path × Entry α)) : ResultCache α :=
  ws.foldl (fun c w => ctx.store c w.1 w.2) start

theorem storeAll_append_singleton (start : ResultCache α) (ws : List (Path × Entry α))
    (w : Path × Entry α) :
    ctx.storeAll start (ws ++ [w]) = ctx.store (ctx.storeAll start ws) w.1 w.2 := by
  simp [storeAll, List.foldl_append]

theorem get_store_of_ne (c : ResultCache α) (p q : Path) (e : Entry α) {ns : Partition}
    (h : ctx.partition ≠ some ns) : (ctx.store c p e).get q ns = c.get q ns := by
  unfold store
  split
  · rename_i ns' hns'
    exact ResultCache.get_put_of_ne c p q e fun hne => h (by rw [hns', hne])
  · rfl

/-- Writing entries leaves the entries of files they are not for as they were. -/
theorem get_storeAll_of_fresh (start : ResultCache α) (ws : List (Path × Entry α)) {q : Path}
    (hq : ∀ w ∈ ws, w.1.same q = false) (ns : Partition) :
    (ctx.storeAll start ws).get q ns = start.get q ns := by
  induction ws generalizing start with
  | nil => rfl
  | cons w ws ih =>
    show (ctx.storeAll (ctx.store start w.1 w.2) ws).get q ns = _
    rw [ih _ fun w' hw' => hq w' (List.mem_cons_of_mem _ hw')]
    exact ctx.get_store_of_same_eq_false start w.2 (hq w List.mem_cons_self) ns

theorem get_storeAll_of_ne (start : ResultCache α) (ws : List (Path × Entry α)) {ns : Partition}
    (h : ctx.partition ≠ some ns) (q : Path) :
    (ctx.storeAll start ws).get q ns = start.get q ns := by
  induction ws generalizing start with
  | nil => rfl
  | cons w ws ih =>
    show (ctx.storeAll (ctx.store start w.1 w.2) ws).get q ns = _
    rw [ih]
    exact ctx.get_store_of_ne start w.1 q w.2 h

/-- A pass that keeps no results writes nothing. -/
theorem storeAll_of_none (h : ctx.partition = none) (start : ResultCache α)
    (ws : List (Path × Entry α)) : ctx.storeAll start ws = start := by
  induction ws generalizing start with
  | nil => rfl
  | cons w ws ih =>
    show ctx.storeAll (ctx.store start w.1 w.2) ws = _
    rw [ih]
    simp only [store, h]

/-- Writing entries keeps every slot where it was, with its path as first spelled. -/
theorem places_prefix_storeAll (start : ResultCache α) (ws : List (Path × Entry α)) :
    start.places <+: (ctx.storeAll start ws).places := by
  induction ws generalizing start with
  | nil => exact List.prefix_refl _
  | cons w ws ih =>
    refine List.IsPrefix.trans ?_ (ih (ctx.store start w.1 w.2))
    unfold store
    split
    · exact ResultCache.places_prefix_put _ _ _ _
    · exact List.prefix_refl _

end PassContext

theorem ResultCache.AgreeOn.store {ctx : PassContext α} {c c' : ResultCache α}
    (h : AgreeOn ctx.partition c c') (p : Path) (e : Entry α) :
    AgreeOn ctx.partition (ctx.store c p e) (ctx.store c' p e) := by
  intro ns hns q
  have hns' : ctx.partition = some ns := hns
  simp only [PassContext.store, hns']
  by_cases hq : p.same q = true
  · rw [← get_of_same _ _ hq, ← get_of_same _ _ hq, get_put_self, get_put_self]
  · simp only [Bool.not_eq_true] at hq
    rw [get_put_of_same_eq_false _ _ _ _ hq, get_put_of_same_eq_false _ _ _ _ hq]
    exact h ns hns q

/-! ## What a pass reads of the store -/

/-- A step with the store of its state replaced. -/
def Step.withCache (c : ResultCache α) : Step α → Step α
  | .passed s => .passed { s with cache := c }
  | .processed s => .processed { s with cache := c }
  | .failed e s => .failed e { s with cache := c }

/-- **One step reads only the pass's partition.** Handling a job with a store that agrees with
the pass's own on its partition goes the same way, to the same state but for a store that still
agrees. -/
theorem Pass.handle_withCache (ctx : PassContext α) (s : Pass α) (job : Job) {c : ResultCache α}
    (hc : ResultCache.AgreeOn ctx.partition s.cache c) :
    ∃ c', handle ctx { s with cache := c } job = (handle ctx s job).withCache c' ∧
      ResultCache.AgreeOn ctx.partition (handle ctx s job).state.cache c' := by
  have hstored : ∀ p, ctx.partition.bind (c.get p) = ctx.partition.bind (s.cache.get p) := by
    intro p
    cases h : ctx.partition with
    | none => rfl
    | some ns => simp [hc ns h p]
  unfold Pass.handle
  cases hp : job.path with
  | none => exact ⟨c, rfl, hc⟩
  | some p =>
    dsimp only
    -- the skip test and the test for a stored match read the same entry
    rw [hstored p]
    by_cases hskip : Pass.skips ctx.skip (ctx.partition.bind (s.cache.get p)) job.content = true
    · rw [if_pos hskip, if_pos hskip]
      exact ⟨c, rfl, hc⟩
    · rw [if_neg hskip, if_neg hskip]
      cases hload : (ctx.files.load p job.content).1 with
      | error msg => exact ⟨c, rfl, hc⟩
      | ok loaded =>
        cases loaded with
        | none => exact ⟨c, rfl, hc⟩
        | some content =>
          dsimp only
          cases hf : (ctx.partition.bind (s.cache.get p)).filter (·.matches content) with
          | some e => exact ⟨c, rfl, hc⟩
          | none =>
            dsimp only
            cases hrun : (ctx.transformer.run content (.layered ctx.options.transform job.settings p)
                fun o => mapWith ctx.options.mapSpecifier o p).2 with
            | error msg => exact ⟨c, rfl, hc⟩
            | ok v => exact ⟨ctx.store c p _, rfl, hc.store p _⟩

/-- **A sweep reads only the pass's partition.** A sweep that succeeds succeeds from a store
that agrees with its own on the pass's partition, to the same state but for the store. -/
theorem Pass.sweep_withCache (ctx : PassContext α) (budget : Nat) (s : Pass α)
    (queue : List Job) :
    ∀ {c : ResultCache α}, ResultCache.AgreeOn ctx.partition s.cache c → ∀ {sf : Pass α},
      sweep ctx budget s queue = .ok sf →
      ∃ c', sweep ctx budget { s with cache := c } queue = .ok { sf with cache := c' } := by
  fun_induction sweep ctx budget s queue with
  | case1 budget s =>
    intro c _ sf hok
    cases hok
    exact ⟨c, Pass.sweep.eq_1 ..⟩
  | case2 =>
    intro c _ sf hok
    cases hok
  | case3 budget s job rest s' hpass ih =>
    intro c hc sf hok
    obtain ⟨c', hstep, hc'⟩ :=
      handle_withCache ctx { s with frontier := { s.frontier with queue := rest } } job hc
    rw [hpass] at hstep hc'
    obtain ⟨c'', hsweep⟩ := ih hc' hok
    refine ⟨c'', ?_⟩
    rw [Pass.sweep.eq_2, hstep]
    exact hsweep
  | case4 s job rest s' hproc =>
    intro c hc sf hok
    cases hok
    obtain ⟨c', hstep, -⟩ :=
      handle_withCache ctx { s with frontier := { s.frontier with queue := rest } } job hc
    rw [hproc] at hstep
    refine ⟨c', ?_⟩
    rw [Pass.sweep.eq_2, hstep]
    rfl
  | case5 s job rest s' hproc b ih =>
    intro c hc sf hok
    obtain ⟨c', hstep, hc'⟩ :=
      handle_withCache ctx { s with frontier := { s.frontier with queue := rest } } job hc
    rw [hproc] at hstep hc'
    obtain ⟨c'', hsweep⟩ := ih hc' hok
    refine ⟨c'', ?_⟩
    rw [Pass.sweep.eq_2, hstep]
    exact hsweep

/-! ## What a pass writes to the store -/

/-- What a pass has written: the entries `ws`, one for each file it transformed, in order. The
store is `start` with them written, the transformer was run on their paths, each result is
listed, and each entry is what the job the entries give for its path makes of the file. -/
structure Pass.Wrote (ctx : PassContext α) (entries : List Job) (start : ResultCache α)
    (s : Pass α) (ws : List (Path × Entry α)) : Prop where
  cache : s.cache = ctx.storeAll start ws
  calls : s.calls = ws.map Prod.fst
  transformed : (s.handled.filter (·.2 == .transformed)).map Prod.fst = ws.map Prod.fst
  writes : ∀ w ∈ ws, (w.1, w.2.result) ∈ s.modules ∧ ctx.Writes (jobOf entries w.1) w.1 w.2

namespace Pass.Wrote

variable {ctx : PassContext α} {entries : List Job} {start : ResultCache α} {s s' : Pass α}
  {ws : List (Path × Entry α)}

/-- A step that neither writes the store nor runs the transformer keeps what was written. -/
theorem keep (h : s.Wrote ctx entries start ws) {p : Path} {how : Handling}
    (hc : s'.cache = s.cache) (hcalls : s'.calls = s.calls)
    (hh : s'.handled = s.handled ++ [(p, how)]) (hhow : how ≠ .transformed)
    (hm : ∀ m ∈ s.modules, m ∈ s'.modules) : s'.Wrote ctx entries start ws := by
  refine ⟨hc.trans h.cache, hcalls.trans h.calls, ?_, fun w hw => ?_⟩
  · rw [hh, List.filter_append, List.map_append, h.transformed]
    simp [hhow]
  · exact ⟨hm _ (h.writes w hw).1, (h.writes w hw).2⟩

/-- A transformation writes its entry last. -/
theorem transform (h : s.Wrote ctx entries start ws) {p : Path} {e : Entry α}
    (hc : s'.cache = ctx.store s.cache p e) (hcalls : s'.calls = s.calls ++ [p])
    (hh : s'.handled = s.handled ++ [(p, .transformed)])
    (hm : s'.modules = s.modules ++ [(p, e.result)])
    (hw : ctx.Writes (jobOf entries p) p e) : s'.Wrote ctx entries start (ws ++ [(p, e)]) := by
  refine ⟨?_, ?_, ?_, ?_⟩
  · rw [hc, h.cache, PassContext.storeAll_append_singleton]
  · rw [hcalls, h.calls, List.map_append]
    rfl
  · rw [hh, List.filter_append, List.map_append, h.transformed]
    simp
  · intro w hw'
    rw [hm]
    rcases List.mem_append.mp hw' with hw' | hw'
    · exact ⟨List.mem_append_left _ (h.writes w hw').1, (h.writes w hw').2⟩
    · rw [List.mem_singleton] at hw'
      subst hw'
      exact ⟨by simp, hw⟩

/-- A path handled other than by transforming it is not among the paths written, when no file
is handled twice. -/
theorem fresh_of_handled (h : s.Wrote ctx entries start ws)
    (hd : Path.Distinct (s.handled.map Prod.fst)) {x : Path × Handling} (hx : x ∈ s.handled)
    (hnt : x.2 ≠ .transformed) : ∀ w ∈ ws, w.1.same x.1 = false := by
  intro w hw
  have hmem : w.1 ∈ (s.handled.filter (·.2 == .transformed)).map Prod.fst := by
    rw [h.transformed]
    exact List.mem_map_of_mem hw
  obtain ⟨y, hy, hyw⟩ := List.mem_map.mp hmem
  obtain ⟨hy, hyt⟩ := List.mem_filter.mp hy
  have hxy : x ≠ y := by
    rintro rfl
    exact hnt (by simpa using hyt)
  have hpair : s.handled.Pairwise fun a b => a.1.same b.1 = false := List.pairwise_map.mp hd
  have : Std.Symm fun a b : Path × Handling => a.1.same b.1 = false :=
    ⟨fun a b hab => by rw [Path.same_comm]; exact hab⟩
  rw [← hyw, Path.same_comm]
  exact hpair.forall hx hy hxy

end Pass.Wrote

/-- What a pass from `start` over `entries` keeps along its sweep: its frontier is in shape
with some paths taken off the queue, the paths it handled are among those, in order, and it has
written some entries. -/
def Pass.Writing (ctx : PassContext α) (entries : List Job) (start : ResultCache α)
    (s : Pass α) : Prop :=
  ∃ popped ws, s.frontier.Wf entries popped ∧ (s.handled.map Prod.fst).Sublist popped ∧
    s.Wrote ctx entries start ws

/-- A step that handles a job records one path more, the job's, among those taken. -/
theorem Pass.handled_sublist {s s' : Pass α} {popped : List Path} {job : Job} {p : Path}
    {how : Handling} (hsub : (s.handled.map Prod.fst).Sublist popped) (hp : job.path = some p)
    (hh : s'.handled = s.handled ++ [(p, how)]) :
    (s'.handled.map Prod.fst).Sublist (popped ++ [job.key]) := by
  rw [hh, List.map_append, Job.key_of_path hp]
  exact hsub.append (List.Sublist.refl _)

/-- **The step.** Every step that does not fail keeps what a pass keeps. -/
theorem Pass.Writing.step {ctx : PassContext α} {entries : List Job} {start : ResultCache α}
    {s : Pass α} {job : Job} {rest : List Job} {step : Step α}
    (hq : s.frontier.queue = job :: rest) (h : s.Writing ctx entries start)
    (hh : Handles ctx { s with frontier := { s.frontier with queue := rest } } job step)
    (hnf : ∀ e s', step ≠ .failed e s') : step.state.Writing ctx entries start := by
  obtain ⟨popped, ws, hwf, hsub, hw⟩ := h
  obtain ⟨targets, hf⟩ := hh.frontier
  have hwf' : step.state.frontier.Wf entries (popped ++ [job.key]) := by
    rw [hf]
    exact hwf.advance hq targets
  have hjob : job = jobOf entries job.key := hwf.jobs job (by simp [hq])
  -- taking the job off the queue changes nothing that was written
  have hwp : Pass.Wrote ctx entries start { s with frontier := { s.frontier with queue := rest } }
      ws := ⟨hw.cache, hw.calls, hw.transformed, hw.writes⟩
  cases hh with
  | dropped => exact ⟨_, ws, hwf', hsub.trans (List.sublist_append_left _ _), hwp⟩
  | @skipped p s' hp _ _ hl =>
    have hhd : s'.handled = s.handled ++ [(p, .skipped)] := congrArg Ledger.handled hl
    have hmods : s'.modules = s.modules := congrArg Ledger.modules hl
    exact ⟨_, ws, hwf', Pass.handled_sublist hsub hp hhd,
      hwp.keep (congrArg Ledger.cache hl) (congrArg Ledger.calls hl) hhd (by decide)
        fun m hm => show m ∈ s'.modules by rw [hmods]; exact hm⟩
  | @missing p s' hp _ _ _ hl =>
    have hhd : s'.handled = s.handled ++ [(p, .missing)] := congrArg Ledger.handled hl
    have hmods : s'.modules = s.modules := congrArg Ledger.modules hl
    exact ⟨_, ws, hwf', Pass.handled_sublist hsub hp hhd,
      hwp.keep (congrArg Ledger.cache hl) (congrArg Ledger.calls hl) hhd (by decide)
        fun m hm => show m ∈ s'.modules by rw [hmods]; exact hm⟩
  | unreadable => exact absurd rfl (hnf _ _)
  | @served p c e s' hp _ _ _ _ _ hl =>
    have hhd : s'.handled = s.handled ++ [(p, .served)] := congrArg Ledger.handled hl
    have hmods : s'.modules = s.modules ++ [(p, e.result)] := congrArg Ledger.modules hl
    exact ⟨_, ws, hwf', Pass.handled_sublist hsub hp hhd,
      hwp.keep (congrArg Ledger.cache hl) (congrArg Ledger.calls hl) hhd (by decide)
        fun m hm => show m ∈ s'.modules by rw [hmods]; exact List.mem_append_left _ hm⟩
  | transformFailed => exact absurd rfl (hnf _ _)
  | @transformed p c v s' hp _ hload _ hrun _ hl =>
    have hhd : s'.handled = s.handled ++ [(p, .transformed)] := congrArg Ledger.handled hl
    refine ⟨_, _, hwf', Pass.handled_sublist hsub hp hhd,
      hwp.transform (congrArg Ledger.cache hl) (congrArg Ledger.calls hl) hhd
        (congrArg Ledger.modules hl) ?_⟩
    -- the job taken is the one the entries give for its path
    have hj : jobOf entries p = job := by
      rw [← Job.key_of_path hp]
      exact hjob.symm
    rw [hj]
    exact ⟨hload, hrun, rfl⟩

/-- **The run.** A sweep that succeeds keeps what a pass keeps. -/
theorem Pass.sweep_writing (ctx : PassContext α) {entries : List Job} {start : ResultCache α}
    (budget : Nat) (s : Pass α) (hs : s.Writing ctx entries start) {sf : Pass α}
    (hok : sweep ctx budget s s.frontier.queue = .ok sf) : sf.Writing ctx entries start :=
  Pass.sweep_ok_of_step ctx (fun _ _ _ _ hq hs hh hnf => hs.step hq hh hnf) budget s _ rfl hs sf
    hok

/-- **What a pass writes and reads.** Take a pass that succeeds. The files it transformed, in
order, are those the transformer ran on, and for each it wrote one entry, in that order, into
the store it found, in its own partition (`PassContext.store`, by `ResultCache.put`): the
content it loaded for the file, the very result it lists for it, and the references the
transformer asked about, each once. A path stored before keeps its slot and its first spelling.
So the entries of the files it skipped, found missing or served are as they were, all other
partitions are as they were, and a pass that keeps no results leaves the store as it found it.
And a pass from any store that agrees with this one on the pass's partition gives the same
build. -/
theorem Build.run_writes_only_transformed_files (tr : Transformer α) (files : FileSource)
    (o : BuildOptions) (entries : List Job) (start : ResultCache α) (serial : Nat) {b : Build α}
    (hok : (Build.run tr files o entries start serial).outcome = .ok b) :
    let r := Build.run tr files o entries start serial
    let ctx := PassContext.of tr files o
    ∃ ws : List (Path × Entry α),
      ws.map Prod.fst = (r.handled.filter (·.2 == .transformed)).map Prod.fst ∧
      r.calls = ws.map Prod.fst ∧
      r.cache = ctx.storeAll start ws ∧
      (∀ w ∈ ws, (w.1, w.2.result) ∈ b.modules ∧ ctx.Writes (jobOf entries w.1) w.1 w.2) ∧
      start.places <+: r.cache.places ∧
      (∀ x ∈ r.handled, x.2 ≠ .transformed → ∀ ns, r.cache.get x.1 ns = start.get x.1 ns) ∧
      (∀ ns, o.caching.partition? ≠ some ns → ∀ q, r.cache.get q ns = start.get q ns) ∧
      (o.caching.partition? = none → r.cache = start) ∧
      ∀ start' : ResultCache α, ResultCache.AgreeOn o.caching.partition? start start' →
        (Build.run tr files o entries start' serial).outcome = .ok b := by
  cases hseed : Frontier.seed entries with
  | error e =>
    rw [Build.run_of_seed_error _ _ _ hseed] at hok
    cases hok
  | ok seeded =>
    obtain ⟨f, dropped⟩ := seeded
    obtain ⟨log, hrun⟩ := Build.run_of_seed tr files o hseed
    cases hsweep : Pass.sweep (.of tr files o) (files.capacity + entries.length)
        ⟨f, start, [], [], 0, 0, 0, serial, log, [], []⟩ f.queue with
    | error failure =>
      rw [(hrun start serial).2 failure.1 failure.2 hsweep] at hok
      cases hok
    | ok sf =>
      obtain ⟨hout, hcache, hcalls, hhandled⟩ := (hrun start serial).1 sf hsweep
      rw [hout] at hok
      cases hok
      have hstart : Pass.Writing (.of tr files o) entries start
          ⟨f, start, [], [], 0, 0, 0, serial, log, [], []⟩ :=
        ⟨[], [], Frontier.Wf.of_seed hseed, List.Sublist.slnil,
          ⟨rfl, rfl, rfl, fun _ hw => absurd hw List.not_mem_nil⟩⟩
      obtain ⟨popped, ws, hwf, hsub, hw⟩ := Pass.sweep_writing _ _ _ hstart hsweep
      -- no file is handled twice: the paths handled are among those taken off the queue
      have hd : Path.Distinct (sf.handled.map Prod.fst) := hwf.distinct_popped.sublist hsub
      refine ⟨ws, ?_, ?_, ?_, ?_, ?_, ?_, ?_, ?_, ?_⟩
      · rw [hhandled, hw.transformed]
      · rw [hcalls, hw.calls]
      · rw [hcache, hw.cache]
      · exact hw.writes
      · rw [hcache, hw.cache]
        exact PassContext.places_prefix_storeAll _ start ws
      · intro x hx hnt ns
        rw [hhandled] at hx
        rw [hcache, hw.cache]
        exact PassContext.get_storeAll_of_fresh _ start ws (hw.fresh_of_handled hd hx hnt) ns
      · intro ns hns q
        rw [hcache, hw.cache]
        exact PassContext.get_storeAll_of_ne _ start ws hns q
      · intro hnone
        rw [hcache, hw.cache]
        exact PassContext.storeAll_of_none _ hnone start ws
      · intro start' hagree
        obtain ⟨c', hsweep'⟩ := Pass.sweep_withCache _ _ _ _ hagree hsweep
        exact ((hrun start' serial).1 _ hsweep').1

/-- A pass from one entry keeping results in a named partition, over a store holding an entry
for its import in the shared one. -/
theorem Build.run_writes_only_transformed_files_on_a_named_partition :
    let t : FileTable := ⟨[(⟨"main.js"⟩, "import './dep.js'"), (⟨"dep.js"⟩, "")]⟩
    let o : BuildOptions := ⟨.named "app", false, false, resolveStandard, none, []⟩
    let entries := [Job.ofPath ⟨"main.js"⟩]
    let start : ResultCache Source.Scanned :=
      ⟨[⟨.shared, ⟨"dep.js"⟩, ⟨"old", ⟨0, ⟨⟨"dep.js"⟩, "old", []⟩⟩, []⟩⟩]⟩
    let r := Build.run Transformer.importScan t.source o entries start 0
    let ctx := PassContext.of Transformer.importScan t.source o
    ∃ b, r.outcome = .ok b ∧ ∃ ws : List (Path × Entry Source.Scanned),
      ws.map Prod.fst = (r.handled.filter (·.2 == .transformed)).map Prod.fst ∧
      r.calls = ws.map Prod.fst ∧
      r.cache = ctx.storeAll start ws ∧
      (∀ w ∈ ws, (w.1, w.2.result) ∈ b.modules ∧ ctx.Writes (jobOf entries w.1) w.1 w.2) ∧
      start.places <+: r.cache.places ∧
      (∀ x ∈ r.handled, x.2 ≠ .transformed → ∀ ns, r.cache.get x.1 ns = start.get x.1 ns) ∧
      (∀ ns, o.caching.partition? ≠ some ns → ∀ q, r.cache.get q ns = start.get q ns) ∧
      (o.caching.partition? = none → r.cache = start) ∧
      ∀ start' : ResultCache Source.Scanned, ResultCache.AgreeOn o.caching.partition? start start' →
        (Build.run Transformer.importScan t.source o entries start' 0).outcome = .ok b := by
  intro t o entries start r ctx
  obtain ⟨-, b, hok, -⟩ := Build.run_spec t o entries start 0 (by decide)
  exact ⟨b, hok, Build.run_writes_only_transformed_files _ _ _ _ _ _ hok⟩

end ModuleGraph
