import ModuleGraph.Proofs.StoreWrites

/-!
# How a pass fails

A pass fails in one of three ways. An entry has no path (no file name, or an empty one): this is
found when the frontier is seeded, before anything else, and the pass fails at the first such
entry having loaded, transformed, handled and stored nothing. A file cannot be read, or the
transformer fails on it: these stop the sweep at the job they happen on, and the failure is that
job's step (`Pass.sweep_error_of_step`).

Over a file table with the import scan only the first can happen. The table reads a path only
once it has said, comparing paths the same way, that the path is a file, so reading never fails;
and the scan never fails. So a pass there fails exactly when an entry has no path.

With a transformer that can fail, a failure on a file stops the pass with the store as the
transformations before it left it: the entries they wrote, in the order written, and nothing
for the file that failed, since a pass writes a file's entry only after its transformation
succeeds.
-/

namespace ModuleGraph

variable {α : Type}

/-- **The run lemma for a failing sweep.** A property of pass states that every step which does
not fail keeps, from the state a job is taken off the queue in, holds of the state a failing sweep
takes its last job from, and that job's step is the failure. -/
theorem Pass.sweep_error_of_step (ctx : PassContext α) {P : Pass α → Prop}
    (hstep : ∀ s job rest step, s.frontier.queue = job :: rest → P s →
      Handles ctx { s with frontier := { s.frontier with queue := rest } } job step →
      (∀ e s', step ≠ .failed e s') → P step.state)
    (budget : Nat) (s : Pass α) (queue : List Job) :
    s.frontier.queue = queue → P s → ∀ e sf, sweep ctx budget s queue = .error (e, sf) →
      ∃ s₁ job rest, s₁.frontier.queue = job :: rest ∧ P s₁ ∧
        Handles ctx { s₁ with frontier := { s₁.frontier with queue := rest } } job (.failed e sf) := by
  fun_induction sweep ctx budget s queue with
  | case1 budget s =>
    intro _ _ e sf herr
    cases herr
  | case2 budget s job rest e' s' hfail =>
    intro hq hs e sf herr
    cases herr
    have hh := handle_handles ctx { s with frontier := { s.frontier with queue := rest } } job
    rw [hfail] at hh
    exact ⟨s, job, rest, hq, hs, hh⟩
  | case3 budget s job rest s' hpass ih =>
    intro hq hs e sf herr
    have hh := handle_handles ctx { s with frontier := { s.frontier with queue := rest } } job
    rw [hpass] at hh
    have hs' : P s' := hstep s job rest _ hq hs hh (fun _ _ h => by cases h)
    -- a job passed over leaves the rest of the queue as it was
    exact ih (by rw [hh.frontier_of_passed]) hs' e sf herr
  | case4 s job rest s' hproc =>
    intro _ _ e sf herr
    cases herr
  | case5 s job rest s' hproc b ih =>
    intro hq hs e sf herr
    have hh := handle_handles ctx { s with frontier := { s.frontier with queue := rest } } job
    rw [hproc] at hh
    exact ih rfl (hstep s job rest _ hq hs hh (fun _ _ h => by cases h)) e sf herr

namespace Frontier

/-- Entries fail to seed the frontier at the first one without a path, and only there. -/
theorem seed_error_index {entries : List Job} {e : MissingPath} (h : seed entries = .error e) :
    ∃ hi : e.index < entries.length, entries[e.index].path = none ∧
      ∀ j ∈ entries.take e.index, j.path.isSome := by
  unfold seed at h
  split at h
  · rename_i i hi
    cases h
    obtain ⟨hlt, hnone, hbefore⟩ := List.findIdx?_eq_some_iff_getElem.mp hi
    refine ⟨hlt, by simpa using hnone, ?_⟩
    intro j hj
    obtain ⟨k, hk, rfl⟩ := List.mem_take_iff_getElem.mp hj
    exact Option.isSome_iff_ne_none.mpr (by simpa using hbefore k (Nat.lt_min.mp hk).1)
  · cases h

end Frontier

/-- **Over a file table, only entries without a path fail.** A pass over a file table with
the import scan fails exactly when an entry has no path. It then fails with the position of the
first such entry, and returns the store and serial number it was given, with no log, no
transformer call and no handled job: nothing was loaded, transformed or stored. -/
theorem Build.run_fails_only_on_a_pathless_entry (t : FileTable) (o : BuildOptions)
    (entries : List Job) (c : ResultCache Source.Scanned) (serial : Nat) :
    let r := Build.run Transformer.importScan t.source o entries c serial
    ((∃ e, r.outcome = .error e) ↔ ∃ j ∈ entries, j.path = none) ∧
      ∀ e, r.outcome = .error e → ∃ (i : Nat) (hi : i < entries.length),
        entries[i].path = none ∧ (∀ j ∈ entries.take i, j.path.isSome) ∧
        r = ⟨.error (.missingPath ⟨i⟩), c, serial, [], [], []⟩ := by
  intro r
  by_cases hpaths : ∀ j ∈ entries, j.path.isSome
  · -- every entry has a path: the pass succeeds
    obtain ⟨-, b, hok, -⟩ := Build.run_spec t o entries c serial hpaths
    have hno : ¬ ∃ j ∈ entries, j.path = none := by
      rintro ⟨j, hj, hnone⟩
      simpa [hnone] using hpaths j hj
    refine ⟨⟨fun ⟨e, he⟩ => ?_, fun h => absurd h hno⟩, fun e he => ?_⟩
    · rw [hok] at he
      cases he
    · rw [hok] at he
      cases he
  · obtain ⟨e, hseed⟩ := Frontier.seed_eq_error hpaths
    have hr : r = ⟨.error (.missingPath e), c, serial, [], [], []⟩ :=
      Build.run_of_seed_error _ _ _ hseed c serial
    obtain ⟨hi, hnone, hbefore⟩ := Frontier.seed_error_index hseed
    exact ⟨⟨fun _ => ⟨entries[e.index], List.getElem_mem hi, hnone⟩, fun _ => ⟨_, by rw [hr]⟩⟩,
      fun _ _ => ⟨e.index, hi, hnone, hbefore, hr⟩⟩

/-- A pass whose entries seed the frontier and which fails, fails at one step of its loop: the
step is taken from a state whose store holds the writes of the files transformed before it, and
the pass returns what the failing step leaves. -/
theorem Build.run_error_at_step (tr : Transformer α) (files : FileSource) (o : BuildOptions)
    {entries : List Job} (start : ResultCache α) (serial : Nat) {f : Frontier}
    {dropped : List Path} (hseed : Frontier.seed entries = .ok (f, dropped)) {e : BuildError}
    (hfail : (Build.run tr files o entries start serial).outcome = .error e) :
    ∃ s₁ job rest sf, Pass.Writing (.of tr files o) entries start s₁ ∧
      s₁.frontier.queue = job :: rest ∧
      Handles (.of tr files o) { s₁ with frontier := { s₁.frontier with queue := rest } } job
        (.failed e sf) ∧
      Build.run tr files o entries start serial =
        ⟨.error e, sf.cache, sf.serial, sf.log, sf.calls, sf.handled⟩ := by
  obtain ⟨log, hrun⟩ := Build.run_of_seed tr files o hseed
  cases hsweep : Pass.sweep (.of tr files o) (files.capacity + entries.length)
      ⟨f, start, [], [], 0, 0, 0, serial, log, [], []⟩ f.queue with
  | ok sf =>
    rw [((hrun start serial).1 sf hsweep).1] at hfail
    cases hfail
  | error failure =>
    obtain ⟨e', sf⟩ := failure
    have hr : Build.run tr files o entries start serial =
        ⟨.error e', sf.cache, sf.serial, sf.log, sf.calls, sf.handled⟩ :=
      (hrun start serial).2 e' sf hsweep
    have he : e' = e := by
      rw [hr] at hfail
      exact Except.error.inj hfail
    subst he
    have hstart : Pass.Writing (.of tr files o) entries start
        ⟨f, start, [], [], 0, 0, 0, serial, log, [], []⟩ :=
      ⟨[], [], Frontier.Wf.of_seed hseed, List.Sublist.slnil,
        ⟨rfl, rfl, rfl, fun _ hw => absurd hw List.not_mem_nil⟩⟩
    obtain ⟨s₁, job, rest, hq, hw, hh⟩ :=
      Pass.sweep_error_of_step _ (fun _ _ _ _ hq hs hh hnf => hs.step hq hh hnf) _ _ _ rfl
        hstart e' sf hsweep
    exact ⟨s₁, job, rest, sf, hw, hq, hh, hr⟩

/-- **A failed transformation keeps the earlier writes only.** A pass, with any transformer over
any file source, that fails on transforming the file at `P` handled that file last and ran the
transformer on it last. Before it, the pass transformed some files and wrote one entry for each, in
order, into the store it was given, each entry the work of the pass on its file; the store it
leaves holds exactly those writes, none for a file naming the same file as `P`, so the entries of
`P` are as they were. -/
theorem Build.run_transformFailed_keeps_earlier_writes (tr : Transformer α) (files : FileSource)
    (o : BuildOptions) (entries : List Job) (start : ResultCache α) (serial : Nat) {P : Path}
    {msg : String}
    (hfail : (Build.run tr files o entries start serial).outcome = .error (.transformFailed P msg)) :
    let r := Build.run tr files o entries start serial
    let ctx := PassContext.of tr files o
    ∃ (ws : List (Path × Entry α)) (before : List (Path × Handling)),
      r.handled = before ++ [(P, .failed)] ∧
      ws.map Prod.fst = (before.filter (·.2 == .transformed)).map Prod.fst ∧
      r.calls = ws.map Prod.fst ++ [P] ∧
      r.cache = ctx.storeAll start ws ∧
      (∀ w ∈ ws, ctx.Writes (jobOf entries w.1) w.1 w.2 ∧ w.1.same P = false) ∧
      ∀ ns, r.cache.get P ns = start.get P ns := by
  intro r ctx
  cases hseed : Frontier.seed entries with
  | error e =>
    rw [Build.run_of_seed_error _ _ _ hseed] at hfail
    cases hfail
  | ok seeded =>
    obtain ⟨f, dropped⟩ := seeded
    obtain ⟨s₁, job, rest, sf, ⟨popped, ws, hwf, hsub, hw⟩, hq, hh, hr⟩ :=
      Build.run_error_at_step tr files o start serial hseed hfail
    replace hr : r = ⟨.error _, sf.cache, sf.serial, sf.log, sf.calls, sf.handled⟩ := hr
    -- the step that failed ran the transformer on the job's file and wrote nothing
    cases hh with
    | transformFailed hp _ _ _ _ _ hl =>
      have hhandled : sf.handled = s₁.handled ++ [(P, .failed)] := congrArg Ledger.handled hl
      have hcalls : sf.calls = s₁.calls ++ [P] := congrArg Ledger.calls hl
      have hcache : sf.cache = s₁.cache := congrArg Ledger.cache hl
      -- a file written before was taken off the queue before, and the job's file was not
      have hfresh : ∀ w ∈ ws, w.1.same P = false := by
        intro w hmem
        have hpopped : w.1 ∈ popped := by
          have h₁ : w.1 ∈ (s₁.handled.filter (·.2 == .transformed)).map Prod.fst := by
            rw [hw.transformed]
            exact List.mem_map_of_mem hmem
          exact hsub.subset ((List.filter_sublist.map Prod.fst).subset h₁)
        have hnot := hwf.fresh_key hq
        rw [Job.key_of_path hp, List.any_eq_false] at hnot
        simpa using hnot w.1 hpopped
      refine ⟨ws, s₁.handled, ?_, hw.transformed.symm, ?_, ?_, fun w hmem =>
        ⟨(hw.writes w hmem).2, hfresh w hmem⟩, fun ns => ?_⟩
      · rw [hr, hhandled]
      · rw [hr, hcalls, hw.calls]
      · rw [hr, hcache, hw.cache]
      · rw [hr]
        show sf.cache.get P ns = _
        rw [hcache, hw.cache]
        exact PassContext.get_storeAll_of_fresh _ start ws hfresh ns

/-- **How a pass fails.** Over a file table with the import scan, a pass fails exactly when an
entry has no path, and then with the position of the first such entry, before loading,
transforming, handling or storing anything. With any transformer over any file source, a pass
that fails on transforming the file at `P` handled it last and leaves the store with the writes
of the transformations before it, in order, and none for `P`. -/
theorem Build.run_errors_are_pathless_entries_or_aborts (t : FileTable) (o : BuildOptions)
    (entries : List Job) (c : ResultCache Source.Scanned) (serial : Nat) :
    (let r := Build.run Transformer.importScan t.source o entries c serial;
      ((∃ e, r.outcome = .error e) ↔ ∃ j ∈ entries, j.path = none) ∧
        ∀ e, r.outcome = .error e → ∃ (i : Nat) (hi : i < entries.length),
          entries[i].path = none ∧ (∀ j ∈ entries.take i, j.path.isSome) ∧
          r = ⟨.error (.missingPath ⟨i⟩), c, serial, [], [], []⟩) ∧
    ∀ {α : Type} (tr : Transformer α) (files : FileSource) (start : ResultCache α) (P : Path)
      (msg : String),
      (Build.run tr files o entries start serial).outcome = .error (.transformFailed P msg) →
      let r := Build.run tr files o entries start serial
      let ctx := PassContext.of tr files o
      ∃ (ws : List (Path × Entry α)) (before : List (Path × Handling)),
        r.handled = before ++ [(P, .failed)] ∧
        ws.map Prod.fst = (before.filter (·.2 == .transformed)).map Prod.fst ∧
        r.calls = ws.map Prod.fst ++ [P] ∧ r.cache = ctx.storeAll start ws ∧
        (∀ w ∈ ws, ctx.Writes (jobOf entries w.1) w.1 w.2 ∧ w.1.same P = false) ∧
        ∀ ns, r.cache.get P ns = start.get P ns :=
  ⟨Build.run_fails_only_on_a_pathless_entry t o entries c serial,
    fun tr files start _ _ hfail =>
      Build.run_transformFailed_keeps_earlier_writes tr files o entries start serial hfail⟩

/-- A pass keeping results whose transformer fails on its one entry stores nothing for it. -/
theorem Build.run_errors_are_pathless_entries_or_aborts_on_a_failing_entry :
    let tr : Transformer Nat := ⟨fun _ _ _ => ([], .error "boom")⟩
    let o : BuildOptions := ⟨.shared, false, false, resolveStandard, none, []⟩
    let r := Build.run tr FileTable.empty.source o [⟨some ⟨"a.js"⟩, some "", []⟩] .empty 0
    r.outcome = .error (.transformFailed ⟨"a.js"⟩ "boom") ∧
      ∀ ns, r.cache.get ⟨"a.js"⟩ ns = none := by
  intro tr o r
  have hseed : Frontier.seed [⟨some ⟨"a.js"⟩, some "", []⟩] =
      .ok (⟨[⟨some ⟨"a.js"⟩, some "", []⟩], [⟨"a.js"⟩]⟩, []) := rfl
  have hfail : r.outcome = .error (.transformFailed ⟨"a.js"⟩ "boom") := by
    show (Build.run tr FileTable.empty.source o _ .empty 0).outcome = _
    rw [Build.run, hseed]
    simp only
    rw [Pass.sweep.eq_2]
    simp [Pass.handle, Job.path, Pass.skips, FileSource.load, tr, o, Discovery.registerAll,
      BuildOptions.skipsCached, Caching.isOn, Caching.partition?]
  obtain ⟨-, -, -, -, -, -, -, hkept⟩ :=
    (Build.run_errors_are_pathless_entries_or_aborts FileTable.empty o
      [⟨some ⟨"a.js"⟩, some "", []⟩] .empty 0).2 tr FileTable.empty.source .empty _ _ hfail
  exact ⟨hfail, hkept⟩

end ModuleGraph
