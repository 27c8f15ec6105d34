import ModuleGraph.Proofs.Handling
import ModuleGraph.Proofs.Reuse
import ModuleGraph.Proofs.Provenance

/-!
# A second pass over the store the first one left

A pass that keeps results in a partition leaves there, for every file it serves or transforms,
an entry computed from the content it loaded, whose references lead where the file led. A second
pass over the same entries and files, with the same options, skipping off, and that store, so
goes the way the first went, job for job: each file the first served or transformed it serves,
queueing the same paths again and listing the very same result; each path the first found
missing it finds missing. It never runs the transformer and never writes the store.

The two sweeps are run side by side (`Pass.Mirrors`): the second from a state with the first's
frontier, modules and missing paths, holding the store the first ends with. At each job, the
second finds in its store the entry the first left for the job's file right after handling it:
that file is taken off the queue for good (`Frontier.Wf.past`), so the rest of the first sweep
leaves its entry as it was (`Pass.sweep_get_of_past`).
-/

namespace ModuleGraph

variable {α : Type}

/-- Queueing the paths of references, each once, queues what queueing them all does: a repeated
reference leads where its first occurrence already led. -/
theorem PassContext.enqueueAll_targets_eraseDups (ctx : PassContext α) (f : Frontier) (p : Path)
    (refs : List Reference) :
    f.enqueueAll (ctx.targets p refs.eraseDups) = f.enqueueAll (ctx.targets p refs) := by
  rw [Frontier.enqueueAll_eq, Frontier.enqueueAll_eq, PassContext.targets, PassContext.targets,
    Path.unseen_map_eraseDups]

/-- After a file is served or transformed, with a partition kept, the store holds an entry for
it computed from the content loaded; the step queued the paths the entry's references lead to
and listed the entry's result. -/
theorem Handles.stored_after {ctx : PassContext α} {s s' : Pass α} {job : Job}
    (h : Handles ctx s job (.processed s')) {ns : Partition} (hns : ctx.partition = some ns) :
    ∃ p c e, job.path = some p ∧ (ctx.files.load p job.content).1 = .ok (some c) ∧
      s'.cache.get p ns = some e ∧ e.content = c ∧
      s'.frontier = s.frontier.enqueueAll (ctx.targets p e.references) ∧
      s'.modules = s.modules ++ [(p, e.result)] ∧ s'.missing = s.missing := by
  cases h with
  | served hp _ hload hstored hc hf hl =>
    refine ⟨_, _, _, hp, hload, ?_, hc, hf, congrArg Ledger.modules hl, congrArg Ledger.missing hl⟩
    have hcache : s'.cache = s.cache := congrArg Ledger.cache hl
    rw [hcache]
    simpa [PassContext.stored, hns] using hstored
  | @transformed p c v _ hp _ hload _ _ hf hl =>
    refine ⟨p, c, ⟨c, ⟨s.serial, v⟩, (ctx.referencesOn job p c).eraseDups⟩, hp, hload, ?_, rfl, ?_,
      congrArg Ledger.modules hl, congrArg Ledger.missing hl⟩
    · have hcache : s'.cache = ctx.store s.cache p _ := congrArg Ledger.cache hl
      rw [hcache]
      simp only [PassContext.store, hns]
      exact ResultCache.get_put_self ..
    · -- the entry keeps each reference once, and leads where they all lead
      rw [hf, ctx.enqueueAll_targets_eraseDups]

namespace Pass

/-- A state of a second pass mirrors one of a first: the same frontier, modules and missing
paths. -/
structure Mirrors (s₁ s₂ : Pass α) : Prop where
  frontier : s₂.frontier = s₁.frontier
  modules : s₂.modules = s₁.modules
  missing : s₂.missing = s₁.missing

theorem Mirrors.pop {s₁ s₂ : Pass α} (h : s₁.Mirrors s₂) (rest : List Job) :
    Mirrors { s₁ with frontier := { s₁.frontier with queue := rest } }
      { s₂ with frontier := { s₂.frontier with queue := rest } } :=
  ⟨by rw [h.frontier], h.modules, h.missing⟩

end Pass

namespace Handles

variable {ctx : PassContext α} {job : Job} {s₁ s₂ s₁' : Pass α} {step : Step α}

/-- **One step, again: a job passed over.** With skipping off, a job the first pass passed
over, the second passes over too, to a state mirroring the first's, its store and transformer
calls as they were. -/
theorem again_passed (hskip : ctx.skip = false) (h₁ : Handles ctx s₁ job (.passed s₁'))
    (h₂ : Handles ctx s₂ job step) (hm : s₁.Mirrors s₂) :
    ∃ s₂', step = .passed s₂' ∧ s₁'.Mirrors s₂' ∧ s₂'.cache = s₂.cache ∧ s₂'.calls = s₂.calls := by
  cases h₁ with
  | dropped hp => exact ⟨s₂, h₂.eq_of_path_none hp, hm, rfl, rfl⟩
  | skipped _ hs => simp [hskip, Pass.skips] at hs
  | missing hp _ hload hf hl =>
    obtain ⟨s₂', hstep, hf₂, hl₂⟩ := h₂.passed_of_load_none hp hskip hload
    have hmod₁ : s₁'.modules = s₁.modules := congrArg Ledger.modules hl
    have hmiss₁ : s₁'.missing = s₁.missing ++ [_] := congrArg Ledger.missing hl
    have hmod₂ : s₂'.modules = s₂.modules := congrArg Ledger.modules hl₂
    have hmiss₂ : s₂'.missing = s₂.missing ++ [_] := congrArg Ledger.missing hl₂
    refine ⟨s₂', hstep, ⟨?_, ?_, ?_⟩, congrArg Ledger.cache hl₂, congrArg Ledger.calls hl₂⟩
    · rw [hf₂, hf, hm.frontier]
    · rw [hmod₂, hmod₁, hm.modules]
    · rw [hmiss₂, hmiss₁, hm.missing]

/-- **One step, again: a file served or transformed.** With skipping off and a partition kept,
when the second pass's store holds at the job's path what the first's held right after its
step, a file the first served or transformed the second serves, to a state mirroring the
first's, its store and transformer calls as they were. -/
theorem again_processed {ns : Partition} (hns : ctx.partition = some ns)
    (hskip : ctx.skip = false) (h₁ : Handles ctx s₁ job (.processed s₁'))
    (h₂ : Handles ctx s₂ job step) (hm : s₁.Mirrors s₂)
    (hc : ∀ p, job.path = some p → s₂.cache.get p ns = s₁'.cache.get p ns) :
    ∃ s₂', step = .processed s₂' ∧ s₁'.Mirrors s₂' ∧ s₂'.cache = s₂.cache ∧
      s₂'.calls = s₂.calls := by
  obtain ⟨p, c, e, hp, hload, hget, hce, hf, hmod, hmiss⟩ := h₁.stored_after hns
  have hstored : ctx.stored s₂.cache p = some e := by
    rw [PassContext.stored, hns, Option.bind_some, hc p hp, hget]
  obtain ⟨s₂', hstep, hf₂, hl₂⟩ := h₂.processed_of_stored hp hskip hload hstored hce
  have hmod₂ : s₂'.modules = s₂.modules ++ [(p, e.result)] := congrArg Ledger.modules hl₂
  have hmiss₂ : s₂'.missing = s₂.missing := congrArg Ledger.missing hl₂
  refine ⟨s₂', hstep, ⟨?_, ?_, ?_⟩, congrArg Ledger.cache hl₂, congrArg Ledger.calls hl₂⟩
  · rw [hf₂, hf, hm.frontier]
  · rw [hmod₂, hmod, hm.modules]
  · rw [hmiss₂, hmiss, hm.missing]

end Handles

/-- **The second sweep.** With skipping off and a partition kept, take a sweep that succeeds
from a frontier in shape. A sweep over the same queue from a state mirroring its start and
holding the store it ends with succeeds too, ends mirroring it, and neither writes the store
nor runs the transformer. -/
theorem Pass.sweep_again (ctx : PassContext α) {ns : Partition} (hns : ctx.partition = some ns)
    (hskip : ctx.skip = false) {entries : List Job} (budget : Nat) (s₁ : Pass α)
    (queue : List Job) :
    ∀ {popped : List Path}, s₁.frontier.queue = queue → s₁.frontier.Wf entries popped →
    ∀ {sf₁ : Pass α}, sweep ctx budget s₁ queue = .ok sf₁ →
    ∀ s₂ : Pass α, s₁.Mirrors s₂ → s₂.cache = sf₁.cache →
    ∃ sf₂, sweep ctx budget s₂ queue = .ok sf₂ ∧ sf₁.Mirrors sf₂ ∧
      sf₂.cache = s₂.cache ∧ sf₂.calls = s₂.calls := by
  fun_induction sweep ctx budget s₁ queue with
  | case1 budget s₁ =>
    intro popped _ _ sf₁ hok s₂ hm _
    cases hok
    exact ⟨s₂, Pass.sweep.eq_1 .., hm, rfl, rfl⟩
  | case2 budget s₁ job rest e s₁' hfail =>
    intro popped _ _ sf₁ hok
    cases hok
  | case3 budget s₁ job rest s₁' hpass ih =>
    intro popped hq hwf sf₁ hok s₂ hm hc
    have hh₁ := handle_handles ctx { s₁ with frontier := { s₁.frontier with queue := rest } } job
    rw [hpass] at hh₁
    obtain ⟨s₂', hstep, hm', hc', hcalls'⟩ :=
      hh₁.again_passed hskip (handle_handles ctx _ job) (hm.pop rest)
    have hwf' : s₁'.frontier.Wf entries (popped ++ [job.key]) := by
      rw [hh₁.frontier_of_passed]
      exact hwf.advance hq []
    obtain ⟨sf₂, hsweep, hmf, hcf, hcallsf⟩ :=
      ih (by rw [hh₁.frontier_of_passed]) hwf' hok s₂' hm' (hc'.trans hc)
    refine ⟨sf₂, ?_, hmf, hcf.trans hc', hcallsf.trans hcalls'⟩
    rw [Pass.sweep.eq_2, hstep]
    exact hsweep
  | case4 s₁ job rest s₁' hproc =>
    intro popped hq hwf sf₁ hok s₂ hm hc
    cases hok
    have hh₁ := handle_handles ctx { s₁ with frontier := { s₁.frontier with queue := rest } } job
    rw [hproc] at hh₁
    -- the budget is spent: the first sweep ends with this step's store
    obtain ⟨s₂', hstep, hm', hc', hcalls'⟩ := hh₁.again_processed hns hskip
      (handle_handles ctx _ job) (hm.pop rest) (fun p _ => congrArg (·.get p ns) hc)
    refine ⟨s₂', ?_, hm', hc', hcalls'⟩
    rw [Pass.sweep.eq_2, hstep]
  | case5 s₁ job rest s₁' hproc b ih =>
    intro popped hq hwf sf₁ hok s₂ hm hc
    have hh₁ := handle_handles ctx { s₁ with frontier := { s₁.frontier with queue := rest } } job
    rw [hproc] at hh₁
    obtain ⟨targets, hf⟩ := hh₁.frontier
    have hwf' : s₁'.frontier.Wf entries (popped ++ [job.key]) := by
      rw [show s₁'.frontier = _ from hf]
      exact hwf.advance hq targets
    -- the file just handled is taken for good: the rest of the first sweep keeps its entry
    have hkeep : ∀ p, job.path = some p → s₂.cache.get p ns = s₁'.cache.get p ns := by
      intro p hp
      rw [hc]
      exact Pass.sweep_get_of_past ctx ns b s₁' _ rfl
        (hwf'.past (by simp [Job.key_of_path hp])) hok
    obtain ⟨s₂', hstep, hm', hc', hcalls'⟩ :=
      hh₁.again_processed hns hskip (handle_handles ctx _ job) (hm.pop rest) hkeep
    obtain ⟨sf₂, hsweep, hmf, hcf, hcallsf⟩ := ih rfl hwf' hok s₂' hm' (hc'.trans hc)
    refine ⟨sf₂, ?_, hmf, hcf.trans hc', hcallsf.trans hcalls'⟩
    rw [Pass.sweep.eq_2, hstep]
    dsimp only
    rw [hm'.frontier]
    exact hsweep

/-- **A second pass transforms nothing.** With results kept and skipping off, take a pass that
succeeds, from any store. A second pass over the same entries and files, with the same options
and the store the first left, succeeds with the same build: the same modules, with the very same
results, and the same missing paths. It runs the transformer on no file and leaves the store as
it found it. -/
theorem Build.run_again_transforms_nothing (tr : Transformer α) (files : FileSource)
    (o : BuildOptions) (entries : List Job) (start : ResultCache α) (serial serial' : Nat)
    (hon : o.caching.isOn = true) (hskip : o.skipCached = false) {b : Build α}
    (hok : (Build.run tr files o entries start serial).outcome = .ok b) :
    let r := Build.run tr files o entries start serial
    let r' := Build.run tr files o entries r.cache serial'
    r'.outcome = .ok b ∧ r'.calls = [] ∧ r'.cache = r.cache := by
  cases hseed : Frontier.seed entries with
  | error e =>
    rw [Build.run_of_seed_error _ _ _ hseed] at hok
    cases hok
  | ok seeded =>
    obtain ⟨f, dropped⟩ := seeded
    obtain ⟨log, hrun⟩ := Build.run_of_seed tr files o hseed
    obtain ⟨ns, hns⟩ : ∃ ns, o.caching.partition? = some ns := Option.isSome_iff_exists.mp hon
    have hskip' : (PassContext.of tr files o : PassContext α).skip = false := by
      simp [PassContext.of, BuildOptions.skipsCached_fst, hskip]
    cases hsweep : Pass.sweep (.of tr files o) (files.capacity + entries.length)
        ⟨f, start, [], [], 0, 0, 0, serial, log, [], []⟩ f.queue with
    | error failure =>
      rw [(hrun start serial).2 failure.1 failure.2 hsweep] at hok
      cases hok
    | ok sf₁ =>
      obtain ⟨hout, hcache, -, -⟩ := (hrun start serial).1 sf₁ hsweep
      rw [hout] at hok
      cases hok
      -- the second pass sweeps from the same frontier, holding the store the first left
      obtain ⟨sf₂, hsweep₂, hm, hc, hcalls⟩ := Pass.sweep_again (.of tr files o) hns hskip' _ _ _
        rfl (Frontier.Wf.of_seed hseed) hsweep
        ⟨f, (Build.run tr files o entries start serial).cache, [], [], 0, 0, 0, serial', log, [], []⟩
        ⟨rfl, rfl, rfl⟩ hcache
      obtain ⟨hout₂, hcache₂, hcalls₂, -⟩ :=
        (hrun (Build.run tr files o entries start serial).cache serial').1 sf₂ hsweep₂
      refine ⟨?_, ?_, ?_⟩
      · rw [hout₂, hm.modules, hm.missing]
      · rw [hcalls₂, hcalls]
      · rw [hcache₂, hc]

/-- A pass from one entry keeping results in a named partition, over a store holding an entry
for its import in the shared one, run again on the store it leaves. -/
theorem Build.run_again_transforms_nothing_on_a_named_partition :
    let t : FileTable := ⟨[(⟨"main.js"⟩, "import './dep.js'"), (⟨"dep.js"⟩, "")]⟩
    let o : BuildOptions := ⟨.named "app", false, false, resolveStandard, none, []⟩
    let entries := [Job.ofPath ⟨"main.js"⟩]
    let start : ResultCache Source.Scanned :=
      ⟨[⟨.shared, ⟨"dep.js"⟩, ⟨"old", ⟨0, ⟨⟨"dep.js"⟩, "old", []⟩⟩, []⟩⟩]⟩
    let r := Build.run Transformer.importScan t.source o entries start 0
    ∃ b, (o.caching.isOn = true ∧ o.skipCached = false ∧ r.outcome = .ok b) ∧
      let r' := Build.run Transformer.importScan t.source o entries r.cache 7
      r'.outcome = .ok b ∧ r'.calls = [] ∧ r'.cache = r.cache := by
  intro t o entries start r
  obtain ⟨-, b, hok, -⟩ := Build.run_spec t o entries start 0 (by decide)
  exact ⟨b, ⟨rfl, rfl, hok⟩, Build.run_again_transforms_nothing _ _ _ _ _ _ _ rfl rfl hok⟩

end ModuleGraph
