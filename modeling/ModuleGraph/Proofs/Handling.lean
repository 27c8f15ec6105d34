import ModuleGraph.Proofs.Verdict

/-!
# Handling one job, for any transformer and file source

`Pass.handle` takes one job off the queue and goes one of seven ways: it drops a job without a
path, skips a job the store stands for, records a path that is no file, fails on a file it cannot
read, serves a file from the store, fails on a transformation, or transforms the file. `Handles`
names the seven ways, each with what was read to go that way and what was done to the frontier
and to the pass's ledger, and `handle_handles` proves that every job is handled one of these
ways. The lemmas after it read a step through `Handles` only.

Whole sweeps are read through one run lemma, `Pass.sweep_ok_of_step`: a property every step
keeps holds at the end. The frontier keeps the shape seeding gave it (`Frontier.Wf`), so a path
taken off the queue is taken for good, and since a step writes the store at most at its own
job's path, such a path keeps its stored entry to the end of the sweep. Last, a pass is a sweep
of the frontier its entries seed (`Build.run_of_seed`).
-/

namespace ModuleGraph

variable {α : Type}

namespace PassContext

variable (ctx : PassContext α)

/-- The entry a pass consults for a path: the one in its partition, if it keeps results. -/
def stored (c : ResultCache α) (p : Path) : Option (Entry α) := ctx.partition.bind (c.get p)

/-- The transformer's run on `content` for `job` at `p`: the job's settings layered over the
global ones, each specifier mapped by the caller's map. -/
def runOn (job : Job) (p : Path) (content : String) : List String × Except String α :=
  ctx.transformer.run content (.layered ctx.options.transform job.settings p)
    fun o => mapWith ctx.options.mapSpecifier o p

/-- The references of that run: each specifier asked about, with its mapped form. -/
def referencesOn (job : Job) (p : Path) (content : String) : List Reference :=
  (ctx.runOn job p content).1.map fun o => ⟨o, mapWith ctx.options.mapSpecifier o p⟩

/-- The paths references lead to from the file at `p`. -/
def targets (p : Path) (refs : List Reference) : List Path := refs.map (ctx.options.lookup.target p)

/-- The store once a transformed file's entry is written, if the pass keeps results. -/
def store (c : ResultCache α) (p : Path) (e : Entry α) : ResultCache α :=
  match ctx.partition with
  | some ns => (c.put p ns e).2
  | none => c

/-- The entry a pass writes when it transforms the file at `p` for `job`: the content loaded
for the job, the transformer's result on it, and the references the transformer asked about,
each once, in the order first asked. -/
def Writes (job : Job) (p : Path) (e : Entry α) : Prop :=
  (ctx.files.load p job.content).1 = .ok (some e.content) ∧
    (ctx.runOn job p e.content).2 = .ok e.result.value ∧
    e.references = (ctx.referencesOn job p e.content).eraseDups

end PassContext

/-- The state a step leaves, whether the pass goes on or fails. -/
def Step.state : Step α → Pass α
  | .passed s | .processed s | .failed _ s => s

/-- The seven ways `Pass.handle` can go, each with what it read to go that way and what it did
to the frontier and to the ledger of the pass. -/
inductive Handles (ctx : PassContext α) (s : Pass α) (job : Job) : Step α → Prop
  /-- A job without a path is dropped. -/
  | dropped : job.path = none → Handles ctx s job (.passed s)
  /-- Skipping is on and the stored entry stands for the job. -/
  | skipped {p : Path} {s' : Pass α} : job.path = some p →
      Pass.skips ctx.skip (ctx.stored s.cache p) job.content = true →
      s'.frontier = s.frontier →
      s'.ledger = { s.ledger with handled := s.ledger.handled ++ [(p, .skipped)] } →
      Handles ctx s job (.passed s')
  /-- No content was supplied and the path is no file. -/
  | missing {p : Path} {s' : Pass α} : job.path = some p →
      Pass.skips ctx.skip (ctx.stored s.cache p) job.content = false →
      (ctx.files.load p job.content).1 = .ok none →
      s'.frontier = s.frontier →
      s'.ledger = { s.ledger with
        missing := s.ledger.missing ++ [p], handled := s.ledger.handled ++ [(p, .missing)] } →
      Handles ctx s job (.passed s')
  /-- The file could not be read. -/
  | unreadable {p : Path} {msg : String} {s' : Pass α} : job.path = some p →
      Pass.skips ctx.skip (ctx.stored s.cache p) job.content = false →
      (ctx.files.load p job.content).1 = .error msg →
      s'.frontier = s.frontier →
      s'.ledger = { s.ledger with handled := s.ledger.handled ++ [(p, .failed)] } →
      Handles ctx s job (.failed (.unreadable msg) s')
  /-- The stored entry was computed from exactly the content loaded: it is served, and its
  references are registered again. -/
  | served {p : Path} {c : String} {e : Entry α} {s' : Pass α} : job.path = some p →
      Pass.skips ctx.skip (ctx.stored s.cache p) job.content = false →
      (ctx.files.load p job.content).1 = .ok (some c) →
      ctx.stored s.cache p = some e → e.content = c →
      s'.frontier = s.frontier.enqueueAll (ctx.targets p e.references) →
      s'.ledger = { s.ledger with
        modules := s.ledger.modules ++ [(p, e.result)]
        handled := s.ledger.handled ++ [(p, .served)] } →
      Handles ctx s job (.processed s')
  /-- The transformer ran on the content loaded and failed. -/
  | transformFailed {p : Path} {c msg : String} {s' : Pass α} : job.path = some p →
      Pass.skips ctx.skip (ctx.stored s.cache p) job.content = false →
      (ctx.files.load p job.content).1 = .ok (some c) →
      (∀ e, ctx.stored s.cache p = some e → e.content ≠ c) →
      (ctx.runOn job p c).2 = .error msg →
      s'.frontier = s.frontier.enqueueAll (ctx.targets p (ctx.referencesOn job p c)) →
      s'.ledger = { s.ledger with
        calls := s.ledger.calls ++ [p], handled := s.ledger.handled ++ [(p, .failed)] } →
      Handles ctx s job (.failed (.transformFailed p msg) s')
  /-- The transformer ran on the content loaded: its result gets the next serial number, is
  stored with the references it asked about, each once, and is listed. -/
  | transformed {p : Path} {c : String} {v : α} {s' : Pass α} : job.path = some p →
      Pass.skips ctx.skip (ctx.stored s.cache p) job.content = false →
      (ctx.files.load p job.content).1 = .ok (some c) →
      (∀ e, ctx.stored s.cache p = some e → e.content ≠ c) →
      (ctx.runOn job p c).2 = .ok v →
      s'.frontier = s.frontier.enqueueAll (ctx.targets p (ctx.referencesOn job p c)) →
      s'.ledger = ⟨ctx.store s.cache p ⟨c, ⟨s.serial, v⟩, (ctx.referencesOn job p c).eraseDups⟩,
        s.modules ++ [(p, ⟨s.serial, v⟩)], s.missing, s.serial + 1, s.calls ++ [p],
        s.handled ++ [(p, .transformed)]⟩ →
      Handles ctx s job (.processed s')

/-- **Every job is handled one of the seven ways.** -/
theorem handle_handles (ctx : PassContext α) (s : Pass α) (job : Job) :
    Handles ctx s job (Pass.handle ctx s job) := by
  unfold Pass.handle
  cases hp : job.path with
  | none => exact .dropped hp
  | some p =>
    dsimp only
    by_cases hskip : Pass.skips ctx.skip (ctx.stored s.cache p) job.content = true
    · rw [PassContext.stored] at hskip
      rw [if_pos hskip]
      exact .skipped hp hskip rfl rfl
    · simp only [Bool.not_eq_true] at hskip
      rw [PassContext.stored] at hskip
      rw [if_neg (by simp [hskip])]
      cases hload : (ctx.files.load p job.content).1 with
      | error msg => exact .unreadable hp hskip hload rfl rfl
      | ok loaded =>
        cases loaded with
        | none => exact .missing hp hskip hload rfl rfl
        | some c =>
          dsimp only
          cases hf : (ctx.partition.bind (s.cache.get p)).filter (·.matches c) with
          | some e =>
            -- the entry matches the content loaded: served, its references registered again
            obtain ⟨hstored, hm⟩ := Option.filter_eq_some_iff.mp hf
            have hc : e.content = c := by simpa [Entry.matches] using hm
            exact .served hp hskip hload hstored hc
              (Discovery.registerAll_frontier _ _ (Discovery.settled_empty _) _) rfl
          | none =>
            have hfresh : ∀ e, ctx.stored s.cache p = some e → e.content ≠ c := by
              intro e he hc
              have he' : ctx.partition.bind (s.cache.get p) = some e := he
              rw [he'] at hf
              simp [Option.filter, Entry.matches, hc] at hf
            cases hrun : (ctx.runOn job p c).2 with
            | error msg =>
              have hrun' : (ctx.transformer.run c (.layered ctx.options.transform job.settings p)
                  fun o => mapWith ctx.options.mapSpecifier o p).2 = .error msg := hrun
              dsimp only
              rw [hrun']
              exact .transformFailed hp hskip hload hfresh hrun
                (Discovery.registerAll_frontier _ _ (Discovery.settled_empty _) _) rfl
            | ok v =>
              have hrun' : (ctx.transformer.run c (.layered ctx.options.transform job.settings p)
                  fun o => mapWith ctx.options.mapSpecifier o p).2 = .ok v := hrun
              dsimp only
              rw [hrun']
              refine .transformed hp hskip hload hfresh hrun
                (Discovery.registerAll_frontier _ _ (Discovery.settled_empty _) _) ?_
              -- the references stored are those registered, each once
              simp only [Pass.ledger, Pass.note, Discovery.registerAll_empty_references]
              rfl

theorem PassContext.get_store_of_same_eq_false (ctx : PassContext α) (c : ResultCache α)
    {p q : Path} (e : Entry α) (h : p.same q = false) (ns : Partition) :
    (ctx.store c p e).get q ns = c.get q ns := by
  unfold PassContext.store
  split
  · exact ResultCache.get_put_of_same_eq_false c _ ns e h
  · rfl

theorem Pass.cache_of_ledger {s : Pass α} {L : Ledger α} (h : s.ledger = L) : s.cache = L.cache :=
  congrArg Ledger.cache h

namespace Handles

variable {ctx : PassContext α} {s : Pass α} {job : Job} {step : Step α}

/-- A step queues, after what the frontier held, the unseen paths among some targets. -/
theorem frontier (h : Handles ctx s job step) :
    ∃ targets, step.state.frontier = s.frontier.enqueueAll targets := by
  cases h with
  | dropped => exact ⟨[], rfl⟩
  | skipped _ _ hf _ => exact ⟨[], hf⟩
  | missing _ _ _ hf _ => exact ⟨[], hf⟩
  | unreadable _ _ _ hf _ => exact ⟨[], hf⟩
  | served _ _ _ _ _ hf _ => exact ⟨_, hf⟩
  | transformFailed _ _ _ _ _ hf _ => exact ⟨_, hf⟩
  | transformed _ _ _ _ _ hf _ => exact ⟨_, hf⟩

/-- A step that passes a job over leaves the frontier as it was. -/
theorem frontier_of_passed {s' : Pass α} (h : Handles ctx s job (.passed s')) :
    s'.frontier = s.frontier := by
  cases h with
  | dropped => rfl
  | skipped _ _ hf _ => exact hf
  | missing _ _ _ hf _ => exact hf

/-- A step writes the store at most at its own job's path. -/
theorem get_cache (h : Handles ctx s job step) {q : Path}
    (hq : ∀ p, job.path = some p → p.same q = false) (ns : Partition) :
    step.state.cache.get q ns = s.cache.get q ns := by
  cases h with
  | dropped => rfl
  | skipped _ _ _ hl => rw [Step.state, Pass.cache_of_ledger hl]; rfl
  | missing _ _ _ _ hl => rw [Step.state, Pass.cache_of_ledger hl]; rfl
  | unreadable _ _ _ _ hl => rw [Step.state, Pass.cache_of_ledger hl]; rfl
  | served _ _ _ _ _ _ hl => rw [Step.state, Pass.cache_of_ledger hl]; rfl
  | transformFailed _ _ _ _ _ _ hl => rw [Step.state, Pass.cache_of_ledger hl]; rfl
  | transformed hp _ _ _ _ _ hl =>
    rw [Step.state, Pass.cache_of_ledger hl]
    exact ctx.get_store_of_same_eq_false _ _ (hq _ hp) ns

/-! The next three lemmas read a step forward: what was read decides the way it goes. -/

/-- A job without a path is passed over, the pass as it was. -/
theorem eq_of_path_none (h : Handles ctx s job step) (hp : job.path = none) : step = .passed s := by
  cases h with
  | dropped => rfl
  | skipped hp' | missing hp' | unreadable hp' | served hp' | transformFailed hp' | transformed hp' =>
    rw [hp] at hp'
    cases hp'

/-- With skipping off, a job whose path is no file is recorded missing. -/
theorem passed_of_load_none (h : Handles ctx s job step) {p : Path} (hp : job.path = some p)
    (hskip : ctx.skip = false) (hload : (ctx.files.load p job.content).1 = .ok none) :
    ∃ s', step = .passed s' ∧ s'.frontier = s.frontier ∧
      s'.ledger = { s.ledger with
        missing := s.ledger.missing ++ [p], handled := s.ledger.handled ++ [(p, .missing)] } := by
  cases h with
  | dropped hp' =>
    rw [hp] at hp'
    cases hp'
  | skipped _ hs => simp [hskip, Pass.skips] at hs
  | missing hp' _ _ hf hl =>
    obtain rfl := Option.some.inj (hp'.symm.trans hp)
    exact ⟨_, rfl, hf, hl⟩
  | unreadable hp' _ hload' | served hp' _ hload' | transformFailed hp' _ hload'
  | transformed hp' _ hload' =>
    obtain rfl := Option.some.inj (hp'.symm.trans hp)
    rw [hload] at hload'
    cases hload'

/-- With skipping off, a job whose stored entry was computed from the content loaded is served
from the store. -/
theorem processed_of_stored (h : Handles ctx s job step) {p : Path} {c : String} {e : Entry α}
    (hp : job.path = some p) (hskip : ctx.skip = false)
    (hload : (ctx.files.load p job.content).1 = .ok (some c))
    (hstored : ctx.stored s.cache p = some e) (hc : e.content = c) :
    ∃ s', step = .processed s' ∧ s'.frontier = s.frontier.enqueueAll (ctx.targets p e.references) ∧
      s'.ledger = { s.ledger with
        modules := s.ledger.modules ++ [(p, e.result)]
        handled := s.ledger.handled ++ [(p, .served)] } := by
  cases h with
  | dropped hp' =>
    rw [hp] at hp'
    cases hp'
  | skipped _ hs => simp [hskip, Pass.skips] at hs
  | missing hp' _ hload' | unreadable hp' _ hload' =>
    obtain rfl := Option.some.inj (hp'.symm.trans hp)
    rw [hload] at hload'
    cases hload'
  | served hp' _ _ hstored' _ hf hl =>
    obtain rfl := Option.some.inj (hp'.symm.trans hp)
    rw [hstored] at hstored'
    cases hstored'
    exact ⟨_, rfl, hf, hl⟩
  | transformFailed hp' _ hload' hfresh | transformed hp' _ hload' hfresh =>
    -- the stored entry matches the content loaded, so the transformer is not run
    obtain rfl := Option.some.inj (hp'.symm.trans hp)
    rw [hload] at hload'
    cases hload'
    exact absurd hc (hfresh e hstored)

end Handles

/-- **The run lemma, for any property.** A property of pass states that every step which does not
fail keeps, from the state a job is taken off the queue in, holds of the state a sweep that
succeeds ends in. -/
theorem Pass.sweep_ok_of_step (ctx : PassContext α) {P : Pass α → Prop}
    (hstep : ∀ s job rest step, s.frontier.queue = job :: rest → P s →
      Handles ctx { s with frontier := { s.frontier with queue := rest } } job step →
      (∀ e s', step ≠ .failed e s') → P step.state)
    (budget : Nat) (s : Pass α) (queue : List Job) :
    s.frontier.queue = queue → P s → ∀ sf, sweep ctx budget s queue = .ok sf → P sf := by
  fun_induction sweep ctx budget s queue with
  | case1 budget s =>
    intro _ hs sf hok
    cases hok
    exact hs
  | case2 budget s job rest e s' hfail =>
    intro _ _ sf hok
    cases hok
  | case3 budget s job rest s' hpass ih =>
    intro hq hs sf hok
    have hh := handle_handles ctx { s with frontier := { s.frontier with queue := rest } } job
    rw [hpass] at hh
    have hs' : P s' := hstep s job rest _ hq hs hh (fun _ _ h => by cases h)
    -- a job passed over leaves the rest of the queue as it was
    exact ih (by rw [hh.frontier_of_passed]) hs' sf hok
  | case4 s job rest s' hproc =>
    intro hq hs sf hok
    have hh := handle_handles ctx { s with frontier := { s.frontier with queue := rest } } job
    rw [hproc] at hh
    cases hok
    exact hstep s job rest _ hq hs hh (fun _ _ h => by cases h)
  | case5 s job rest s' hproc b ih =>
    intro hq hs sf hok
    have hh := handle_handles ctx { s with frontier := { s.frontier with queue := rest } } job
    rw [hproc] at hh
    exact ih rfl (hstep s job rest _ hq hs hh (fun _ _ h => by cases h)) sf hok


/-- **Entries taken for good stay.** A path taken off the queue for good keeps its stored
entries, in every partition, to the end of a sweep that succeeds. -/
theorem Pass.sweep_get_of_past (ctx : PassContext α) {p : Path} (ns : Partition) (budget : Nat)
    (s : Pass α) (queue : List Job) (hq : s.frontier.queue = queue) (hp : s.frontier.Past p)
    {sf : Pass α} (hok : sweep ctx budget s queue = .ok sf) :
    sf.cache.get p ns = s.cache.get p ns := by
  have h := Pass.sweep_ok_of_step ctx
    (P := fun s' => s'.frontier.Past p ∧ s'.cache.get p ns = s.cache.get p ns) ?_ budget s queue
    hq ⟨hp, rfl⟩ sf hok
  · exact h.2
  · intro s₁ job rest step hq₁ ⟨hp₁, hc₁⟩ hh _
    obtain ⟨targets, hf⟩ := hh.frontier
    refine ⟨?_, ?_⟩
    · rw [hf]
      exact hp₁.advance hq₁ targets
    · -- the job taken is not for `p`'s file, so its step leaves `p`'s entries
      rw [hh.get_cache (fun k hk => ?_) ns]
      · exact hc₁
      · rw [← Job.key_of_path hk]
        exact hp₁.2 job (by simp [hq₁])

/-- The context of a pass with the transformer `tr` over `files`, under the options `o`. -/
def PassContext.of (tr : Transformer α) (files : FileSource) (o : BuildOptions) : PassContext α :=
  ⟨tr, files, o, o.caching.partition?, o.skipsCached.1⟩

/-- **A pass is a sweep.** A pass whose entries seed the frontier `f` sweeps it from a state with
nothing done yet, with the store and first serial number given and a log that depends on
neither; what the pass returns is what the sweep leaves, and a failing sweep's failure. -/
theorem Build.run_of_seed (tr : Transformer α) (files : FileSource) (o : BuildOptions)
    {entries : List Job} {f : Frontier} {dropped : List Path}
    (hseed : Frontier.seed entries = .ok (f, dropped)) :
    ∃ log : List Record, ∀ (start : ResultCache α) (serial : Nat),
      let r := Build.run tr files o entries start serial
      let sw := Pass.sweep (.of tr files o) (files.capacity + entries.length)
        ⟨f, start, [], [], 0, 0, 0, serial, log, [], []⟩ f.queue
      (∀ sf, sw = .ok sf → r.outcome = .ok ⟨sf.modules, sf.missing⟩ ∧ r.cache = sf.cache ∧
          r.calls = sf.calls ∧ r.handled = sf.handled) ∧
        (∀ e sf, sw = .error (e, sf) →
          r = ⟨.error e, sf.cache, sf.serial, sf.log, sf.calls, sf.handled⟩) := by
  refine ⟨dropped.map (fun p => ⟨.trace, .frontier, "Dropping duplicate entry " ++ p.text⟩) ++
    [⟨.debug, .build, "Compiling " ++ toString f.size ++ " entry file(s)"⟩] ++ o.skipsCached.2,
    fun start serial => ?_⟩
  unfold Build.run
  rw [hseed]
  dsimp only
  rw [show (⟨tr, files, o, o.caching.partition?, o.skipsCached.1⟩ : PassContext α) =
    .of tr files o from rfl]
  refine ⟨fun sf h => ?_, fun e sf h => ?_⟩
  · rw [h]
    exact ⟨rfl, rfl, rfl, rfl⟩
  · rw [h]

end ModuleGraph
