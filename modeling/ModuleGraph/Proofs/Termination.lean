import Mathlib.Order.RelClasses
import ModuleGraph.Proofs.Failure
import ModuleGraph.Proofs.Library

/-!
# A pass ends

A pass is a loop: while a job is queued, take the first one off the queue and handle it
(`Pass.Turn`). Handling one file can queue any number of new jobs, so the queue's length alone
does not shrink from turn to turn. What does is the pair of the files the pass can load and has
not yet taken off the queue for good, and the number of jobs queued (`Pass.measure`), compared
lexicographically. A file that is served or transformed is one the pass can load (an entry's,
when the job brings content of its own, or else one of the table's) and is then taken for good,
and a path once taken stays taken; a job skipped, missing or without a path queues nothing and
leaves one job fewer. So every turn lowers the pair (`Pass.Turn.measure_lt`), whatever the
transformer, and from the frontier seeding leaves every run of the loop is finite.

A pass computes its sweep with a budget: its file source's capacity plus the number of entries.
Every file served or transformed is listed once among the modules, taken off the queue for good,
and is an entry's or a file of the source (`Pass.Spent`); the source proves that files with
pairwise different components are no more than its capacity, so the modules never outnumber the
budget (`Pass.Spent.modules_length_le`). The budget therefore never runs out while a job is
queued: from every file source the sweep is the whole loop, run to an empty queue or to the
first step that fails (`Pass.EndsAt`, `Build.run_runs_whole_loop`).
-/

namespace ModuleGraph

open Source

namespace Frontier

/-- Whether a path was taken off the queue for good (`Past`), as a test. -/
def isPast (f : Frontier) (p : Path) : Bool := f.isPending p && f.queue.all fun j => !j.key.same p

theorem isPast_eq_true_iff {f : Frontier} {p : Path} : f.isPast p = true ↔ f.Past p := by
  simp [isPast, Past, List.all_eq_true]

/-- A path taken for good takes every path naming its file. -/
theorem Past.of_same {f : Frontier} {p q : Path} (h : f.Past p) (hpq : p.same q = true) :
    f.Past q := by
  refine ⟨Path.any_same_trans h.1 hpq, fun j hj => ?_⟩
  cases hjq : j.key.same q
  · rfl
  · have hjp := h.2 j hj
    rw [Path.same_trans hjq (Path.same_symm hpq)] at hjp
    cases hjp

/-- A path ahead after a job is taken off the queue and its targets queued was ahead before:
a path taken for good stays so. -/
theorem ahead_of_advance {f : Frontier} {job : Job} {rest : List Job} (hq : f.queue = job :: rest)
    (targets : List Path) {q : Path}
    (h : (!({ f with queue := rest }.enqueueAll targets).isPast q) = true) :
    (!f.isPast q) = true := by
  cases hpast : f.isPast q
  · rfl
  · have hafter := isPast_eq_true_iff.mpr ((isPast_eq_true_iff.mp hpast).advance hq targets)
    rw [hafter] at h
    cases h

end Frontier

variable (t : FileTable) (entries : List Job)

/-- The files a pass over `entries` can load, each once: the entries' paths and the table's. -/
def Pass.loadableFiles : List Path := Path.unseen [] (Pass.loadable t entries)

/-- What is still ahead of a pass's loop: the files it can load and has not taken off the queue
for good, and the number of jobs queued. -/
def Pass.measure {α : Type} (s : Pass α) : Nat × Nat :=
  ((Pass.loadableFiles t entries).countP fun q => !s.frontier.isPast q, s.frontier.queue.length)

/-- One turn of the loop of a pass: the first queued job is taken off the queue and handled, and
the pass goes on. -/
inductive Pass.Turn {α : Type} (ctx : PassContext α) (s : Pass α) : Pass α → Prop
  | passed {job : Job} {rest : List Job} {s' : Pass α} : s.frontier.queue = job :: rest →
      handle ctx { s with frontier := { s.frontier with queue := rest } } job = .passed s' →
      Turn ctx s s'
  | processed {job : Job} {rest : List Job} {s' : Pass α} : s.frontier.queue = job :: rest →
      handle ctx { s with frontier := { s.frontier with queue := rest } } job = .processed s' →
      Turn ctx s s'

/-- How the loop of a pass ends at a state, with what its sweep then returns: no job is queued,
and the sweep returns the state; or the first queued job's step fails, and the sweep returns its
error. -/
inductive Pass.EndsAt {α : Type} (ctx : PassContext α) (sf : Pass α) :
    Except (BuildError × Pass α) (Pass α) → Prop
  | drained : sf.frontier.queue = [] → EndsAt ctx sf (.ok sf)
  | failed {job : Job} {rest : List Job} {e : BuildError} {s' : Pass α} :
      sf.frontier.queue = job :: rest →
      handle ctx { sf with frontier := { sf.frontier with queue := rest } } job = .failed e s' →
      EndsAt ctx sf (.error (e, s'))

variable {t entries}

/-- A file a pass loads is an entry's, when the job brings content of its own, or else a file
of the source. -/
theorem Frontier.Wf.entry_or_file_of_load {files : FileSource} {f : Frontier} {popped : List Path}
    (hw : f.Wf entries popped) {job : Job} {rest : List Job} (hq : f.queue = job :: rest)
    {p : Path} {c : String} (hp : job.path = some p)
    (hload : (files.load p job.content).1 = .ok (some c)) :
    p ∈ entries.filterMap Job.path ∨ files.isFile p = true := by
  cases hcontent : job.content with
  | some text =>
    -- content of its own: the job is an entry, and its path the entry's
    have hjob : job = jobOf entries job.key := hw.jobs job (by simp [hq])
    have hsome : (jobOf entries job.key).content.isSome := by rw [← hjob, hcontent]; rfl
    have hmem : job ∈ entries := by
      rw [hjob]
      exact mem_of_jobOf_content hsome
    exact .inl (List.mem_filterMap.mpr ⟨job, hmem, hp⟩)
  | none =>
    -- no content of its own: only a file is read
    cases hfile : files.isFile p with
    | true => exact .inr rfl
    | false =>
      rw [hcontent] at hload
      simp [FileSource.load, hfile] at hload

/-- A file a pass over a table loads is one it can load: an entry's, or one of the table's. -/
theorem Frontier.Wf.loadable_of_load {f : Frontier} {popped : List Path}
    (hw : f.Wf entries popped) {job : Job} {rest : List Job} (hq : f.queue = job :: rest)
    {p : Path} {c : String} (hp : job.path = some p)
    (hload : (t.source.load p job.content).1 = .ok (some c)) :
    (Pass.loadable t entries).any (·.same p) = true := by
  unfold Pass.loadable
  rcases hw.entry_or_file_of_load hq hp hload with hentry | hfile
  · have hentry' : (entries.filterMap Job.path).any (·.same p) = true :=
      List.any_eq_true.mpr ⟨p, hentry, Path.same_refl p⟩
    rw [List.any_append, hentry', Bool.true_or]
  · rw [List.any_append, FileTable.any_same_of_get? hfile, Bool.or_true]

/-- A step that serves or transforms a file has loaded it, and lists it after the modules
before. -/
theorem Handles.loads_of_processed {α : Type} {ctx : PassContext α} {s s' : Pass α} {job : Job}
    (h : Handles ctx s job (.processed s')) :
    ∃ p c r, job.path = some p ∧ (ctx.files.load p job.content).1 = .ok (some c) ∧
      s'.modules = s.modules ++ [(p, r)] := by
  cases h with
  | served hp _ hload _ _ _ hl => exact ⟨_, _, _, hp, hload, congrArg Ledger.modules hl⟩
  | transformed hp _ hload _ _ _ hl => exact ⟨_, _, _, hp, hload, congrArg Ledger.modules hl⟩

/-- A step that passes a job over lists no module. -/
theorem Handles.modules_of_passed {α : Type} {ctx : PassContext α} {s s' : Pass α} {job : Job}
    (h : Handles ctx s job (.passed s')) : s'.modules = s.modules := by
  cases h with
  | dropped => rfl
  | skipped _ _ _ hl => exact congrArg Ledger.modules hl
  | missing _ _ _ _ hl => exact congrArg Ledger.modules hl

namespace Pass

variable {α : Type} {tr : Transformer α} {o : BuildOptions}

variable (t entries) in
/-- A job passed over lowers the number of jobs queued, and leaves every path taken for good
taken. -/
theorem measure_of_passed {ctx : PassContext α} {s s' : Pass α} {job : Job}
    {rest : List Job} (hq : s.frontier.queue = job :: rest)
    (hpass : handle ctx { s with frontier := { s.frontier with queue := rest } } job = .passed s') :
    (measure t entries s').1 ≤ (measure t entries s).1 ∧
      (measure t entries s').2 < (measure t entries s).2 := by
  have hh := handle_handles ctx { s with frontier := { s.frontier with queue := rest } } job
  rw [hpass] at hh
  have hf : s'.frontier = { s.frontier with queue := rest }.enqueueAll [] := hh.frontier_of_passed
  refine ⟨List.countP_mono_left fun q _ hq' => ?_, ?_⟩
  · rw [hf] at hq'
    exact Frontier.ahead_of_advance hq [] hq'
  · show s'.frontier.queue.length < s.frontier.queue.length
    rw [hf, hq]
    simp [Frontier.enqueueAll]

/-- A file served or transformed is one the pass can load, and is taken for good: the files
ahead are one fewer at least. -/
theorem measure_fst_lt_of_processed {s s' : Pass α} {popped : List Path} {job : Job}
    {rest : List Job} (hw : s.frontier.Wf entries popped) (hq : s.frontier.queue = job :: rest)
    (hproc : handle (.of tr t.source o) { s with frontier := { s.frontier with queue := rest } }
      job = .processed s') :
    (measure t entries s').1 < (measure t entries s).1 := by
  have hh := handle_handles (.of tr t.source o)
    { s with frontier := { s.frontier with queue := rest } } job
  rw [hproc] at hh
  obtain ⟨targets, hf⟩ := hh.frontier
  replace hf : s'.frontier = { s.frontier with queue := rest }.enqueueAll targets := hf
  obtain ⟨p, c, -, hp, hload, -⟩ := hh.loads_of_processed
  -- the file loaded is one of the loadable files, named there by `u`
  have hloadable := hw.loadable_of_load hq hp hload
  have hu : (loadableFiles t entries).any (·.same p) = true := by
    have h := Path.any_same_append_unseen_eq [] (Pass.loadable t entries) p
    simp only [List.nil_append] at h
    rw [loadableFiles, h, hloadable]
  obtain ⟨u, hu, hup⟩ := List.any_eq_true.mp hu
  have hkey : job.key = p := Job.key_of_path hp
  -- `u` was queued, so not taken; after the step it is taken for good
  have hbefore : s.frontier.isPast u = false := by
    cases hpast : s.frontier.isPast u
    · rfl
    · have h := (Frontier.isPast_eq_true_iff.mp hpast).2 job (by simp [hq])
      rw [hkey, Path.same_symm hup] at h
      cases h
  have hafter : s'.frontier.isPast u = true := by
    have hwf' := hw.advance hq targets
    rw [← hf] at hwf'
    have hpast := hwf'.past (p := job.key) (by simp)
    rw [hkey] at hpast
    exact Frontier.isPast_eq_true_iff.mpr (hpast.of_same (Path.same_symm hup))
  apply List.countP_lt_countP_of_imp _ hu (by simp [hbefore]) (by simp [hafter])
  intro q _ hq'
  rw [hf] at hq'
  exact Frontier.ahead_of_advance hq targets hq'

/-- A turn keeps the frontier in shape. -/
theorem Turn.wf {ctx : PassContext α} {s s' : Pass α} (h : Turn ctx s s')
    {popped : List Path} (hw : s.frontier.Wf entries popped) :
    ∃ popped', s'.frontier.Wf entries popped' := by
  cases h with
  | @passed job rest _ hq hstep | @processed job rest _ hq hstep =>
    have hh := handle_handles ctx { s with frontier := { s.frontier with queue := rest } } job
    rw [hstep] at hh
    obtain ⟨targets, hf⟩ := hh.frontier
    replace hf : s'.frontier = { s.frontier with queue := rest }.enqueueAll targets := hf
    exact ⟨_, hf ▸ hw.advance hq targets⟩

/-- **The step.** Every turn of the loop lowers the pair of the files ahead and the jobs queued,
lexicographically. -/
theorem Turn.measure_lt {s s' : Pass α} (h : Turn (.of tr t.source o) s s') {popped : List Path}
    (hw : s.frontier.Wf entries popped) :
    Prod.Lex (· < ·) (· < ·) (measure t entries s') (measure t entries s) := by
  cases h with
  | passed hq hpass =>
    obtain ⟨hle, hlt⟩ := measure_of_passed t entries hq hpass
    exact Prod.lex_def.mpr (by omega)
  | processed hq hproc => exact Prod.Lex.left _ _ (measure_fst_lt_of_processed hw hq hproc)

/-- States the loop reaches from a frontier in shape keep it in shape. -/
theorem Turn.wf_of_reaches {ctx : PassContext α} {s s' : Pass α}
    (h : Relation.ReflTransGen (Turn ctx) s s') (hw : ∃ popped, s.frontier.Wf entries popped) :
    ∃ popped, s'.frontier.Wf entries popped := by
  induction h with
  | refl => exact hw
  | tail _ hturn ih =>
    obtain ⟨popped, hw'⟩ := ih
    exact hturn.wf hw'

/-- **The run.** From a frontier in shape, every run of the loop is finite. -/
theorem turn_acc (s : Pass α) (hw : ∃ popped, s.frontier.Wf entries popped) :
    Acc (fun s' s => Turn (.of tr t.source o) s s') s := by
  have hwf : WellFounded (InvImage (Prod.Lex (· < ·) (· < ·)) (measure (α := α) t entries)) :=
    InvImage.wf _ (WellFounded.prod_lex wellFounded_lt wellFounded_lt)
  -- induction on the measure, carrying the frontier's shape along
  revert hw
  induction s using hwf.induction with
  | _ s ih =>
    intro hw
    obtain ⟨popped, hw⟩ := hw
    exact Acc.intro s fun s' hturn => ih s' (hturn.measure_lt hw) (hturn.wf hw)

variable (entries) in
/-- What a pass has spent its budget on: its modules, files taken off the queue and so pairwise
different, each an entry's with content of its own or a file of the source. -/
structure Spent (files : FileSource) (popped : List Path) (s : Pass α) : Prop where
  taken : (s.modules.map Prod.fst).Sublist popped
  loadable : ∀ p ∈ s.modules.map Prod.fst, p ∈ entries.filterMap Job.path ∨ files.isFile p = true

/-- The modules of a pass are no more than the source's capacity and the entries: those that
are no entry's are files of the source, pairwise different. -/
theorem Spent.modules_length_le {files : FileSource} {popped : List Path} {s : Pass α}
    (hs : Spent entries files popped s) (hw : s.frontier.Wf entries popped) :
    s.modules.length ≤ files.capacity + entries.length := by
  have hd : Path.Distinct (s.modules.map Prod.fst) := hw.distinct_popped.sublist hs.taken
  let isEntry : Path → Bool := fun p => decide (p ∈ entries.filterMap Job.path)
  have hsplit : (s.modules.map Prod.fst).length = ((s.modules.map Prod.fst).filter isEntry).length +
      ((s.modules.map Prod.fst).filter (!isEntry ·)).length :=
    List.length_eq_length_filter_add isEntry
  have hfiles : ((s.modules.map Prod.fst).filter (!isEntry ·)).length ≤ files.capacity := by
    refine files.files_le_capacity _ (Path.Distinct.nodup_components (hd.sublist List.filter_sublist)) ?_
    intro p hp
    obtain ⟨hmem, hnot⟩ := List.mem_filter.mp hp
    exact (hs.loadable p hmem).resolve_left (by simpa [isEntry] using hnot)
  have hentries : ((s.modules.map Prod.fst).filter isEntry).length ≤ entries.length := by
    have hsub : (s.modules.map Prod.fst).filter isEntry ⊆ entries.filterMap Job.path := by
      intro p hp
      simpa [isEntry] using (List.mem_filter.mp hp).2
    have hnodup : ((s.modules.map Prod.fst).filter isEntry).Nodup :=
      Path.Distinct.nodup (hd.sublist List.filter_sublist)
    exact Nat.le_trans (hnodup.length_le_of_subset hsub) (List.length_filterMap_le _ _)
  simp only [List.length_map] at hsplit
  omega

section Spent

variable {ctx : PassContext α} {popped : List Path} {s s' : Pass α} {job : Job} {rest : List Job}

/-- A job passed over is taken off the queue, leaving the rest of it, and lists no module. -/
theorem Spent.passed (hw : s.frontier.Wf entries popped) (hs : Spent entries ctx.files popped s)
    (hq : s.frontier.queue = job :: rest)
    (hpass : handle ctx { s with frontier := { s.frontier with queue := rest } } job = .passed s') :
    s'.frontier.queue = rest ∧ s'.frontier.Wf entries (popped ++ [job.key]) ∧
      Spent entries ctx.files (popped ++ [job.key]) s' ∧ s'.modules = s.modules := by
  have hh := handle_handles ctx { s with frontier := { s.frontier with queue := rest } } job
  rw [hpass] at hh
  have hf : s'.frontier = { s.frontier with queue := rest }.enqueueAll [] := hh.frontier_of_passed
  have hmods : s'.modules = s.modules := hh.modules_of_passed
  refine ⟨by rw [hh.frontier_of_passed], hf ▸ hw.advance hq [], ⟨?_, ?_⟩, hmods⟩
  · rw [hmods]
    exact hs.taken.trans (List.sublist_append_left popped [job.key])
  · rw [hmods]
    exact hs.loadable

/-- A file served or transformed is taken off the queue and listed as one module more, a file the
pass loaded. -/
theorem Spent.processed (hw : s.frontier.Wf entries popped) (hs : Spent entries ctx.files popped s)
    (hq : s.frontier.queue = job :: rest)
    (hproc : handle ctx { s with frontier := { s.frontier with queue := rest } } job = .processed s') :
    s'.frontier.Wf entries (popped ++ [job.key]) ∧ Spent entries ctx.files (popped ++ [job.key]) s' ∧
      s'.modules.length = s.modules.length + 1 := by
  have hh := handle_handles ctx { s with frontier := { s.frontier with queue := rest } } job
  rw [hproc] at hh
  obtain ⟨targets, hf⟩ := hh.frontier
  replace hf : s'.frontier = { s.frontier with queue := rest }.enqueueAll targets := hf
  obtain ⟨p, c, r, hp, hload, hmods⟩ := hh.loads_of_processed
  have hkey : job.key = p := Job.key_of_path hp
  refine ⟨hf ▸ hw.advance hq targets, ⟨?_, ?_⟩, by simp [hmods]⟩
  · rw [hmods, List.map_append, hkey]
    exact hs.taken.append (List.Sublist.refl _)
  · rw [hmods, List.map_append]
    intro q hq'
    rcases List.mem_append.mp hq' with hq' | hq'
    · exact hs.loadable q hq'
    · rw [List.mem_singleton.mp hq']
      exact hw.entry_or_file_of_load hq hp hload

end Spent

variable (tr o) in
/-- **The budget suffices, from any file source.** From a frontier in shape, with the budget and
the modules listed so far making up the source's capacity and the entries, the sweep runs the
loop, turn by turn, to its end: a file served or transformed is one module more, and the modules
never outnumber the capacity and the entries. -/
theorem sweep_runs_loop (files : FileSource) (budget : Nat) (s : Pass α) (queue : List Job) :
    s.frontier.queue = queue →
      (∃ popped, s.frontier.Wf entries popped ∧ Spent entries files popped s) →
      s.modules.length + budget = files.capacity + entries.length →
      ∃ sf, Relation.ReflTransGen (Turn (.of tr files o)) s sf ∧
        EndsAt (.of tr files o) sf (sweep (.of tr files o) budget s queue) := by
  fun_induction sweep (PassContext.of tr files o) budget s queue with
  | case1 budget s =>
    intro hq _ _
    exact ⟨s, .refl, .drained hq⟩
  | case2 budget s job rest e s' hfail =>
    intro hq _ _
    exact ⟨s, .refl, .failed hq hfail⟩
  | case3 budget s job rest s' hpass ih =>
    intro hq hinv hb
    obtain ⟨popped, hw, hs⟩ := hinv
    obtain ⟨hqueue, hw', hs', hmods⟩ := Spent.passed hw hs hq hpass
    obtain ⟨sf, hreach, hend⟩ := ih hqueue ⟨_, hw', hs'⟩ (by rw [hmods]; exact hb)
    exact ⟨sf, .head (.passed hq hpass) hreach, hend⟩
  | case4 s job rest s' hproc =>
    -- with no budget left the modules fill the capacity and the entries, so no file can be one
    -- module more
    intro hq hinv hb
    obtain ⟨popped, hw, hs⟩ := hinv
    obtain ⟨hw', hs', hlen⟩ := Spent.processed hw hs hq hproc
    have hle : s'.modules.length ≤ files.capacity + entries.length := hs'.modules_length_le hw'
    omega
  | case5 s job rest s' hproc b ih =>
    intro hq hinv hb
    obtain ⟨popped, hw, hs⟩ := hinv
    obtain ⟨hw', hs', hlen⟩ := Spent.processed hw hs hq hproc
    obtain ⟨sf, hreach, hend⟩ := ih rfl ⟨_, hw', hs'⟩ (by omega)
    exact ⟨sf, .head (.processed hq hproc) hreach, hend⟩

end Pass

/-- **A pass runs its loop to the end, from any file source.** Take a pass with any transformer,
file source, options and store, whose entries seed the frontier. It runs its loop turn by turn to
a state with no job queued, whose modules, missing paths and store are what the pass returns, or
to one whose first queued job fails, with the error and the store the failing step leaves: its
budget never runs out while a job is queued. -/
theorem Build.run_runs_whole_loop {α : Type} (tr : Transformer α) (files : FileSource)
    (o : BuildOptions) (entries : List Job) (c : ResultCache α) (serial : Nat) {f : Frontier}
    {dropped : List Path} (hseed : Frontier.seed entries = .ok (f, dropped)) :
    let ctx := PassContext.of tr files o
    let r := Build.run tr files o entries c serial
    ∃ (log : List Record) (sf : Pass α),
      Relation.ReflTransGen (Pass.Turn ctx) ⟨f, c, [], [], 0, 0, 0, serial, log, [], []⟩ sf ∧
      ((sf.frontier.queue = [] ∧ r.outcome = .ok ⟨sf.modules, sf.missing⟩ ∧ r.cache = sf.cache) ∨
        ∃ job rest e s', sf.frontier.queue = job :: rest ∧
          Pass.handle ctx { sf with frontier := { sf.frontier with queue := rest } } job =
            .failed e s' ∧ r.outcome = .error e ∧ r.cache = s'.cache) := by
  intro ctx r
  obtain ⟨log, hrun⟩ := Build.run_of_seed tr files o hseed
  -- nothing is spent at the start, and the whole budget is left
  have hstart : ∃ popped,
      (⟨f, c, [], [], 0, 0, 0, serial, log, [], []⟩ : Pass α).frontier.Wf entries popped ∧
        Pass.Spent entries files popped ⟨f, c, [], [], 0, 0, 0, serial, log, [], []⟩ :=
    ⟨[], Frontier.Wf.of_seed hseed, by simp, by simp⟩
  obtain ⟨sf, hreach, hend⟩ := Pass.sweep_runs_loop tr o files (files.capacity + entries.length)
    _ f.queue rfl hstart (by simp)
  refine ⟨log, sf, hreach, ?_⟩
  -- the sweep's result is what the pass returns
  generalize hsw : Pass.sweep (.of tr files o) (files.capacity + entries.length)
    ⟨f, c, [], [], 0, 0, 0, serial, log, [], []⟩ f.queue = sw at hend
  cases hend with
  | drained hq =>
    obtain ⟨hout, hcache, -, -⟩ := (hrun c serial).1 sf hsw
    exact .inl ⟨hq, hout, hcache⟩
  | failed hq hfail =>
    have hr := (hrun c serial).2 _ _ hsw
    exact .inr ⟨_, _, _, _, hq, hfail, congrArg PassResult.outcome hr,
      congrArg PassResult.cache hr⟩

/-- **A pass ends.** Take a pass over a file table, with any transformer, options and store,
whose entries seed the frontier. Every turn of its loop, from every state the loop reaches, lowers
lexicographically the pair of the files the pass can load and has not taken off the queue for
good, and the number of jobs queued; so every run of the loop is finite. And the pass runs its
loop to the end, turn by turn: to a state with no job queued, whose modules, missing paths and
store are what the pass returns, or to one whose first queued job fails, with the error and the
store the failing step leaves. -/
theorem Pass.loop_terminates {α : Type} (tr : Transformer α) (t : FileTable) (o : BuildOptions)
    (entries : List Job) (c : ResultCache α) (serial : Nat) {f : Frontier} {dropped : List Path}
    (hseed : Frontier.seed entries = .ok (f, dropped)) :
    let ctx := PassContext.of tr t.source o
    let r := Build.run tr t.source o entries c serial
    (∀ (log : List Record) (s s' : Pass α),
      Relation.ReflTransGen (Turn ctx) ⟨f, c, [], [], 0, 0, 0, serial, log, [], []⟩ s →
      Turn ctx s s' → Prod.Lex (· < ·) (· < ·) (measure t entries s') (measure t entries s)) ∧
    (∀ log : List Record,
      Acc (fun s' s => Turn ctx s s') ⟨f, c, [], [], 0, 0, 0, serial, log, [], []⟩) ∧
    ∃ (log : List Record) (sf : Pass α),
      Relation.ReflTransGen (Turn ctx) ⟨f, c, [], [], 0, 0, 0, serial, log, [], []⟩ sf ∧
      ((sf.frontier.queue = [] ∧ r.outcome = .ok ⟨sf.modules, sf.missing⟩ ∧ r.cache = sf.cache) ∨
        ∃ job rest e s', sf.frontier.queue = job :: rest ∧
          handle ctx { sf with frontier := { sf.frontier with queue := rest } } job =
            .failed e s' ∧ r.outcome = .error e ∧ r.cache = s'.cache) := by
  intro ctx r
  have hw : ∀ log : List Record,
      ∃ popped, (⟨f, c, [], [], 0, 0, 0, serial, log, [], []⟩ : Pass α).frontier.Wf entries
        popped := fun _ => ⟨[], Frontier.Wf.of_seed hseed⟩
  refine ⟨fun log s s' hreach hturn => ?_, fun log => turn_acc _ (hw log), ?_⟩
  · obtain ⟨popped, hws⟩ := Turn.wf_of_reaches hreach (hw log)
    exact hturn.measure_lt hws
  · exact Build.run_runs_whole_loop tr t.source o entries c serial hseed

/-- A pass from one entry that imports a second file: every run of its loop is finite. -/
theorem Pass.loop_terminates_from_one_entry :
    let t : FileTable := ⟨[(⟨"main.js"⟩, "import './dep.js'"), (⟨"dep.js"⟩, "")]⟩
    let o : BuildOptions := ⟨.shared, false, false, resolveStandard, none, []⟩
    let entries := [Job.ofPath ⟨"main.js"⟩]
    Frontier.seed entries = .ok (⟨entries, [⟨"main.js"⟩]⟩, []) ∧
      ∀ log : List Record, Acc (fun s' s => Pass.Turn (.of Transformer.importScan t.source o) s s')
        ⟨⟨entries, [⟨"main.js"⟩]⟩, .empty, [], [], 0, 0, 0, 0, log, [], []⟩ := by
  intro t o entries
  have hseed : Frontier.seed entries = .ok (⟨entries, [⟨"main.js"⟩]⟩, []) := rfl
  exact ⟨hseed, (Pass.loop_terminates Transformer.importScan t o entries .empty 0 hseed).2.1⟩

end ModuleGraph
