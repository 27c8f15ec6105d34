import ModuleGraph.Build.Pass
import ModuleGraph.Proofs.Frontier

/-!
# What a pass does with each job

An import-scan pass over a file table decides the fate of each job it takes off its queue
from four things: whether it skips files it has results for, the stored entry for the
job's path, the content the job supplies, and whether its path is a file. `verdict` is that
decision written as a table of its own, and `Ledger.record` is what each verdict adds to
the pass's output; `Verdict.successors` are the paths a handled file leads to.

The one lemma about `Pass.handle` used anywhere else is `handle_spec`: every job is handled
by its verdict, read from the store as the pass holds it when the job comes up.
-/

namespace ModuleGraph

open Source

/-- What a pass does with one job it takes off its queue. -/
inductive Verdict (α : Type) where
  /-- The job has no path: it is dropped without a trace. -/
  | dropped
  /-- Skipping is on and the stored entry stands for the job: nothing is loaded. -/
  | skip (path : Path)
  /-- No content was supplied and the path is no file. -/
  | missing (path : Path)
  /-- The content is exactly what the stored entry was computed from. -/
  | serve (path : Path) (entry : Entry α)
  /-- The content is transformed, with the given options. -/
  | transform (path : Path) (content : String) (options : FileOptions)

namespace Verdict

variable {α : Type}

/-- Whether the job's file is loaded and handled: served or transformed. -/
def loads : Verdict α → Bool
  | serve .. | transform .. => true
  | _ => false

/-- The job as listed among the handled ones. -/
def handling? : Verdict α → Option (Path × Handling)
  | dropped => none
  | skip p => some (p, .skipped)
  | missing p => some (p, .missing)
  | serve p _ => some (p, .served)
  | transform p _ _ => some (p, .transformed)

/-- The path of the job, unless it has none. -/
def path? : Verdict α → Option Path
  | dropped => none
  | skip p | missing p | serve p _ | transform p _ _ => some p

/-- Whether the job's path was found to be no file. -/
def isMissing : Verdict α → Bool
  | missing _ => true
  | _ => false

/-- The module a verdict adds: its path and its value. -/
def output? (o : BuildOptions) : Verdict Scanned → Option (Path × Scanned)
  | serve p e => some (p, e.result.value)
  | transform p c options => some (p, scan c options fun x => mapWith o.mapSpecifier x p)
  | _ => none

/-- The references a handled file makes: those kept with its stored result when it is
served; its specifiers, each with its mapped form, in order, when it is transformed. -/
def references (o : BuildOptions) : Verdict α → List Reference
  | serve _ e => e.references
  | transform p c _ => (specifiers c).map fun x => ⟨x, mapWith o.mapSpecifier x p⟩
  | _ => []

/-- The paths a handled file leads to: its references, resolved from its path. -/
def successors (o : BuildOptions) : Verdict α → List Path
  | v@(serve p _) | v@(transform p _ _) => (v.references o).map (o.lookup.target p)
  | _ => []

/-- The handled job is listed under the verdict's path. -/
theorem handling?_map_fst (v : Verdict α) : v.handling?.map Prod.fst = v.path? := by
  cases v <;> rfl

theorem path?_eq_none {v : Verdict α} : v.path? = none ↔ v = .dropped := by
  cases v <;> simp [path?]

/-- A file that is not loaded leads nowhere. -/
theorem successors_eq_nil (o : BuildOptions) {v : Verdict α} (h : v.loads = false) :
    v.successors o = [] := by
  cases v <;> simp_all [successors, loads]

end Verdict

/-- The stored entry a pass with options `o` consults for a path: the one in its partition,
when it keeps results. -/
def BuildOptions.stored {α : Type} (o : BuildOptions) (c : ResultCache α) (p : Path) :
    Option (Entry α) :=
  o.caching.partition?.bind (c.get p)

/-- The verdict on a job, given the store `c` and the file table `t`. With `e` the stored
entry for the job's path, the job is

* skipped when skipping is asked for, results are kept, `e` exists, and the job supplies
  no content or exactly `e`'s;
* otherwise missing when it supplies no content and its path is no file;
* otherwise served when `e` was computed from exactly the content loaded (the supplied one,
  or else the file's);
* otherwise transformed, with the global settings layered under the job's own. -/
def verdict {α : Type} (o : BuildOptions) (t : FileTable) (c : ResultCache α) (job : Job) :
    Verdict α :=
  match job.path with
  | none => .dropped
  | some p =>
    if o.skipCached && o.caching.isOn && (o.stored c p).any fun e => job.content.all e.matches then
      .skip p
    else
      match job.content <|> t.get? p with
      | none => .missing p
      | some text =>
        match o.stored c p with
        | some e =>
          if e.content = text then .serve p e
          else .transform p text (.layered o.transform job.settings p)
        | none => .transform p text (.layered o.transform job.settings p)

/-- A verdict reads the store only at the job's path. -/
theorem verdict_congr {α : Type} (o : BuildOptions) (t : FileTable) {c c' : ResultCache α}
    {job : Job} (h : ∀ p, job.path = some p → ∀ ns, c.get p ns = c'.get p ns) :
    verdict o t c job = verdict o t c' job := by
  unfold verdict BuildOptions.stored
  cases hp : job.path with
  | none => rfl
  | some p =>
    have hget : c.get p = c'.get p := funext (h p hp)
    simp only [hget]

/-- A verdict is on the job's own path. -/
theorem verdict_path? {α : Type} (o : BuildOptions) (t : FileTable) (c : ResultCache α)
    (job : Job) : (verdict o t c job).path? = job.path := by
  unfold verdict
  cases job.path with
  | none => rfl
  | some p =>
    simp only
    split
    · rfl
    · split
      · rfl
      · split
        · split <;> rfl
        · rfl

/-- A served file is served from the entry stored for the job's path, and that entry was
computed from exactly the content loaded for the job. -/
theorem verdict_eq_serve {α : Type} {o : BuildOptions} {t : FileTable} {c : ResultCache α}
    {job : Job} {p : Path} {e : Entry α} (h : verdict o t c job = .serve p e) :
    job.path = some p ∧ o.stored c p = some e ∧ (job.content <|> t.get? p) = some e.content := by
  unfold verdict at h
  cases hp : job.path with
  | none =>
    rw [hp] at h
    cases h
  | some q =>
    rw [hp] at h
    simp only at h
    split at h
    · cases h
    · split at h
      · cases h
      · rename_i text htext
        split at h
        · rename_i e' hstored
          split at h
          · rename_i hc
            cases h
            exact ⟨rfl, hstored, htext.trans (congrArg some hc.symm)⟩
          · cases h
        · cases h

/-- A transformed file is transformed on the content loaded for the job, with the global
settings layered under the job's own. -/
theorem verdict_eq_transform {α : Type} {o : BuildOptions} {t : FileTable} {c : ResultCache α}
    {job : Job} {p : Path} {text : String} {options : FileOptions}
    (h : verdict o t c job = .transform p text options) :
    job.path = some p ∧ (job.content <|> t.get? p) = some text ∧
      options = .layered o.transform job.settings p := by
  unfold verdict at h
  cases hp : job.path with
  | none =>
    rw [hp] at h
    cases h
  | some q =>
    rw [hp] at h
    simp only at h
    split at h
    · cases h
    · split at h
      · cases h
      · rename_i text' htext
        split at h
        · split at h
          · cases h
          · cases h
            exact ⟨rfl, htext, rfl⟩
        · cases h
          exact ⟨rfl, htext, rfl⟩

/-- A file is loaded only when its content was supplied or its path is a file. -/
theorem source_of_verdict_loads {α : Type} {o : BuildOptions} {t : FileTable}
    {c : ResultCache α} {job : Job} (h : (verdict o t c job).loads = true) :
    ∃ p, job.path = some p ∧ (job.content.isSome ∨ (t.get? p).isSome) := by
  -- the content loaded is the supplied one, or else the file's
  have hsource : ∀ p text, (job.content <|> t.get? p) = some text →
      job.content.isSome ∨ (t.get? p).isSome := by
    intro p text hl
    cases hc : job.content <;> simp_all
  cases hv : verdict o t c job with
  | serve p e =>
    obtain ⟨hp, -, hl⟩ := verdict_eq_serve hv
    exact ⟨p, hp, hsource p _ hl⟩
  | transform p text options =>
    obtain ⟨hp, hl, -⟩ := verdict_eq_transform hv
    exact ⟨p, hp, hsource p _ hl⟩
  | _ => simp [hv, Verdict.loads] at h

/-- A pass that skips files it has results for never serves one: an entry that matches
the content loaded for a job matches the content the job supplies, if any, and then the
job is skipped. -/
theorem verdict_ne_serve {α : Type} {o : BuildOptions} {t : FileTable} {c : ResultCache α}
    {job : Job} (hskip : (o.skipCached && o.caching.isOn) = true) (q : Path) (e : Entry α) :
    verdict o t c job ≠ .serve q e := by
  unfold verdict
  cases hp : job.path with
  | none => simp
  | some p =>
    simp only [hskip, Bool.true_and]
    split
    · simp
    · rename_i hmatch
      split
      · simp
      · rename_i text htext
        split
        · rename_i e' hstored
          rw [hstored] at hmatch
          -- the entry matches no supplied content, so one was supplied, and it was loaded
          cases hs : job.content with
          | none => simp [hs] at hmatch
          | some s =>
            have hst : s = text := by simpa [hs] using htext
            have hne : e'.content ≠ s := by simpa [hs, Entry.matches] using hmatch
            simp [hst ▸ hne]
        · simp

/-- What a pass has produced so far: the store, the modules, the missing paths, the next
serial number, the files it transformed and the jobs it handled. -/
structure Ledger (α : Type) where
  cache : ResultCache α
  modules : List (Path × Stamped α)
  missing : List Path
  serial : Nat
  calls : List Path
  handled : List (Path × Handling)

/-- The part of a pass's state that is its output. -/
def Pass.ledger {α : Type} (s : Pass α) : Ledger α :=
  ⟨s.cache, s.modules, s.missing, s.serial, s.calls, s.handled⟩

namespace Ledger

/-- What an import-scan pass under options `o` adds for one verdict. A transformed file's
result gets the next serial number and is stored, with the file's references, each once,
in the order first met. -/
def record (o : BuildOptions) (L : Ledger Scanned) : Verdict Scanned → Ledger Scanned
  | .dropped => L
  | .skip p => { L with handled := L.handled ++ [(p, .skipped)] }
  | .missing p => { L with missing := L.missing ++ [p], handled := L.handled ++ [(p, .missing)] }
  | .serve p e =>
    { L with modules := L.modules ++ [(p, e.result)], handled := L.handled ++ [(p, .served)] }
  | v@(.transform p c options) =>
    let result : Stamped Scanned := ⟨L.serial, scan c options fun x => mapWith o.mapSpecifier x p⟩
    let cache := match o.caching.partition? with
      | some ns => (L.cache.put p ns ⟨c, result, (v.references o).eraseDups⟩).2
      | none => L.cache
    ⟨cache, L.modules ++ [(p, result)], L.missing, L.serial + 1, L.calls ++ [p],
      L.handled ++ [(p, .transformed)]⟩

variable (o : BuildOptions) (L : Ledger Scanned)

theorem record_handled (v : Verdict Scanned) :
    (L.record o v).handled = L.handled ++ v.handling?.toList := by
  cases v <;> simp [record, Verdict.handling?]

theorem record_paths (v : Verdict Scanned) :
    (L.record o v).modules.map Prod.fst =
      L.modules.map Prod.fst ++ (if v.loads then v.path?.toList else []) := by
  cases v <;> simp [record, Verdict.loads, Verdict.path?]

theorem record_modules_length (v : Verdict Scanned) :
    (L.record o v).modules.length = L.modules.length + if v.loads then 1 else 0 := by
  cases v <;> simp [record, Verdict.loads]

theorem record_missing (v : Verdict Scanned) :
    (L.record o v).missing = L.missing ++ (if v.isMissing then v.path?.toList else []) := by
  cases v <;> simp [record, Verdict.isMissing, Verdict.path?]

theorem record_outputs (v : Verdict Scanned) :
    (L.record o v).modules.map (fun m => (m.1, m.2.value)) =
      L.modules.map (fun m => (m.1, m.2.value)) ++ (v.output? o).toList := by
  cases v <;> simp [record, Verdict.output?]

/-- Recording a verdict stores at most the entry of the verdict's own path. -/
theorem record_get (v : Verdict Scanned) {q : Path}
    (h : ∀ p, v.path? = some p → p.same q = false) (ns : Partition) :
    (L.record o v).cache.get q ns = L.cache.get q ns := by
  cases v with
  | transform p c options =>
    simp only [record]
    split
    · exact ResultCache.get_put_of_same_eq_false _ _ _ _ (h p rfl)
    · rfl
  | _ => rfl

section Fold

/-! Recording the verdicts of a list of paths, one after the other. -/

variable (f : Path → Verdict Scanned)

theorem foldl_record_handled (order : List Path) :
    (order.foldl (fun L p => L.record o (f p)) L).handled =
      L.handled ++ order.filterMap fun p => (f p).handling? := by
  induction order generalizing L with
  | nil => simp
  | cons p order ih =>
    rw [List.foldl_cons, ih, record_handled, List.filterMap_cons]
    cases (f p).handling? <;> simp

theorem foldl_record_paths (order : List Path) :
    (order.foldl (fun L p => L.record o (f p)) L).modules.map Prod.fst =
      L.modules.map Prod.fst ++
        order.filterMap fun p => if (f p).loads then (f p).path? else none := by
  induction order generalizing L with
  | nil => simp
  | cons p order ih =>
    rw [List.foldl_cons, ih, record_paths, List.filterMap_cons]
    by_cases hl : (f p).loads <;> cases (f p).path? <;> simp [hl]

theorem foldl_record_missing (order : List Path) :
    (order.foldl (fun L p => L.record o (f p)) L).missing =
      L.missing ++ order.filterMap fun p => if (f p).isMissing then (f p).path? else none := by
  induction order generalizing L with
  | nil => simp
  | cons p order ih =>
    rw [List.foldl_cons, ih, record_missing, List.filterMap_cons]
    by_cases hm : (f p).isMissing <;> cases (f p).path? <;> simp [hm]

theorem foldl_record_outputs (order : List Path) :
    (order.foldl (fun L p => L.record o (f p)) L).modules.map (fun m => (m.1, m.2.value)) =
      L.modules.map (fun m => (m.1, m.2.value)) ++ order.filterMap fun p => (f p).output? o := by
  induction order generalizing L with
  | nil => simp
  | cons p order ih =>
    rw [List.foldl_cons, ih, record_outputs, List.filterMap_cons]
    cases (f p).output? o <;> simp

end Fold

end Ledger

/-- The context of an import-scan pass over a file table. -/
def PassContext.ofTable (o : BuildOptions) (t : FileTable) : PassContext Scanned :=
  ⟨Transformer.importScan, t.source, o, o.caching.partition?, o.skipsCached.1⟩

theorem BuildOptions.skipsCached_fst (o : BuildOptions) :
    o.skipsCached.1 = (o.skipCached && o.caching.isOn) := by
  unfold skipsCached
  cases o.skipCached <;> cases o.caching.isOn <;> rfl

theorem Pass.skips_eq {α : Type} (skip : Bool) (cached : Option (Entry α))
    (supplied : Option String) :
    skips skip cached supplied = (skip && cached.any fun e => supplied.all e.matches) := by
  cases cached <;> rfl

/-- Loading from a file table never fails: the supplied content, or else the file's. -/
theorem FileTable.load_source (t : FileTable) (p : Path) (supplied : Option String) :
    ∃ log, t.source.load p supplied = (.ok (supplied <|> t.get? p), log) := by
  unfold FileSource.load
  cases supplied with
  | some text => exact ⟨_, rfl⟩
  | none =>
    have hfile : t.source.isFile p = (t.get? p).isSome := rfl
    have hread : t.source.read p = t.read p := rfl
    rw [hfile, hread]
    cases h : t.get? p with
    | none => exact ⟨[], by simp⟩
    | some text => exact ⟨_, by rw [read, h]; rfl⟩

/-- How a pass state moves under a verdict: its ledger records the verdict, and its frontier
queues the paths the file leads to. -/
structure Pass.Advances (o : BuildOptions) (v : Verdict Scanned) (s s' : Pass Scanned) : Prop where
  ledger : s'.ledger = s.ledger.record o v
  frontier : s'.frontier = s.frontier.enqueueAll (v.successors o)

/-- A pass gains a module exactly when the verdict loads the file. -/
theorem Pass.Advances.modules_length {o : BuildOptions} {v : Verdict Scanned}
    {s s' : Pass Scanned} (hadv : s.Advances o v s') :
    s'.modules.length = s.modules.length + if v.loads then 1 else 0 := by
  have h := congrArg (fun L => L.modules.length) hadv.ledger
  simpa [Pass.ledger, Ledger.record_modules_length] using h

/-- Every job is handled by its verdict, read from the store as it stands when the job comes
up: the pass goes on (loading and handling the file) exactly when the verdict loads it,
and never fails. -/
theorem handle_spec (o : BuildOptions) (t : FileTable) (s : Pass Scanned) (job : Job) :
    ∃ s', Pass.handle (.ofTable o t) s job =
        (if (verdict o t s.cache job).loads then .processed s' else .passed s') ∧
      s.Advances o (verdict o t s.cache job) s' := by
  unfold Pass.handle
  cases hp : job.path with
  | none =>
    exact ⟨s, by simp [verdict, hp, Verdict.loads], by simp [verdict, hp, Ledger.record],
      by simp [verdict, hp, Verdict.successors, Frontier.enqueueAll]⟩
  | some p =>
    obtain ⟨loadLog, hload⟩ := t.load_source p job.content
    simp only [PassContext.ofTable, Pass.skips_eq, BuildOptions.skipsCached_fst]
    by_cases hskip : (o.skipCached && o.caching.isOn &&
        (o.caching.partition?.bind (s.cache.get p)).any fun e => job.content.all e.matches) = true
    · have hv : verdict o t s.cache job = .skip p := by
        simp only [verdict, BuildOptions.stored, hp, hskip, if_true]
      rw [hv, if_pos hskip]
      exact ⟨_, rfl, rfl, rfl⟩
    · simp only [Bool.not_eq_true] at hskip
      rw [if_neg (by simp [hskip]), hload]
      simp only
      cases hc : job.content <|> t.get? p with
      | none =>
        have hv : verdict o t s.cache job = .missing p := by
          simp only [verdict, BuildOptions.stored, hp, hskip, hc]
          rfl
        rw [hv]
        exact ⟨_, rfl, rfl, rfl⟩
      | some text =>
        dsimp only
        cases hf : Option.filter (fun x => x.matches text)
            (o.caching.partition?.bind (s.cache.get p)) with
        | some e =>
          -- the stored entry was computed from this very content: it is served
          obtain ⟨hcached, hm⟩ := Option.filter_eq_some_iff.mp hf
          have hv : verdict o t s.cache job = .serve p e := by
            simp only [Entry.matches, beq_iff_eq] at hm
            rw [hcached] at hskip
            simp only [verdict, BuildOptions.stored, hp, hskip, hc, hcached, hm]
            rfl
          rw [hv]
          refine ⟨_, rfl, rfl, ?_⟩
          exact Discovery.registerAll_frontier _ _ (Discovery.settled_empty _) _
        | none =>
          have hv : verdict o t s.cache job =
              .transform p text (.layered o.transform job.settings p) := by
            simp only [verdict, BuildOptions.stored, hp, hskip, hc]
            cases hcached : o.caching.partition?.bind (s.cache.get p) with
            | none => rfl
            | some e =>
              rw [hcached] at hf
              have hm : ¬ e.content = text := by simpa [Option.filter, Entry.matches] using hf
              simp [hm]
          rw [hv]
          refine ⟨_, rfl, ?_, ?_⟩
          · -- the references stored are those registered, each once
            cases hpart : o.caching.partition? <;>
              simp only [Pass.ledger, Ledger.record, Verdict.references, Pass.note,
                Transformer.importScan, Discovery.registerAll_empty_references, hpart]
          · exact Discovery.registerAll_frontier _ _ (Discovery.settled_empty _) _

end ModuleGraph
