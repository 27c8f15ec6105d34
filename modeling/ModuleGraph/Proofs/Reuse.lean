import ModuleGraph.Proofs.BreadthFirst

/-!
# Reusing stored results

A pass that keeps results serves a file from the store when the stored entry was computed from
exactly the content it loads, and replays the entry's references instead of scanning again.
When the stored references are those a fresh scan would make now (`ResultCache.Faithful`), a
served file leads to the same new paths as a transformed one: the stored list holds each
reference once, and a repeated reference resolves to a path its first occurrence already
queued. So a pass that keeps results, with skipping off, and one that keeps none take the same
files in the same order and list the same modules and missing paths; when the stored results
are also what a fresh scan gives, the modules are equal as values.
-/

namespace ModuleGraph

open Source

namespace Path

/-- Leaving out of what the search meets paths it has already seen changes nothing. -/
theorem unseen_map_filter {α : Type} (f : α → Path) (P : α → Bool) {seen : List Path}
    {xs : List α} (h : ∀ x ∈ xs, P x = false → seen.any (·.same (f x)) = true) :
    unseen seen ((xs.filter P).map f) = unseen seen (xs.map f) := by
  induction xs generalizing seen with
  | nil => rfl
  | cons x xs ih =>
    have hrest : ∀ y ∈ xs, P y = false → seen.any (·.same (f y)) = true :=
      fun y hy => h y (List.mem_cons_of_mem x hy)
    by_cases hx : P x = true
    · rw [List.filter_cons_of_pos hx, List.map_cons, List.map_cons]
      unfold unseen
      split
      · exact ih hrest
      · -- seen only grows, so what was seen stays seen
        have hgrow : ∀ y ∈ xs, P y = false → (seen ++ [f x]).any (·.same (f y)) = true := by
          intro y hy hPy
          simp [List.any_append, hrest y hy hPy]
        rw [ih hgrow]
    · have hseen := h x List.mem_cons_self (by simpa using hx)
      rw [List.filter_cons_of_neg hx, ih hrest, List.map_cons]
      simp [unseen, hseen]

/-- Resolving references each once or with repeats adds the same unseen paths: a repeated
reference resolves to the path its first occurrence made seen. -/
theorem unseen_map_eraseDups {α : Type} [BEq α] [LawfulBEq α] (f : α → Path) :
    ∀ (seen : List Path) (xs : List α),
      unseen seen (xs.eraseDups.map f) = unseen seen (xs.map f)
  | _, [] => rfl
  | seen, x :: xs => by
    -- the repeats of `x` that are left out resolve to `f x`
    have hrepeats : ∀ {seen' : List Path}, seen'.any (·.same (f x)) = true →
        unseen seen' ((xs.filter fun y => !y == x).map f) = unseen seen' (xs.map f) := by
      intro seen' hx
      apply unseen_map_filter
      intro y _ hy
      have hyx : y = x := by simpa using hy
      rw [hyx]
      exact hx
    rw [List.eraseDups_cons, List.map_cons, List.map_cons]
    unfold unseen
    split
    · rename_i hx
      rw [unseen_map_eraseDups f seen, hrepeats hx]
    · rw [unseen_map_eraseDups f (seen ++ [f x]), hrepeats (by simp)]
  termination_by _ xs => xs.length
  decreasing_by all_goals exact Nat.lt_succ_of_le (List.length_filter_le _ _)

end Path

namespace Verdict

/-- The verdict a pass that keeps no results reaches instead: a file that would be served is
transformed, with its job's settings `settings` layered over the global ones. -/
def fresh {α : Type} (o : BuildOptions) (settings : Settings.Table) : Verdict α → Verdict α
  | serve p e => transform p e.content (.layered o.transform settings p)
  | v => v

variable {α : Type} (o : BuildOptions) (settings : Settings.Table)

@[simp] theorem loads_fresh (v : Verdict α) : (v.fresh o settings).loads = v.loads := by
  cases v <;> rfl

@[simp] theorem isMissing_fresh (v : Verdict α) :
    (v.fresh o settings).isMissing = v.isMissing := by
  cases v <;> rfl

/-- Where a file leads, and the module it adds, do not depend on whether results are kept. -/
@[simp] theorem successors_caching (v : Verdict α) (c : Caching) :
    v.successors { o with caching := c } = v.successors o := by
  cases v <;> rfl

@[simp] theorem output?_caching (v : Verdict Scanned) (c : Caching) :
    v.output? { o with caching := c } = v.output? o := by
  cases v <;> rfl

end Verdict

/-- With skipping off, keeping no results changes a verdict only by transforming the file it
would serve. -/
theorem verdict_caching_off {α : Type} (o : BuildOptions) (t : FileTable) (c c' : ResultCache α)
    (job : Job) (hskip : o.skipCached = false) :
    verdict { o with caching := .off } t c' job = (verdict o t c job).fresh o job.settings := by
  unfold verdict
  cases job.path with
  | none => rfl
  | some p =>
    have hoff : ({ o with caching := .off } : BuildOptions).stored c' p = none := rfl
    dsimp only
    rw [hoff]
    simp only [hskip, Bool.false_and, Bool.false_eq_true, if_false]
    cases job.content <|> t.get? p with
    | none => rfl
    | some text =>
      cases o.stored c p with
      | none => rfl
      | some e =>
        dsimp only
        split
        · rename_i h
          simp only [Verdict.fresh, h]
        · rfl

/-- Stored entries that a pass mapping specifiers by `g` can replay from partition `ns`: the
entry found for a path lists, each once and in order, the references a fresh scan of its
content makes at that path. -/
def ResultCache.Faithful (c : ResultCache Scanned) (g : Option (String → Path → String))
    (ns : Partition) : Prop :=
  ∀ p e, c.get p ns = some e →
    e.references =
      ((specifiers e.content).map fun x => (⟨x, mapWith g x p⟩ : Reference)).eraseDups

namespace Pass

variable {o : BuildOptions} {t : FileTable} {entries : List Job}
  {start start' : ResultCache Scanned} {ns : Partition}

theorem verdictAt_caching_off (hskip : o.skipCached = false) (p : Path) :
    verdictAt { o with caching := .off } t entries start' p =
      (verdictAt o t entries start p).fresh o (jobOf entries p).settings :=
  verdict_caching_off o t start start' (jobOf entries p) hskip

/-- With faithful stored references, a file leads to the same new paths whether results are
kept or not: a served file's stored references are a fresh scan's, each once. -/
theorem unseen_next_caching_off (hskip : o.skipCached = false)
    (hns : o.caching.partition? = some ns) (hfaithful : start.Faithful o.mapSpecifier ns)
    (p : Path) (seen : List Path) :
    Path.unseen seen (next { o with caching := .off } t entries start' p) =
      Path.unseen seen (next o t entries start p) := by
  unfold next
  rw [verdictAt_caching_off hskip, Verdict.successors_caching]
  cases hv : verdictAt o t entries start p with
  | serve q e =>
    obtain ⟨-, hstored, -⟩ := verdict_eq_serve hv
    have hget : start.get q ns = some e := by simpa [BuildOptions.stored, hns] using hstored
    simp only [Verdict.fresh, Verdict.successors, Verdict.references, hfaithful q e hget]
    exact (Path.unseen_map_eraseDups _ seen _).symm
  | _ => rfl

/-- With stored results that are a fresh scan's, a path queued under its own name adds the
same module whether results are kept or not. -/
theorem output?_caching_off (hskip : o.skipCached = false)
    (hns : o.caching.partition? = some ns)
    (hvalue : ∀ p e, start.get p ns = some e →
      e.result.value = scan e.content (.layered o.transform (jobOf entries p).settings p)
        fun x => mapWith o.mapSpecifier x p)
    {p : Path} (hkey : (jobOf entries p).key = p) :
    (verdictAt { o with caching := .off } t entries start' p).output? { o with caching := .off } =
      (verdictAt o t entries start p).output? o := by
  rw [verdictAt_caching_off hskip, Verdict.output?_caching]
  cases hv : verdictAt o t entries start p with
  | serve q e =>
    obtain ⟨hq, hstored, -⟩ := verdict_eq_serve hv
    -- the job for `p` is on `p` itself
    have hqp : q = p := (Job.key_of_path hq).symm.trans hkey
    subst hqp
    have hget : start.get q ns = some e := by simpa [BuildOptions.stored, hns] using hstored
    simp only [Verdict.fresh, Verdict.output?, hvalue q e hget]
  | _ => rfl

end Pass

/-- **Reuse is invisible.** Take a pass over a file table whose entries all have paths, that
keeps results in partition `ns` and does not skip, with a store whose entries are faithful to
its mapping of specifiers. It succeeds, as does the same pass keeping no results (from any
store, with any serial number), and the two handle the same paths in the same order, list the
same module paths and the same missing paths. When every stored result is also what a fresh
scan of its content gives under the pass's settings, the modules are equal as values. -/
theorem Build.run_reuse_agrees_with_fresh (t : FileTable) (o : BuildOptions) (ns : Partition)
    (entries : List Job) (start start' : ResultCache Scanned) (serial serial' : Nat)
    (hpaths : ∀ j ∈ entries, j.path.isSome) (hns : o.caching.partition? = some ns)
    (hskip : o.skipCached = false) (hfaithful : start.Faithful o.mapSpecifier ns) :
    let r := Build.run Transformer.importScan t.source o entries start serial
    let r' := Build.run Transformer.importScan t.source { o with caching := .off } entries start'
      serial'
    ∃ b b', r.outcome = .ok b ∧ r'.outcome = .ok b' ∧
      r.handled.map Prod.fst = r'.handled.map Prod.fst ∧ b.paths = b'.paths ∧
      b.missing = b'.missing ∧
      ((∀ p e, start.get p ns = some e →
          e.result.value = scan e.content (.layered o.transform (jobOf entries p).settings p)
            fun x => mapWith o.mapSpecifier x p) →
        b.modules.map (fun m => (m.1, m.2.value)) =
          b'.modules.map (fun m => (m.1, m.2.value))) := by
  obtain ⟨order, b, hok, hbfs, hkeys, hledger⟩ := Build.run_spec t o entries start serial hpaths
  obtain ⟨order', b', hok', hbfs', -, hledger'⟩ :=
    Build.run_spec t { o with caching := .off } entries start' serial' hpaths
  -- the two searches add the same unseen paths at every step, so they visit one order
  have horder : order' = order := Bfs.functional hbfs'
    (hbfs.congr fun p seen => (Pass.unseen_next_caching_off hskip hns hfaithful p seen).symm)
  subst horder
  refine ⟨b, b', hok, hok', ?_, ?_, ?_, ?_⟩
  · have h := congrArg (fun L : Ledger Scanned => L.handled.map Prod.fst) hledger
    have h' := congrArg (fun L : Ledger Scanned => L.handled.map Prod.fst) hledger'
    dsimp only at h h'
    rw [Pass.foldl_verdictAt_handled hkeys] at h h'
    rw [h, h']
  · have h := congrArg (fun L : Ledger Scanned => L.modules.map Prod.fst) hledger
    have h' := congrArg (fun L : Ledger Scanned => L.modules.map Prod.fst) hledger'
    dsimp only at h h'
    rw [Pass.foldl_verdictAt_paths hkeys] at h h'
    rw [Build.paths, Build.paths, h, h']
    congr 1
    apply List.filter_congr
    intro p _
    rw [Pass.verdictAt_caching_off hskip, Verdict.loads_fresh]
  · have h := congrArg Ledger.missing hledger
    have h' := congrArg Ledger.missing hledger'
    dsimp only at h h'
    rw [Pass.foldl_verdictAt_missing hkeys] at h h'
    rw [h, h']
    congr 1
    apply List.filter_congr
    intro p _
    rw [Pass.verdictAt_caching_off hskip, Verdict.isMissing_fresh]
  · intro hvalue
    have h := congrArg (fun L : Ledger Scanned => L.modules.map (fun m => (m.1, m.2.value))) hledger
    have h' := congrArg (fun L : Ledger Scanned => L.modules.map (fun m => (m.1, m.2.value)))
      hledger'
    dsimp only at h h'
    rw [Ledger.foldl_record_outputs] at h h'
    rw [h, h']
    congr 1
    apply List.filterMap_congr
    intro p hp
    exact (Pass.output?_caching_off hskip hns hvalue (hkeys p hp)).symm

/-- A pass from one entry whose import has a stored entry, against the same pass keeping no
results. -/
theorem Build.run_reuse_agrees_with_fresh_on_a_stored_import :
    let t : FileTable := ⟨[(⟨"main.js"⟩, "import './dep.js'"), (⟨"dep.js"⟩, "")]⟩
    let o : BuildOptions := ⟨.shared, false, false, resolveStandard, none, []⟩
    let entries := [Job.ofPath ⟨"main.js"⟩]
    let start : ResultCache Scanned :=
      ⟨[⟨.shared, ⟨"dep.js"⟩, ⟨"", ⟨0, ⟨⟨"dep.js"⟩, "", []⟩⟩, []⟩⟩]⟩
    let r := Build.run Transformer.importScan t.source o entries start 0
    let r' := Build.run Transformer.importScan t.source { o with caching := .off } entries .empty 0
    ((∀ j ∈ entries, j.path.isSome) ∧ o.caching.partition? = some .shared ∧
        o.skipCached = false ∧ start.Faithful o.mapSpecifier .shared) ∧
      ∃ b b', r.outcome = .ok b ∧ r'.outcome = .ok b' ∧
        r.handled.map Prod.fst = r'.handled.map Prod.fst ∧ b.paths = b'.paths ∧
        b.missing = b'.missing ∧
        ((∀ p e, start.get p .shared = some e →
            e.result.value = scan e.content (.layered o.transform (jobOf entries p).settings p)
              fun x => mapWith o.mapSpecifier x p) →
          b.modules.map (fun m => (m.1, m.2.value)) =
            b'.modules.map (fun m => (m.1, m.2.value))) := by
  have hfaithful : (⟨[⟨.shared, ⟨"dep.js"⟩, ⟨"", ⟨0, ⟨⟨"dep.js"⟩, "", []⟩⟩, []⟩⟩]⟩ :
      ResultCache Scanned).Faithful none .shared := by
    intro p e h
    have he : e = ⟨"", ⟨0, ⟨⟨"dep.js"⟩, "", []⟩⟩, []⟩ := by
      simp only [ResultCache.get, List.find?_cons, List.find?_nil] at h
      split at h <;> simp_all
    subst he
    simp [specifiers, pieces, piecesFrom]
  exact ⟨⟨by decide, rfl, rfl, hfaithful⟩,
    Build.run_reuse_agrees_with_fresh ⟨[(⟨"main.js"⟩, "import './dep.js'"), (⟨"dep.js"⟩, "")]⟩
      ⟨.shared, false, false, resolveStandard, none, []⟩ .shared [Job.ofPath ⟨"main.js"⟩]
      ⟨[⟨.shared, ⟨"dep.js"⟩, ⟨"", ⟨0, ⟨⟨"dep.js"⟩, "", []⟩⟩, []⟩⟩]⟩ .empty 0 0 (by decide) rfl rfl
      hfaithful⟩

end ModuleGraph
