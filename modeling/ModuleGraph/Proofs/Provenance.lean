import ModuleGraph.Proofs.BreadthFirst

/-!
# Where stored results come from

A session runs passes over one store, with the file table, the options and the entries free to
change between passes, and may clear the store, wholly or one partition at a time. Whatever it
does, every stored entry is the work of one import scan: the scan ran on exactly the stored
content, for a file at a path naming the same file as the entry's key, the stored result is its
output and the stored references are those it asked about, each once (`ResultCache.FromScans`).
A pass writes the store only when it transforms a file, and then with what it has just
computed; serving and skipping only read it. So every module a pass lists was computed from
exactly the content the pass loaded for it, in this pass or an earlier one.
-/

namespace ModuleGraph

open Source

namespace Entry

/-- The entry stored under `key` was written by one import scan: the scan, for a file at a
path `q` naming the same file as `key`, with some settings and some mapping `g` of specifiers,
ran on exactly the entry's content; the entry's result is its output, and its references are
those the scan asked about, each once, in the order first asked. -/
def FromScan (e : Entry Scanned) (key : Path) : Prop :=
  ∃ (q : Path) (global own : Settings.Table) (g : Option (String → Path → String)),
    q.same key = true ∧
    e.result.value = scan e.content (.layered global own q) (fun x => mapWith g x q) ∧
    e.references =
      ((specifiers e.content).map fun x => (⟨x, mapWith g x q⟩ : Reference)).eraseDups

theorem FromScan.of_same {e : Entry Scanned} {key key' : Path} (h : e.FromScan key)
    (hk : key.same key' = true) : e.FromScan key' := by
  obtain ⟨q, global, own, g, hq, hval, hrefs⟩ := h
  exact ⟨q, global, own, g, Path.same_trans hq hk, hval, hrefs⟩

end Entry

/-- Every entry of the store, in every partition, was written by one import scan. -/
def ResultCache.FromScans (c : ResultCache Scanned) : Prop :=
  ∀ s ∈ c.slots, s.entry.FromScan s.key

namespace ResultCache.FromScans

theorem empty : (ResultCache.empty : ResultCache Scanned).FromScans := by
  intro s hs
  simp [ResultCache.empty] at hs

theorem clear (c : ResultCache Scanned) : c.clear.FromScans := empty

theorem clearPartition {c : ResultCache Scanned} (h : c.FromScans) (ns : Partition) :
    (c.clearPartition ns).FromScans := by
  intro s hs
  exact h s (List.mem_filter.mp hs).1

/-- Storing an entry that a scan wrote for its path keeps every entry a scan's. A replaced
entry keeps its key, which names the same file. -/
theorem put {c : ResultCache Scanned} (h : c.FromScans) (p : Path) (ns : Partition)
    (e : Entry Scanned) (he : e.FromScan p) : (c.put p ns e).2.FromScans := by
  unfold ResultCache.put
  split
  · intro s hs
    obtain ⟨s₀, hs₀, rfl⟩ := List.mem_map.mp hs
    split
    · rename_i hfor
      have hkey : s₀.key.same p = true := by
        simp only [Slot.isFor, Bool.and_eq_true] at hfor
        exact hfor.2
      exact he.of_same (Path.same_symm hkey)
    · exact h s₀ hs₀
  · intro s hs
    rcases List.mem_append.mp hs with hs | hs
    · exact h s hs
    · rw [List.mem_singleton.mp hs]
      exact he

/-- The entry found for a path was written by a scan for a path naming the same file. -/
theorem get {c : ResultCache Scanned} (h : c.FromScans) {p : Path} {ns : Partition}
    {e : Entry Scanned} (hget : c.get p ns = some e) : e.FromScan p := by
  unfold ResultCache.get at hget
  obtain ⟨s, hfind, rfl⟩ := Option.map_eq_some_iff.mp hget
  have hfor := List.find?_some hfind
  simp only [Slot.isFor, Bool.and_eq_true] at hfor
  exact (h s (List.mem_of_find?_eq_some hfind)).of_same hfor.2

end ResultCache.FromScans

namespace Ledger

variable (o : BuildOptions)

/-- Recording a verdict keeps every stored entry a scan's, provided a transformed file is
transformed with settings for its own path: the only entry it stores is the scan it records. -/
theorem record_fromScans (L : Ledger Scanned) (v : Verdict Scanned)
    (hv : ∀ p c options, v = .transform p c options →
      ∃ global own, options = .layered global own p)
    (hc : L.cache.FromScans) : (L.record o v).cache.FromScans := by
  cases v with
  | transform p c options =>
    obtain ⟨global, own, rfl⟩ := hv p c options rfl
    simp only [record]
    split
    · apply hc.put
      exact ⟨p, global, own, o.mapSpecifier, Path.same_refl p, rfl, rfl⟩
    · exact hc
  | _ => exact hc

theorem foldl_record_fromScans (f : Path → Verdict Scanned) (order : List Path)
    (hv : ∀ q ∈ order, ∀ p c options, f q = .transform p c options →
      ∃ global own, options = .layered global own p)
    (L : Ledger Scanned) (hc : L.cache.FromScans) :
    (order.foldl (fun L p => L.record o (f p)) L).cache.FromScans := by
  induction order generalizing L with
  | nil => exact hc
  | cons q order ih =>
    rw [List.foldl_cons]
    exact ih (fun q' hq' => hv q' (List.mem_cons_of_mem q hq')) _
      (record_fromScans o L (f q) (hv q List.mem_cons_self) hc)

end Ledger

/-- The value `v` is what the import scan computes from `content` for a file at a path naming
the same file as `P`, with some settings and some mapping of specifiers. -/
def ScannedFrom (content : String) (P : Path) (v : Scanned) : Prop :=
  ∃ (q : Path) (global own : Settings.Table) (g : Option (String → Path → String)),
    q.same P = true ∧ v = scan content (.layered global own q) (fun x => mapWith g x q)

/-- The module a verdict adds was computed from exactly the content loaded for its job: by the
transform just made, or by the scan that wrote the entry served. -/
theorem output?_scannedFrom {o : BuildOptions} {t : FileTable} {c : ResultCache Scanned}
    {job : Job} (hc : c.FromScans) {P : Path} {v : Scanned}
    (h : (verdict o t c job).output? o = some (P, v)) :
    job.path = some P ∧
      ∃ text, (job.content <|> t.get? P) = some text ∧ ScannedFrom text P v := by
  cases hv : verdict o t c job with
  | serve q e =>
    rw [hv] at h
    cases h
    obtain ⟨hp, hstored, hloaded⟩ := verdict_eq_serve hv
    obtain ⟨ns, -, hget⟩ := Option.bind_eq_some_iff.mp hstored
    obtain ⟨q', global, own, g, hq', hval, -⟩ := hc.get hget
    exact ⟨hp, e.content, hloaded, q', global, own, g, hq', hval⟩
  | transform q text options =>
    rw [hv] at h
    cases h
    obtain ⟨hp, hloaded, rfl⟩ := verdict_eq_transform hv
    exact ⟨hp, text, hloaded, P, o.transform, job.settings, o.mapSpecifier,
      Path.same_refl P, rfl⟩
  | _ =>
    rw [hv] at h
    cases h

/-- A pass that does not start leaves the store as it was. -/
theorem Build.run_of_seed_error {α : Type} (tr : Transformer α) (files : FileSource)
    (o : BuildOptions) {entries : List Job} {e : MissingPath} (h : Frontier.seed entries = .error e)
    (c : ResultCache α) (serial : Nat) :
    Build.run tr files o entries c serial =
      ⟨.error (.missingPath e), c, serial, [], [], []⟩ := by
  unfold Build.run
  rw [h]

/-- A pass keeps every stored entry a scan's. -/
theorem Build.run_fromScans (t : FileTable) (o : BuildOptions) (entries : List Job)
    {c : ResultCache Scanned} (serial : Nat) (hc : c.FromScans) :
    (Build.run Transformer.importScan t.source o entries c serial).cache.FromScans := by
  by_cases hpaths : ∀ j ∈ entries, j.path.isSome
  · obtain ⟨order, b, -, -, -, hledger⟩ := Build.run_spec t o entries c serial hpaths
    have h := congrArg Ledger.cache hledger
    dsimp only at h
    rw [h]
    refine Ledger.foldl_record_fromScans o _ order ?_ _ hc
    intro q _ p text options hv
    exact ⟨o.transform, _, (verdict_eq_transform hv).2.2⟩
  · obtain ⟨e, hseed⟩ := Frontier.seed_eq_error hpaths
    rw [Build.run_of_seed_error _ _ _ hseed]
    exact hc

/-- Every module a pass lists was computed from exactly the content the pass loaded for it,
when every stored entry is a scan's. -/
theorem Build.run_modules_scannedFrom (t : FileTable) (o : BuildOptions) (entries : List Job)
    {c : ResultCache Scanned} (serial : Nat) (hc : c.FromScans) {b : Build Scanned}
    (hok : (Build.run Transformer.importScan t.source o entries c serial).outcome = .ok b) :
    ∀ m ∈ b.modules, ∃ text, ((jobOf entries m.1).content <|> t.get? m.1) = some text ∧
      ScannedFrom text m.1 m.2.value := by
  by_cases hpaths : ∀ j ∈ entries, j.path.isSome
  · obtain ⟨order, b', hok', -, hkeys, hledger⟩ := Build.run_spec t o entries c serial hpaths
    rw [hok] at hok'
    cases hok'
    have h := congrArg (fun L : Ledger Scanned => L.modules.map (fun m => (m.1, m.2.value)))
      hledger
    dsimp only at h
    rw [Ledger.foldl_record_outputs, List.map_nil, List.nil_append] at h
    intro m hm
    have hmem : (m.1, m.2.value) ∈ b.modules.map (fun m => (m.1, m.2.value)) :=
      List.mem_map_of_mem hm
    rw [h] at hmem
    obtain ⟨p, hp, hout⟩ := List.mem_filterMap.mp hmem
    obtain ⟨hpath, text, hloaded, hscan⟩ := output?_scannedFrom hc hout
    -- the job handled for `p` is on `p`, so the module's path is `p`
    have hmp : m.1 = p := (Job.key_of_path hpath).symm.trans (hkeys p hp)
    rw [hmp] at hloaded hscan ⊢
    exact ⟨text, hloaded, hscan⟩
  · obtain ⟨e, hseed⟩ := Frontier.seed_eq_error hpaths
    rw [Build.run_of_seed_error _ _ _ hseed] at hok
    cases hok

/-- One operation of a session on its store: a pass over a file table, with its own options
and entries, or clearing the store, wholly or one partition. -/
inductive StoreOp where
  | compile (t : FileTable) (o : BuildOptions) (entries : List Job)
  | clear
  | clearPartition (ns : Partition)

/-- A session between operations: the store it shares and the next serial number. -/
structure Session where
  cache : ResultCache Scanned
  serial : Nat

namespace Session

/-- What one operation leaves of a session. -/
def step (s : Session) : StoreOp → Session
  | .compile t o entries =>
    let r := Build.run Transformer.importScan t.source o entries s.cache s.serial
    ⟨r.cache, r.serial⟩
  | .clear => ⟨s.cache.clear, s.serial⟩
  | .clearPartition ns => ⟨s.cache.clearPartition ns, s.serial⟩

/-- A session after the operations `ops`, in order. -/
def run (s : Session) (ops : List StoreOp) : Session := ops.foldl step s

theorem step_fromScans {s : Session} (h : s.cache.FromScans) (op : StoreOp) :
    (s.step op).cache.FromScans := by
  cases op with
  | compile t o entries => exact Build.run_fromScans t o entries s.serial h
  | clear => exact ResultCache.FromScans.clear s.cache
  | clearPartition ns => exact h.clearPartition ns

theorem run_fromScans {s : Session} (h : s.cache.FromScans) (ops : List StoreOp) :
    (s.run ops).cache.FromScans := by
  induction ops generalizing s with
  | nil => exact h
  | cons op ops ih => exact ih (step_fromScans h op)

end Session

/-- **Stored results are scans.** In a session that starts with an empty store, after any
operations, every stored entry was written by one import scan of exactly its content, for a
file at a path naming the same file as its key, with the scan's output as its result and the
references the scan asked about, each once, as its references. And the next pass, over any
file table with any options and entries, lists only modules computed from exactly the content
it loads for them. -/
theorem session_store_holds_only_scans (serial : Nat) (ops : List StoreOp) :
    let s := Session.run ⟨.empty, serial⟩ ops
    s.cache.FromScans ∧
      ∀ (t : FileTable) (o : BuildOptions) (entries : List Job) (b : Build Scanned),
        (Build.run Transformer.importScan t.source o entries s.cache s.serial).outcome = .ok b →
        ∀ m ∈ b.modules, ∃ text, ((jobOf entries m.1).content <|> t.get? m.1) = some text ∧
          ScannedFrom text m.1 m.2.value := by
  have hstore := @Session.run_fromScans ⟨.empty, serial⟩ ResultCache.FromScans.empty ops
  exact ⟨hstore, fun t o entries b hok =>
    Build.run_modules_scannedFrom t o entries _ hstore hok⟩

end ModuleGraph
