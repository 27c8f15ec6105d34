import ModuleGraph.Proofs.Frontier
import ModuleGraph.Proofs.Reuse
import ModuleGraph.Proofs.Library

/-!
# The hook and replays on one discovery context

While a file is handled, the transformer calls the hook once for each specifier it meets, and
a file served from the store replays the references kept with it. Both register references on
one discovery context over the build's frontier. This module states what any sequence of such
calls leaves, whatever the resolver, the lookup mode and the frontier: the hook returns the
mapped specifier and nothing else; the dependencies are the resolved paths, the first of each
file in the order met; the references are the pairs met, each once; and the frontier has
queued, after what it held, the dependencies it did not hold yet.

The calls are tracked by the list of everything they registered (`Discovery.Records`): after
any calls, the context holds what registering that whole list from nothing gives. So replaying
the references the hook recorded for a file, each once, does to a fresh context and its frontier
what the hook calls did (`replay_recorded_eq_intercepts`): a repeated reference resolves to a
path its first occurrence already made a dependency.

The context's dependencies stay pending on the frontier through any calls
(`callAll_dependencies_pending`), so the context's own test before queueing is a shortcut and
never changes what the frontier holds.
-/

namespace ModuleGraph

/-- A call on the discovery context of a file: the hook, for a specifier met in the file at
`referencing`, or a replay of the references stored for it. -/
inductive HookCall where
  | intercept (specifier : String) (referencing : Path)
  | replay (refs : List Reference) (referencing : Path)

namespace HookCall

variable (map : Option (String → Path → String))

/-- The references a call registers, each with the path of the file it is met in. -/
def registrations : HookCall → List (Reference × Path)
  | intercept o p => [(⟨o, mapWith map o p⟩, p)]
  | replay refs p => refs.map (·, p)

/-- What a call returns: the hook returns the mapped specifier, a replay nothing. -/
def answer : HookCall → Option String
  | intercept o p => some (mapWith map o p)
  | replay _ _ => none

/-- Hook calls for the specifiers met in one file register each specifier with its mapped form,
in order. -/
theorem registrations_intercepts (specs : List String) (p : Path) :
    (specs.map (intercept · p)).flatMap (·.registrations map) =
      (specs.map fun o => (⟨o, mapWith map o p⟩ : Reference)).map (·, p) := by
  induction specs with
  | nil => rfl
  | cons o specs ih =>
    rw [List.map_cons, List.flatMap_cons, ih]
    rfl

end HookCall

namespace Discovery

variable (how : Lookup) (map : Option (String → Path → String))

/-- Makes one call on a discovery context over the frontier `f`. -/
def call (d : Discovery) (f : Frontier) : HookCall → Option String × Discovery × Frontier
  | .intercept o p =>
    let (r, d', f', _) := d.intercept how map f o p
    (some r, d', f')
  | .replay refs p =>
    let (d', f', _) := registerAll how p d f refs
    (none, d', f')

/-- Makes calls in order, collecting what they return. -/
def callAll : Discovery → Frontier → List HookCall →
    List (Option String) × Discovery × Frontier
  | d, f, [] => ([], d, f)
  | d, f, c :: cs =>
    let (a, d₁, f₁) := d.call how map f c
    let (as, d₂, f₂) := callAll d₁ f₁ cs
    (a :: as, d₂, f₂)

/-- The paths the references `regs` lead to, each from the file it is met in. -/
def targets (regs : List (Reference × Path)) : List Path := regs.map fun x => how.target x.2 x.1

/-- The context holds what registering `regs` from nothing gives: the paths they lead to, the
first of each file, and the references, each once, in the order first met. -/
def Records (d : Discovery) (regs : List (Reference × Path)) : Prop :=
  d.dependencies = Path.unseen [] (targets how regs) ∧ d.references = (regs.map Prod.fst).eraseDups

theorem records_empty : Records how empty [] := by
  simp [Records, empty, targets, Path.unseen]

theorem Records.register {d : Discovery} {regs : List (Reference × Path)} (h : Records how d regs)
    (f : Frontier) (r : Reference) (referencing : Path) :
    Records how (d.register how f r referencing).1 (regs ++ [(r, referencing)]) := by
  constructor
  · rw [register_dependencies, h.1, targets, targets, List.map_append, Path.unseen_append]
    simp
  · rw [register_references, h.2, List.map_append, List.map_singleton,
      List.eraseDups_append_singleton]

theorem Records.registerAll {d : Discovery} {regs : List (Reference × Path)}
    (h : Records how d regs) (f : Frontier) (refs : List Reference) (referencing : Path) :
    Records how (registerAll how referencing d f refs).1 (regs ++ refs.map (·, referencing)) := by
  induction refs generalizing d f regs with
  | nil => simpa [Discovery.registerAll] using h
  | cons r refs ih =>
    simp only [Discovery.registerAll]
    have h' := ih (h.register how f r referencing) (d.register how f r referencing).2.1
    simpa using h'

/-- One call registers its references: the dependencies and references are those of
everything registered, and the frontier queues the paths the call's references lead to. -/
theorem call_spec {d : Discovery} {f : Frontier} {regs : List (Reference × Path)}
    (hs : Settled d f) (hr : Records how d regs) (c : HookCall) :
    (d.call how map f c).1 = c.answer map ∧
      Records how (d.call how map f c).2.1 (regs ++ c.registrations map) ∧
      Settled (d.call how map f c).2.1 (d.call how map f c).2.2 ∧
      (d.call how map f c).2.2 = f.enqueueAll (targets how (c.registrations map)) := by
  cases c with
  | intercept o p =>
    obtain ⟨hf, hs'⟩ := register_frontier how p hs ⟨o, mapWith map o p⟩
    exact ⟨rfl, hr.register how f _ p, hs', hf⟩
  | replay refs p =>
    refine ⟨rfl, hr.registerAll how f refs p, registerAll_settled how p hs refs, ?_⟩
    show (registerAll how p d f refs).2.1 = _
    rw [registerAll_frontier how p hs, targets, HookCall.registrations, List.map_map]
    rfl

/-- One call keeps every dependency of the context pending. -/
theorem call_settled {d : Discovery} {f : Frontier} (hs : Settled d f) (c : HookCall) :
    Settled (d.call how map f c).2.1 (d.call how map f c).2.2 := by
  cases c with
  | intercept o p => exact (register_frontier how p hs _).2
  | replay refs p => exact registerAll_settled how p hs refs

/-- Calls in order keep every dependency of the context pending: the frontier is only ever
added to while the context lives. -/
theorem callAll_settled {d : Discovery} {f : Frontier} (hs : Settled d f)
    (calls : List HookCall) :
    Settled (callAll how map d f calls).2.1 (callAll how map d f calls).2.2 := by
  induction calls generalizing d f with
  | nil => exact hs
  | cons c cs ih => exact ih (call_settled how map hs c)

/-- Calls in order: each returns its answer, the context holds what registering all their
references gives, and the frontier queues the paths they lead to, in order. -/
theorem callAll_spec {d : Discovery} {f : Frontier} {regs : List (Reference × Path)}
    (hs : Settled d f) (hr : Records how d regs) (calls : List HookCall) :
    (callAll how map d f calls).1 = calls.map (·.answer map) ∧
      Records how (callAll how map d f calls).2.1
        (regs ++ calls.flatMap (·.registrations map)) ∧
      (callAll how map d f calls).2.2 =
        f.enqueueAll (targets how (calls.flatMap (·.registrations map))) := by
  induction calls generalizing d f regs with
  | nil => exact ⟨rfl, by simpa [callAll] using hr, rfl⟩
  | cons c cs ih =>
    obtain ⟨ha, hr₁, hs₁, hf₁⟩ := call_spec how map hs hr c
    obtain ⟨has, hr₂, hf₂⟩ := ih hs₁ hr₁
    refine ⟨?_, ?_, ?_⟩
    · simp only [callAll, List.map_cons]
      rw [ha, has]
    · simpa [callAll] using hr₂
    · simp only [callAll]
      rw [hf₂, hf₁, Frontier.enqueueAll, Frontier.enqueueAll, Frontier.enqueueAll,
        List.flatMap_cons, targets, targets, targets, List.map_append, List.foldl_append]

/-- **Calls on a fresh context.** Whatever the resolver, the lookup mode and the frontier, a
sequence of hook calls and replays on a fresh discovery context returns, for each hook call,
the specifier as the caller's map writes it. Its dependencies are the paths the registered
references lead to, the first spelling of each file, in the order met; its references are
the registered pairs, each once, in the order first met; and the frontier's queue is what it
held, followed by those dependencies that were not pending, in order. -/
theorem callAll_empty_dedups_and_queues (f : Frontier) (calls : List HookCall) :
    let r := callAll how map empty f calls
    let regs := calls.flatMap (·.registrations map)
    r.1 = calls.map (·.answer map) ∧
      r.2.1.dependencies = Path.unseen [] (regs.map fun x => how.target x.2 x.1) ∧
      r.2.1.references = (regs.map Prod.fst).eraseDups ∧
      r.2.2.queue = f.queue ++ (r.2.1.dependencies.filter fun q => !f.isPending q).map Job.ofPath := by
  obtain ⟨ha, ⟨hdeps, hrefs⟩, hf⟩ := callAll_spec how map (settled_empty f) (records_empty how) calls
  simp only [List.nil_append] at hdeps hrefs
  refine ⟨ha, hdeps, hrefs, ?_⟩
  rw [hf, Frontier.enqueueAll_eq, hdeps, Path.unseen_eq_filter]
  rfl

/-- A transformer that asks about its specifiers in order registers, through the hook, exactly
the references a pass registers for the file: the specifiers with their mapped forms. -/
theorem callAll_intercept (d : Discovery) (f : Frontier) (asked : List String) (p : Path) :
    (callAll how map d f (asked.map (.intercept · p))).2 =
      ((registerAll how p d f (asked.map fun o => ⟨o, mapWith map o p⟩)).1,
        (registerAll how p d f (asked.map fun o => ⟨o, mapWith map o p⟩)).2.1) := by
  induction asked generalizing d f with
  | nil => rfl
  | cons o asked ih =>
    simp only [List.map_cons, callAll, registerAll]
    exact ih _ _

/-- Calls on a fresh context that register the references `rs`, all met in the file at `p`: the
context holds `rs` as registered from that file, and the frontier queues where they lead. -/
theorem callAll_empty_of_registrations (f : Frontier) {calls : List HookCall}
    {rs : List Reference} {p : Path} (hregs : calls.flatMap (·.registrations map) = rs.map (·, p)) :
    (callAll how map empty f calls).2.1.dependencies = Path.unseen [] (rs.map (how.target p)) ∧
      (callAll how map empty f calls).2.1.references = rs.eraseDups ∧
      (callAll how map empty f calls).2.2 = f.enqueueAll (rs.map (how.target p)) := by
  obtain ⟨-, ⟨hdeps, hrefs⟩, hf⟩ :=
    callAll_spec how map (settled_empty f) (records_empty how) calls
  have htargets : targets how (rs.map (·, p)) = rs.map (how.target p) := by simp [targets]
  have hfst : (rs.map (·, p)).map Prod.fst = rs := by simp [Function.comp_def]
  rw [List.nil_append, hregs, htargets] at hdeps
  rw [List.nil_append, hregs, hfst] at hrefs
  rw [hregs, htargets] at hf
  exact ⟨hdeps, hrefs, hf⟩

/-- **Replaying what the hook recorded is calling the hook again.** Take the specifiers `specs` a
transformer asks about in the file at `p`, in order, and `L` the references they make, each once,
in the order first met: what the hook records for the file, whatever the resolver and the lookup
mode. On a fresh context over any frontier, replaying `L` leaves the frontier (its queue and its
pending paths), the dependencies and the references that calling the hook on `specs` leaves. -/
theorem replay_recorded_eq_intercepts (f : Frontier) (specs : List String) (p : Path) :
    let L := (specs.map fun o => (⟨o, mapWith map o p⟩ : Reference)).eraseDups
    let hooked := callAll how map empty f (specs.map (.intercept · p))
    let replayed := callAll how map empty f [.replay L p]
    hooked.2.1.references = L ∧ replayed.2.2 = hooked.2.2 ∧
      replayed.2.1.dependencies = hooked.2.1.dependencies ∧
      replayed.2.1.references = hooked.2.1.references := by
  intro L hooked replayed
  -- both runs register references met in `p`: the hook each specifier's, the replay `L`
  obtain ⟨hdeps₁, hrefs₁, hf₁⟩ :=
    callAll_empty_of_registrations how map f (HookCall.registrations_intercepts map specs p)
  have hregs : [HookCall.replay L p].flatMap (·.registrations map) = L.map (·, p) := by
    simp [HookCall.registrations]
  obtain ⟨hdeps₂, hrefs₂, hf₂⟩ := callAll_empty_of_registrations how map f hregs
  have hL : hooked.2.1.references = L := hrefs₁
  refine ⟨hL, ?_, ?_, ?_⟩
  · -- a repeated reference resolves to a path its first occurrence already queued
    rw [hf₁, hf₂, Frontier.enqueueAll_eq, Frontier.enqueueAll_eq, Path.unseen_map_eraseDups]
  · rw [hdeps₁, hdeps₂, Path.unseen_map_eraseDups]
  · rw [hL, hrefs₂]
    exact List.eraseDups_eraseDups _

/-- **A file's dependencies stay pending.** After any hook calls and replays on a fresh
context over any frontier, every dependency of the context is pending on the frontier. So
registering one more reference, whichever and from whichever file, changes the frontier exactly
as queueing the path it leads to would: the test against the file's own dependencies only
spares the frontier a path it holds already. -/
theorem callAll_dependencies_pending (f : Frontier) (calls : List HookCall) :
    let r := callAll how map empty f calls
    (∀ q ∈ r.2.1.dependencies, r.2.2.isPending q = true) ∧
      ∀ (ref : Reference) (p : Path),
        (r.2.1.register how r.2.2 ref p).2.1 = (r.2.2.enqueue (how.target p ref)).2 := by
  intro r
  have hs : Settled r.2.1 r.2.2 := callAll_settled how map (settled_empty f) calls
  exact ⟨hs, fun ref p => (register_frontier how p hs ref).1⟩

end Discovery

end ModuleGraph
