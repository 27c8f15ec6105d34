import ModuleGraph.CommandLine.Run
import ModuleGraph.Proofs.Library

/-!
# What a configuration file may hold

A configuration is read from the entries of the root table of a text, in the order the settings
format visits them, each entry setting the field of its key. This holds for any settings format
that defines each key of a table once (`Settings.Format.KeysOnce`), which is all the reading asks
of the format beyond its readers.

The reading does not depend on the order of the entries: a text is a configuration exactly when
its root table reads, every key in it is a configuration's, and each field is its key's value read
as that field reads, or its default when the key is absent (`read_eq_ok_iff`). The cache setting
is read as any value, then as a truth value, and failing that as a name (`readCaching_eq_ok_iff`);
a name selects the partition the command line's `--cache` selects with it. An unknown key is the
error, naming the key and the keys there are (`setField_of_not_mem`).
-/

namespace ModuleGraph

variable {Value Error : Type} (fmt : Settings.Format Value Error)

/-- A format defines each key of a root table once. -/
def Settings.Format.KeysOnce : Prop :=
  ∀ {text : String} {entries : List (String × Value)}, fmt.root text = .ok entries →
    (entries.map Prod.fst).Nodup

namespace Configuration

/-! ## A field read from root entries -/

/-- A field read from root entries: the value under the key `k` read by `read`, or the default
`d` when no entry has the key. -/
def fieldOf {α : Type} (read : Value → Except Error α) (entries : List (String × Value))
    (k : String) (d : α) : Except Error α :=
  match entries.lookup k with
  | some v => read v
  | none => .ok d

section FieldOf

variable {α : Type} (read : Value → Except Error α) (k : String) (d : α)

@[simp] theorem fieldOf_nil : fieldOf read [] k d = .ok d := rfl

theorem fieldOf_cons (k' : String) (v : Value) (rest : List (String × Value)) :
    fieldOf read ((k', v) :: rest) k d = if k = k' then read v else fieldOf read rest k d := by
  unfold fieldOf
  rw [List.lookup_cons]
  by_cases h : k = k'
  · simp [h]
  · simp [h, beq_false_of_ne h]

/-- No entry has the key: the field keeps its default. -/
theorem fieldOf_of_not_mem {entries : List (String × Value)} (h : k ∉ entries.map Prod.fst) :
    fieldOf read entries k d = .ok d := by
  induction entries with
  | nil => rfl
  | cons e rest ih =>
    obtain ⟨k', v⟩ := e
    simp only [List.map_cons, List.mem_cons, not_or] at h
    rw [fieldOf_cons, if_neg h.1, ih h.2]

end FieldOf

/-- What root entries give a configuration `c` over `c₀`: each field is its key's value read as
that field reads, or `c₀`'s where no entry has the key. -/
def Reads (entries : List (String × Value)) (c₀ c : Configuration) : Prop :=
  fieldOf (readCaching fmt) entries "cache" c₀.caching = .ok c.caching ∧
    fieldOf fmt.truth entries "skip_cached_files" c₀.skipCached = .ok c.skipCached ∧
    fieldOf fmt.truth entries "fetch_from_original_module_source" c₀.byWritten = .ok c.byWritten ∧
    fieldOf (fun v => some <$> fmt.text v) entries "default_extension" c₀.defaultExtension =
      .ok c.defaultExtension ∧
    fieldOf fmt.table entries "transform" c₀.transform = .ok c.transform

variable {fmt}

theorem reads_nil {c₀ c : Configuration} : Reads fmt [] c₀ c ↔ c₀ = c := by
  cases c₀
  cases c
  simp [Reads]

/-! ## Setting one field -/

/-- Reading the cache setting succeeds exactly when the value reads as any value, and then as a
truth value, which turns the shared partition on or off, or failing that as a name, which selects
its partition (the empty name none). -/
theorem readCaching_eq_ok_iff {v : Value} {p : Caching} :
    readCaching fmt v = .ok p ↔ fmt.any v = .ok () ∧
      ((∃ b, fmt.truth v = .ok b ∧ p = Caching.ofFlag b) ∨
        ((∀ b, fmt.truth v ≠ .ok b) ∧ ∃ s, fmt.text v = .ok s ∧ p = Caching.ofName s)) := by
  unfold readCaching
  cases hany : fmt.any v with
  | error e => simp [bind, Except.bind]
  | ok u =>
    cases htruth : fmt.truth v with
    | ok b => simp [bind, Except.bind, pure, Except.pure, eq_comm]
    | error e =>
      cases htext : fmt.text v with
      | ok s => simp [bind, Except.bind, pure, Except.pure, eq_comm]
      | error e' => simp [bind, Except.bind, throw, throwThe, MonadExceptOf.throw]

/-- A key no configuration has is the error, naming the key and the keys there are. -/
theorem setField_of_not_mem {c : Configuration} {k : String} {v : Value} (hk : k ∉ fields) :
    setField fmt c (k, v) = .error (fmt.unknownField k v fields) := by
  simp only [fields, List.mem_cons, List.not_mem_nil, or_false, not_or] at hk
  obtain ⟨h₁, h₂, h₃, h₄, h₅⟩ := hk
  unfold setField
  split
  next h => exact absurd h h₁
  next h => exact absurd h h₂
  next h => exact absurd h h₃
  next h => exact absurd h h₄
  next h => exact absurd h h₅
  next => rfl

/-- Setting a field by a reader is reading the value, then putting what it gives. -/
theorem exists_setWith_iff {α : Type} {read : Value → Except Error α}
    {put : Configuration → α → Configuration} {c₀ : Configuration} {v : Value}
    {P : Configuration → Prop} :
    (∃ c₁, setWith read put c₀ v = .ok c₁ ∧ P c₁) ↔ ∃ a, read v = .ok a ∧ P (put c₀ a) := by
  simp only [setWith, Except.map_eq_ok_iff]
  constructor
  · rintro ⟨c₁, ⟨a, ha, rfl⟩, hP⟩
    exact ⟨a, ha, hP⟩
  · rintro ⟨a, ha, hP⟩
    exact ⟨_, ⟨a, ha, rfl⟩, hP⟩

/-- **One entry.** An entry with a configuration's key, new to the entries after it, sets its
field from its value and leaves the others to those entries. -/
theorem reads_cons {c₀ c : Configuration} {k : String} {v : Value} {rest : List (String × Value)}
    (hk : k ∈ fields) (hfresh : k ∉ rest.map Prod.fst) :
    Reads fmt ((k, v) :: rest) c₀ c ↔ ∃ c₁, setField fmt c₀ (k, v) = .ok c₁ ∧ Reads fmt rest c₁ c := by
  simp only [fields, List.mem_cons, List.not_mem_nil, or_false] at hk
  -- for each key: its field is read from the entry's value, the later entries leave it so, and
  -- the other fields are the later entries' (the conjunctions sorted alike on both sides)
  rcases hk with rfl | rfl | rfl | rfl | rfl <;> simp only [setField, exists_setWith_iff] <;>
    simp [Reads, fieldOf_cons, fieldOf_of_not_mem _ _ _ hfresh, and_assoc, and_comm, and_left_comm]

/-! ## Reading a configuration -/

/-- **Reading entries.** Entries with keys defined once are read in order over `c₀` into `c`
exactly when every key is a configuration's and `c` is what they give over `c₀`. -/
theorem foldlM_setField_eq_ok_iff :
    ∀ {todo : List (String × Value)} {c₀ c : Configuration}, (todo.map Prod.fst).Nodup →
      (todo.foldlM (setField fmt) c₀ = .ok c ↔ (∀ e ∈ todo, e.1 ∈ fields) ∧ Reads fmt todo c₀ c)
  | [], c₀, c, _ => by
    rw [reads_nil]
    simp only [List.foldlM_nil, List.not_mem_nil, false_implies, implies_true, true_and]
    exact ⟨fun h => by cases h; rfl, fun h => by rw [h]; rfl⟩
  | (k, v) :: rest, c₀, c, hnd => by
    rw [List.map_cons, List.nodup_cons] at hnd
    rw [List.foldlM_cons, Except.bind_eq_ok_iff]
    by_cases hk : k ∈ fields
    · -- the first entry sets its field, and the rest are read over what it gives
      rw [reads_cons hk hnd.1]
      simp only [List.forall_mem_cons, hk, true_and]
      constructor
      · intro h
        obtain ⟨c₁, h₁, hrest⟩ := h
        obtain ⟨hkeys, hreads⟩ := (foldlM_setField_eq_ok_iff hnd.2).mp hrest
        exact ⟨hkeys, c₁, h₁, hreads⟩
      · intro h
        obtain ⟨hkeys, c₁, h₁, hreads⟩ := h
        exact ⟨c₁, h₁, (foldlM_setField_eq_ok_iff hnd.2).mpr ⟨hkeys, hreads⟩⟩
    · -- an unknown key is the error
      rw [setField_of_not_mem hk]
      simp [hk]

/-- **What a configuration file may hold.** For a format that defines each key of a table once,
a text is a configuration exactly when its root table reads, every key in it is one of `cache`,
`skip_cached_files`, `fetch_from_original_module_source`, `default_extension` and `transform`,
and each field of the configuration is its key's value read as that field reads, or its default
when the key is absent. -/
theorem read_eq_ok_iff (hkeys : fmt.KeysOnce) (text : String) (c : Configuration) :
    read fmt text = .ok c ↔ ∃ entries, fmt.root text = .ok entries ∧
      (∀ e ∈ entries, e.1 ∈ fields) ∧ Reads fmt entries default c := by
  unfold read
  rw [Except.bind_eq_ok_iff]
  constructor
  · intro h
    obtain ⟨entries, hroot, hread⟩ := h
    exact ⟨entries, hroot, (foldlM_setField_eq_ok_iff (hkeys hroot)).mp hread⟩
  · intro h
    obtain ⟨entries, hroot, hread⟩ := h
    exact ⟨entries, hroot, (foldlM_setField_eq_ok_iff (hkeys hroot)).mpr hread⟩

/-- A name given for the cache setting selects the partition the command line's `--cache` selects
with that name. -/
theorem readCaching_name_eq_override {v : Value} {s : String} (hany : fmt.any v = .ok ())
    (htruth : ∀ b, fmt.truth v ≠ .ok b) (htext : fmt.text v = .ok s) (o : CommandLine.Options)
    (ho : o.cache = some (some s)) (c : Configuration) :
    readCaching fmt v = .ok (o.override c).caching := by
  rw [readCaching_eq_ok_iff]
  refine ⟨hany, .inr ⟨htruth, s, htext, ?_⟩⟩
  simp [CommandLine.Options.override, ho]

end Configuration

end ModuleGraph
