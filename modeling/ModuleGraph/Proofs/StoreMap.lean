import Mathlib.Data.Finset.Card
import Mathlib.Logic.Function.Basic
import ModuleGraph.Build.ResultCache

/-!
# The result store as one finite map

The store keeps its entries as a list of slots, each with its partition, its path as first stored
and its entry, and finds an entry by comparing paths by their components. Seen from outside it is
one finite map (`StoreMap`): a key is a partition with a file named by its components, and the map
holds for each key the path first stored under it and the entry. This module states the operations
a caller makes on a store (look up, test, store, clear the whole store or one partition, count,
test for emptiness) and proves that a store answers every sequence of them from empty as the map
does, and ends standing for the map the sequence leaves (`runOps_from_empty_is_storeMap`).

The map reads plainly. A lookup finds the entry of the latest store to its key since the key's
partition, or the whole store, was last cleared; a store answers the entry it replaces and keeps
the path first stored under the key since then; clearing a partition drops its keys and no
other; the count is the number of keys over all partitions. A key's partition is part of the key,
so the shared partition and a named partition called `<shared>`, shown alike, never share an
entry.

What the list of slots needs for this is that no two slots hold one key (`ResultCache.Nodup`):
the count of slots is then the number of keys.
-/

namespace ModuleGraph

variable {α : Type}

/-- The key a slot holds its entry under: its partition and the components of its path. -/
def Slot.storeKey (s : Slot α) : Partition × List Component := (s.partition, s.key.components)

theorem Slot.isFor_eq_decide (s : Slot α) (p : Path) (ns : Partition) :
    s.isFor p ns = decide (s.storeKey = (ns, p.components)) := by
  rw [Bool.eq_iff_iff]
  simp [Slot.isFor, Slot.storeKey, Path.same]

/-- The store seen from outside: a finite map from a partition and a file, the file named by its
components, to the path first stored under the key and the entry. -/
@[ext] structure StoreMap (α : Type) where
  keys : Finset (Partition × List Component)
  find : Partition × List Component → Option (Path × Entry α)
  mem_keys : ∀ k, k ∈ keys ↔ (find k).isSome
  /-- The path kept under a key names the key's file. -/
  spelling : ∀ k q e, find k = some (q, e) → q.components = k.2

namespace StoreMap

/-- Maps are equal when they find the same: the keys are where they find something. -/
theorem ext_find {m m' : StoreMap α} (h : ∀ k, m.find k = m'.find k) : m = m' := by
  apply StoreMap.ext
  · ext k
    rw [m.mem_keys, m'.mem_keys, h]
  · funext k
    exact h k

/-- The map with no keys. -/
def empty : StoreMap α := ⟨∅, fun _ => none, by simp, by simp⟩

/-- Keeps the entry `e` for path `p` in partition `ns`, under the path first stored for that key
if there is one. -/
def store (m : StoreMap α) (p : Path) (ns : Partition) (e : Entry α) : StoreMap α where
  keys := insert (ns, p.components) m.keys
  find := Function.update m.find (ns, p.components)
    (some (((m.find (ns, p.components)).map (·.1)).getD p, e))
  mem_keys k := by
    by_cases hk : k = (ns, p.components)
    · simp [hk]
    · simp [hk, m.mem_keys]
  spelling k q e' h := by
    by_cases hk : k = (ns, p.components)
    · subst hk
      rw [Function.update_self, Option.some.injEq, Prod.mk.injEq] at h
      rw [← h.1]
      cases hf : m.find (ns, p.components) with
      | none => rfl
      | some x => exact m.spelling _ x.1 x.2 hf
    · rw [Function.update_of_ne hk] at h
      exact m.spelling k q e' h

/-- Drops the keys of the partition `ns`. -/
def dropPartition (m : StoreMap α) (ns : Partition) : StoreMap α where
  keys := m.keys.filter (·.1 ≠ ns)
  find k := if k.1 = ns then none else m.find k
  mem_keys k := by
    by_cases hk : k.1 = ns
    · simp [hk]
    · simp [hk, m.mem_keys]
  spelling k q e h := by
    by_cases hk : k.1 = ns
    · simp [hk] at h
    · rw [if_neg hk] at h
      exact m.spelling k q e h

end StoreMap

namespace ResultCache

/-- An operation a caller makes on a store. -/
inductive Op (α : Type) where
  | get (p : Path) (ns : Partition)
  | contains (p : Path) (ns : Partition)
  | put (p : Path) (ns : Partition) (e : Entry α)
  | clear
  | clearPartition (ns : Partition)
  | size
  | isEmpty

/-- What an operation answers. -/
inductive Answer (α : Type) where
  | found (e : Option (Entry α))
  | present (b : Bool)
  | replaced (e : Option (Entry α))
  | cleared
  | size (n : Nat)
  | empty (b : Bool)

/-- Makes one operation. -/
def apply (c : ResultCache α) : Op α → Answer α × ResultCache α
  | .get p ns => (.found (c.get p ns), c)
  | .contains p ns => (.present (c.contains p ns), c)
  | .put p ns e => (.replaced (c.put p ns e).1, (c.put p ns e).2)
  | .clear => (.cleared, c.clear)
  | .clearPartition ns => (.cleared, c.clearPartition ns)
  | .size => (.size c.size, c)
  | .isEmpty => (.empty c.isEmpty, c)

/-- Makes operations in order, collecting the answers. -/
def runOps (c : ResultCache α) : List (Op α) → List (Answer α) × ResultCache α
  | [] => ([], c)
  | op :: ops =>
    let (a, c₁) := c.apply op
    let (as, c₂) := c₁.runOps ops
    (a :: as, c₂)

/-- The map a store stands for: the key of each slot, with the slot's path and entry. -/
def toMap (c : ResultCache α) : StoreMap α where
  keys := (c.slots.map Slot.storeKey).toFinset
  find k := (c.slots.find? (·.storeKey = k)).map fun s => (s.key, s.entry)
  mem_keys k := by simp
  spelling k q e h := by
    obtain ⟨s, hs, hse⟩ := Option.map_eq_some_iff.mp h
    have hk : s.storeKey = k := by simpa using List.find?_some hs
    cases hse
    rw [← hk]
    rfl

/-- No two slots hold one key. -/
def Nodup (c : ResultCache α) : Prop := (c.slots.map Slot.storeKey).Nodup

end ResultCache

namespace StoreMap

/-- Makes one operation on the map. -/
def apply (m : StoreMap α) : ResultCache.Op α → ResultCache.Answer α × StoreMap α
  | .get p ns => (.found ((m.find (ns, p.components)).map (·.2)), m)
  | .contains p ns => (.present (decide ((ns, p.components) ∈ m.keys)), m)
  | .put p ns e => (.replaced ((m.find (ns, p.components)).map (·.2)), m.store p ns e)
  | .clear => (.cleared, empty)
  | .clearPartition ns => (.cleared, m.dropPartition ns)
  | .size => (.size m.keys.card, m)
  | .isEmpty => (.empty (decide (m.keys = ∅)), m)

/-- Makes operations on the map in order, collecting the answers. -/
def runOps (m : StoreMap α) : List (ResultCache.Op α) → List (ResultCache.Answer α) × StoreMap α
  | [] => ([], m)
  | op :: ops =>
    let (a, m₁) := m.apply op
    let (as, m₂) := m₁.runOps ops
    (a :: as, m₂)

end StoreMap

namespace ResultCache

variable (c : ResultCache α) (p : Path) (ns : Partition)

/-- A store finds for a path in a partition the entry its map holds under the key. -/
theorem get_eq_find : c.get p ns = (c.toMap.find (ns, p.components)).map (·.2) := by
  have hpred : (fun s : Slot α => s.isFor p ns) =
      fun s => decide (s.storeKey = (ns, p.components)) := by
    funext s
    exact Slot.isFor_eq_decide s p ns
  simp only [get, toMap, Option.map_map, hpred]
  rfl

theorem contains_eq_mem : c.contains p ns = decide ((ns, p.components) ∈ c.toMap.keys) := by
  rw [contains, get_eq_find, Option.isSome_map, Bool.eq_iff_iff, decide_eq_true_iff,
    c.toMap.mem_keys]

theorem put_fst (e : Entry α) : (c.put p ns e).1 = c.get p ns := by
  unfold put
  split <;> simp_all

/-- Giving the slots for a key a new entry: the map finds it there, under the path it held, and
finds as before under every other key. -/
theorem toMap_find_setEntry (e : Entry α) (k : Partition × List Component) :
    (⟨c.slots.map fun s => if s.isFor p ns then { s with entry := e } else s⟩ :
      ResultCache α).toMap.find k =
      if k = (ns, p.components) then (c.toMap.find k).map (·.1, e) else c.toMap.find k := by
  have hF : ∀ s : Slot α,
      (if s.isFor p ns then { s with entry := e } else s).storeKey = s.storeKey := by
    intro s
    split <;> rfl
  show ((c.slots.map _).find? _).map _ = _
  rw [List.find?_map]
  simp only [Function.comp_def, hF]
  -- the slot found under `k` is found still; it is rewritten exactly when `k` is the key
  cases hs : c.slots.find? (fun s => decide (s.storeKey = k)) with
  | none => split <;> simp [toMap, hs]
  | some s =>
    have hsk : s.storeKey = k := by simpa using List.find?_some hs
    by_cases hk : k = (ns, p.components)
    · subst hk
      have hfor : s.isFor p ns = true := by simp [Slot.isFor_eq_decide, hsk]
      simp [toMap, hs, hfor]
    · have hfor : s.isFor p ns = false := by simp [Slot.isFor_eq_decide, hsk, hk]
      simp [toMap, hs, hfor, hk]

/-- Adding a slot last: the map finds what it found, and the new slot's entry under a key it did
not hold. -/
theorem toMap_find_append (s : Slot α) (k : Partition × List Component) :
    (⟨c.slots ++ [s]⟩ : ResultCache α).toMap.find k =
      (c.toMap.find k).or (if s.storeKey = k then some (s.key, s.entry) else none) := by
  show ((c.slots ++ [s]).find? _).map _ = _
  rw [List.find?_append]
  cases hs : c.slots.find? (fun s => decide (s.storeKey = k)) with
  | none => by_cases hk : s.storeKey = k <;> simp [toMap, hs, hk]
  | some s' => simp [toMap, hs]

/-- Storing an entry in the store stores it in its map. A key already held keeps its path. -/
theorem toMap_put (e : Entry α) : (c.put p ns e).2.toMap = c.toMap.store p ns e := by
  apply StoreMap.ext_find
  intro k
  show _ = Function.update c.toMap.find (ns, p.components) _ k
  unfold put
  split
  · -- the key is held: its slots get the new entry
    rename_i old hold
    rw [get_eq_find, Option.map_eq_some_iff] at hold
    obtain ⟨⟨q, e₀⟩, hfind, -⟩ := hold
    rw [toMap_find_setEntry]
    by_cases hk : k = (ns, p.components)
    · subst hk
      simp [hfind]
    · rw [if_neg hk, Function.update_of_ne hk]
  · -- the key is new: a slot for it is added last
    rename_i hnone
    rw [get_eq_find, Option.map_eq_none_iff] at hnone
    rw [toMap_find_append]
    by_cases hk : k = (ns, p.components)
    · subst hk
      simp [hnone, Slot.storeKey]
    · have hnew : (⟨ns, p, e⟩ : Slot α).storeKey ≠ k := fun h => hk h.symm
      rw [if_neg hnew, Option.or_none, Function.update_of_ne hk]

/-- Clearing a partition of the store drops its keys from the map. -/
theorem toMap_clearPartition : (c.clearPartition ns).toMap = c.toMap.dropPartition ns := by
  apply StoreMap.ext_find
  intro k
  show ((c.slots.filter _).find? _).map _ = if k.1 = ns then none else _
  rw [List.find?_filter]
  split
  · rename_i hk
    -- a slot of the key is in the partition, and those are gone
    simp only [Option.map_eq_none_iff, List.find?_eq_none]
    intro s _ hs
    simp only [bne_iff_ne, ne_eq, decide_eq_true_eq] at hs
    exact hs.1 (hk ▸ congrArg Prod.fst hs.2)
  · rename_i hk
    -- a slot of the key is outside the partition, so the filter keeps it
    have hpred : ∀ s : Slot α, decide ((s.partition != ns) = true ∧ decide (s.storeKey = k) = true) =
        decide (s.storeKey = k) := by
      intro s
      by_cases hs : s.storeKey = k
      · have hpart : s.partition ≠ ns := fun h => hk (hs ▸ h)
        simp [hs, hpart]
      · simp [hs]
    simp only [hpred]
    rfl

@[simp] theorem toMap_clear : c.clear.toMap = StoreMap.empty :=
  StoreMap.ext_find fun _ => rfl

@[simp] theorem toMap_empty : (empty : ResultCache α).toMap = StoreMap.empty :=
  StoreMap.ext_find fun _ => rfl

/-- With one slot per key, the store counts the keys of its map. -/
theorem size_eq_card {c : ResultCache α} (h : c.Nodup) : c.size = c.toMap.keys.card := by
  show c.slots.length = (c.slots.map Slot.storeKey).toFinset.card
  rw [List.toFinset_card_of_nodup h, List.length_map]

theorem isEmpty_eq_decide : c.isEmpty = decide (c.toMap.keys = ∅) := by
  show (c.slots.length == 0) = decide ((c.slots.map Slot.storeKey).toFinset = ∅)
  rw [Bool.eq_iff_iff, decide_eq_true_iff, List.toFinset_eq_empty_iff, List.map_eq_nil_iff]
  simp

theorem nodup_empty : (empty : ResultCache α).Nodup := List.nodup_nil

theorem Nodup.clear (c : ResultCache α) : c.clear.Nodup := nodup_empty

/-- Storing keeps one slot per key: a held key keeps its slot, a new one gets one. -/
theorem Nodup.put {c : ResultCache α} (h : c.Nodup) (p : Path) (ns : Partition) (e : Entry α) :
    (c.put p ns e).2.Nodup := by
  unfold ResultCache.put
  split
  · show ((c.slots.map _).map Slot.storeKey).Nodup
    rw [List.map_map]
    have hkeys : (Slot.storeKey ∘ fun s : Slot α => if s.isFor p ns then { s with entry := e } else s) =
        Slot.storeKey := by
      funext s
      simp only [Function.comp]
      split <;> rfl
    rw [hkeys]
    exact h
  · rename_i hnone
    have hfresh : (ns, p.components) ∉ c.slots.map Slot.storeKey := by
      rw [get_eq_find, Option.map_eq_none_iff, ← Option.not_isSome_iff_eq_none,
        ← c.toMap.mem_keys] at hnone
      simpa [toMap] using hnone
    show ((c.slots ++ [(⟨ns, p, e⟩ : Slot α)]).map Slot.storeKey).Nodup
    rw [List.map_append, List.nodup_append]
    refine ⟨h, List.nodup_singleton _, ?_⟩
    intro k hk k' hk' hkk'
    rw [List.map_singleton, List.mem_singleton] at hk'
    subst hkk'
    rw [hk'] at hk
    exact hfresh hk

theorem Nodup.clearPartition {c : ResultCache α} (h : c.Nodup) (ns : Partition) :
    (c.clearPartition ns).Nodup :=
  h.sublist ((List.filter_sublist).map Slot.storeKey)

/-- **One operation.** A store with one slot per key answers an operation as its map does, ends
standing for the map the operation leaves, and keeps one slot per key. -/
theorem apply_toMap {c : ResultCache α} (h : c.Nodup) (op : Op α) :
    (c.apply op).1 = (c.toMap.apply op).1 ∧ (c.apply op).2.toMap = (c.toMap.apply op).2 ∧
      (c.apply op).2.Nodup := by
  cases op with
  | get p ns => exact ⟨by rw [apply, StoreMap.apply, get_eq_find], rfl, h⟩
  | contains p ns => exact ⟨by rw [apply, StoreMap.apply, contains_eq_mem], rfl, h⟩
  | put p ns e =>
    exact ⟨by rw [apply, StoreMap.apply, put_fst, get_eq_find], toMap_put c p ns e, h.put p ns e⟩
  | clear => exact ⟨rfl, toMap_clear c, Nodup.clear c⟩
  | clearPartition ns => exact ⟨rfl, toMap_clearPartition c ns, h.clearPartition ns⟩
  | size => exact ⟨by rw [apply, StoreMap.apply, size_eq_card h], rfl, h⟩
  | isEmpty => exact ⟨by rw [apply, StoreMap.apply, isEmpty_eq_decide], rfl, h⟩

/-- **A run of operations.** A store with one slot per key answers any operations as its map
does, and ends standing for the map they leave. -/
theorem runOps_toMap {c : ResultCache α} (h : c.Nodup) (ops : List (Op α)) :
    (c.runOps ops).1 = (c.toMap.runOps ops).1 ∧ (c.runOps ops).2.toMap = (c.toMap.runOps ops).2 := by
  induction ops generalizing c with
  | nil => exact ⟨rfl, rfl⟩
  | cons op ops ih =>
    obtain ⟨ha, hm, hn⟩ := apply_toMap h op
    obtain ⟨has, hms⟩ := ih hn
    simp only [runOps, StoreMap.runOps]
    rw [ha, has, hms, hm]
    exact ⟨rfl, rfl⟩

/-- **The store is one finite map.** From an empty store, any sequence of lookups, tests,
stores, clears of the whole store or of one partition, counts and emptiness tests, over any
partitions (the shared one, and named ones of any name, the empty name and `<shared>` among
them) and any paths, is answered as the finite map `StoreMap` answers it; and the store it leaves
stands for the map it leaves, with the same keys and, for each, the same path first stored and the
same entry. -/
theorem runOps_from_empty_is_storeMap (ops : List (Op α)) :
    ((empty : ResultCache α).runOps ops).1 = ((StoreMap.empty : StoreMap α).runOps ops).1 ∧
      ((empty : ResultCache α).runOps ops).2.toMap =
        ((StoreMap.empty : StoreMap α).runOps ops).2 := by
  have h := runOps_toMap (c := (empty : ResultCache α)) nodup_empty ops
  rwa [toMap_empty] at h

end ResultCache

end ModuleGraph
