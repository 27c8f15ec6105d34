import ModuleGraph.Build.Discovery
import ModuleGraph.Text.Quoted

/-!
# The result store

Transformation results are kept between builds, in partitions: one shared partition and
any number of named ones (an empty name is a partition of its own). In a partition, a
path (compared by components) has at most one entry: the content the result was computed
from, the result, and the references found on the way. Storing an entry for a path that
has one replaces the entry and keeps the path as first stored.

Results carry a serial number, given when they are computed, so that a result taken from
the store can be told from a result computed again.
-/

namespace ModuleGraph

/-- A partition of the result store. -/
inductive Partition where
  | shared
  | named (name : String)
  deriving DecidableEq, Repr

/-- How a partition is shown: its name, or `<shared>`. -/
def Partition.display : Partition → String
  | .shared => "<shared>"
  | .named name => name

/-- Whether and where a build keeps its results. -/
inductive Caching where
  | off
  | shared
  | named (name : String)
  deriving DecidableEq, Repr

namespace Caching

/-- The partition a build uses, if it keeps results. -/
def partition? : Caching → Option Partition
  | off => none
  | shared => some .shared
  | named name => some (.named name)

/-- Whether results are kept. -/
def isOn (c : Caching) : Bool := c.partition?.isSome

/-- `true` keeps results in the shared partition, `false` keeps none. -/
def ofFlag (b : Bool) : Caching := if b then shared else off

/-- A name selects a named partition; the empty name keeps no results. -/
def ofName (s : String) : Caching := if s = "" then off else named s

/-- The debug form: `Disabled`, `Shared` or `Namespace("name")`. -/
def debug : Caching → String
  | off => "Disabled"
  | shared => "Shared"
  | named name => "Namespace(" ++ Text.quote name ++ ")"

end Caching

/-- A result with the serial number it was given when computed. -/
structure Stamped (α : Type) where
  serial : Nat
  value : α

/-- What the store keeps for one path. -/
structure Entry (α : Type) where
  content : String
  result : Stamped α
  references : List Reference

/-- Whether an entry was computed from exactly this content. -/
def Entry.matches {α : Type} (e : Entry α) (content : String) : Bool := e.content == content

/-- One entry of the store, with its partition and its path as stored. -/
structure Slot (α : Type) where
  partition : Partition
  key : Path
  entry : Entry α

/-- Whether a slot holds the entry of a path in a partition. -/
def Slot.isFor {α : Type} (s : Slot α) (p : Path) (ns : Partition) : Bool :=
  s.partition == ns && s.key.same p

/-- The result store. -/
structure ResultCache (α : Type) where
  slots : List (Slot α)

namespace ResultCache

variable {α : Type}

/-- The empty store. -/
def empty : ResultCache α := ⟨[]⟩

/-- The entry of a path in a partition. -/
def get (c : ResultCache α) (p : Path) (ns : Partition) : Option (Entry α) :=
  (c.slots.find? (·.isFor p ns)).map (·.entry)

/-- Whether a path has an entry in a partition. -/
def contains (c : ResultCache α) (p : Path) (ns : Partition) : Bool := (c.get p ns).isSome

/-- Stores an entry; returns the entry it replaces, if any. A replaced entry's path keeps
its first spelling. -/
def put (c : ResultCache α) (p : Path) (ns : Partition) (e : Entry α) :
    Option (Entry α) × ResultCache α :=
  match c.get p ns with
  | some old => (some old, ⟨c.slots.map fun s => if s.isFor p ns then { s with entry := e } else s⟩)
  | none => (none, ⟨c.slots ++ [⟨ns, p, e⟩]⟩)

/-- Removes every entry. -/
def clear (_ : ResultCache α) : ResultCache α := empty

/-- Removes the entries of one partition. -/
def clearPartition (c : ResultCache α) (ns : Partition) : ResultCache α :=
  ⟨c.slots.filter fun s => s.partition != ns⟩

/-- The number of entries over all partitions. -/
def size (c : ResultCache α) : Nat := c.slots.length

/-- Whether the store holds no entry. -/
def isEmpty (c : ResultCache α) : Bool := c.size == 0

@[simp] theorem get_empty (p : Path) (ns : Partition) : (empty : ResultCache α).get p ns = none :=
  rfl

@[simp] theorem get_clear (c : ResultCache α) (p : Path) (ns : Partition) :
    c.clear.get p ns = none :=
  rfl

theorem isFor_self (p : Path) (ns : Partition) (e : Entry α) : Slot.isFor ⟨ns, p, e⟩ p ns = true := by
  simp [Slot.isFor]

theorem get_put_self (c : ResultCache α) (p : Path) (ns : Partition) (e : Entry α) :
    (c.put p ns e).2.get p ns = some e := by
  unfold put
  split
  · rename_i old h
    unfold get at h ⊢
    rw [List.find?_map]
    have hf : (fun s : Slot α => Slot.isFor s p ns) ∘
        (fun s : Slot α => if s.isFor p ns then { s with entry := e } else s) =
        fun s => Slot.isFor s p ns := by
      funext s
      simp only [Function.comp]
      split <;> rfl
    rw [hf]
    cases hfind : c.slots.find? (fun s => Slot.isFor s p ns) with
    | none => simp [hfind] at h
    | some s =>
      have hs := List.find?_some hfind
      simp [hs]
  · rename_i h
    unfold get at h ⊢
    rw [List.find?_append]
    cases hfind : c.slots.find? (fun s => Slot.isFor s p ns) with
    | none => simp [isFor_self]
    | some s => simp [hfind] at h

theorem get_clearPartition (c : ResultCache α) (ns ns' : Partition) (p : Path) :
    (c.clearPartition ns).get p ns' = if ns' = ns then none else c.get p ns' := by
  unfold clearPartition get
  split
  · rename_i h
    subst h
    rw [List.find?_filter]
    simp only [Option.map_eq_none_iff, List.find?_eq_none]
    intro s _ hs
    simp [Slot.isFor] at hs
    exact hs.1 hs.2.1
  · rename_i h
    congr 1
    rw [List.find?_filter]
    congr 1
    funext s
    by_cases hs : s.partition = ns'
    · simp [Slot.isFor, hs, h]
    · simp [Slot.isFor, hs]

/-- Storing an entry leaves the entry of a path in a partition as it was when no slot can hold
both. -/
theorem get_put_of_isFor_eq_false (c : ResultCache α) {p q : Path} {ns ns' : Partition}
    (e : Entry α) (hslot : ∀ s : Slot α, s.isFor q ns' = true → s.isFor p ns = false) :
    (c.put p ns e).2.get q ns' = c.get q ns' := by
  unfold put
  split
  · unfold get
    rw [List.find?_map]
    have hf : (fun s : Slot α => Slot.isFor s q ns') ∘
        (fun s : Slot α => if s.isFor p ns then { s with entry := e } else s) =
        fun s => Slot.isFor s q ns' := by
      funext s
      simp only [Function.comp]
      split <;> rfl
    rw [hf]
    cases hfind : c.slots.find? (fun s => Slot.isFor s q ns') with
    | none => rfl
    | some s =>
      have hq := List.find?_some hfind
      have hs : s.isFor p ns = false := hslot s hq
      simp [hs]
  · unfold get
    rw [List.find?_append]
    cases hfind : c.slots.find? (fun s => Slot.isFor s q ns') with
    | none =>
      -- the new slot holds `p` in `ns`, so it cannot hold `q` in `ns'`
      have hnew : Slot.isFor ⟨ns, p, e⟩ q ns' = false := by
        cases hq : Slot.isFor ⟨ns, p, e⟩ q ns'
        · rfl
        · have h := hslot _ hq
          rw [isFor_self] at h
          cases h
      simp [hnew]
    | some s => rfl

/-- Storing an entry leaves the entries of other files as they were. -/
theorem get_put_of_same_eq_false (c : ResultCache α) {p q : Path} (ns ns' : Partition)
    (e : Entry α) (h : p.same q = false) : (c.put p ns e).2.get q ns' = c.get q ns' := by
  apply get_put_of_isFor_eq_false
  intro s hq
  cases hp : s.isFor p ns
  · rfl
  · simp only [Slot.isFor, Bool.and_eq_true] at hp hq
    rw [Path.same_trans (Path.same_symm hp.2) hq.2] at h
    cases h

/-- Storing an entry leaves the other partitions as they were. -/
theorem get_put_of_ne (c : ResultCache α) (p q : Path) {ns ns' : Partition} (e : Entry α)
    (h : ns ≠ ns') : (c.put p ns e).2.get q ns' = c.get q ns' := by
  apply get_put_of_isFor_eq_false
  intro s hq
  simp only [Slot.isFor, Bool.and_eq_true, beq_iff_eq] at hq
  simp [Slot.isFor, hq.1, Ne.symm h]

/-- Paths naming one file have one entry. -/
theorem get_of_same (c : ResultCache α) {p q : Path} (ns : Partition) (h : p.same q = true) :
    c.get p ns = c.get q ns := by
  have hkey : ∀ s : Slot α, s.isFor p ns = s.isFor q ns := by
    intro s
    simp only [Slot.isFor]
    congr 1
    exact Bool.eq_iff_iff.mpr
      ⟨fun h' => Path.same_trans h' h, fun h' => Path.same_trans h' (Path.same_symm h)⟩
  unfold get
  simp only [hkey]

end ResultCache

end ModuleGraph
