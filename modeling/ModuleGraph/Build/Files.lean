import ModuleGraph.Path.Basic
import ModuleGraph.Log

/-!
# Where file contents come from

A build reads files through a file source: it can tell whether a path is a file and read
a file's text, which may fail. It also states its capacity, with the proof that no more paths
with pairwise different components than that are files; a build never loads more, and so never
handles more files than that plus its entries.

The in-memory file table is one such source: paths (compared by components) with their
text, in the order first stored. Storing text for a path already present replaces the
text and keeps the path as first stored.

Loading a job's content takes the content the caller supplied if there is one, and reads
the source only for a path that is a file.
-/

namespace ModuleGraph

/-- A source of file contents, and its capacity: no more paths with pairwise different
components than that are files. -/
structure FileSource where
  isFile : Path → Bool
  /-- The text of a file, or the message of the failure. -/
  read : Path → Except String String
  capacity : Nat
  files_le_capacity : ∀ ps : List Path, (ps.map Path.components).Nodup →
    (∀ p ∈ ps, isFile p = true) → ps.length ≤ capacity

/-- Files kept in memory: paths with their text, in the order first stored. -/
structure FileTable where
  files : List (Path × String)
  deriving Inhabited

namespace FileTable

/-- The empty table. -/
def empty : FileTable := ⟨[]⟩

/-- The text stored for a path. -/
def get? (t : FileTable) (p : Path) : Option String :=
  (t.files.find? (·.1.same p)).map (·.2)

/-- Stores text for a path; returns the text it replaces, if any. -/
def insert (t : FileTable) (p : Path) (text : String) : Option String × FileTable :=
  match t.get? p with
  | some old => (some old, ⟨t.files.map fun e => if e.1.same p then (e.1, text) else e⟩)
  | none => (none, ⟨t.files ++ [(p, text)]⟩)

/-- A table holding the given files, later texts for the same path replacing earlier. -/
def ofList (entries : List (Path × String)) : FileTable :=
  entries.foldl (fun t e => (t.insert e.1 e.2).2) empty

/-- Removes a path; returns its text, if it was present. The other files keep their order. -/
def remove (t : FileTable) (p : Path) : Option String × FileTable :=
  (t.get? p, ⟨t.files.filter fun e => !e.1.same p⟩)

/-- The number of files. -/
def size (t : FileTable) : Nat := t.files.length

theorem get?_insert_self (t : FileTable) (p : Path) (text : String) :
    (t.insert p text).2.get? p = some text := by
  unfold insert
  split
  · rename_i old h
    unfold get? at h ⊢
    rw [List.find?_map]
    have hf : (fun e : Path × String => e.1.same p) ∘
        (fun e : Path × String => if e.1.same p then (e.1, text) else e) =
        fun e => e.1.same p := by
      funext e
      simp only [Function.comp]
      split <;> rfl
    rw [hf]
    cases hfind : t.files.find? (fun e => e.1.same p) with
    | none => simp [hfind] at h
    | some e =>
      have he := List.find?_some hfind
      simp [he]
  · rename_i h
    unfold get? at h ⊢
    rw [List.find?_append]
    cases hfind : t.files.find? (fun e => e.1.same p) with
    | none => simp
    | some e => simp [hfind] at h

theorem get?_remove_self (t : FileTable) (p : Path) : (t.remove p).2.get? p = none := by
  unfold remove get?
  simp only [Option.map_eq_none_iff, List.find?_eq_none]
  intro e he
  simp only [List.mem_filter] at he
  simpa using he.2

/-- The text of a path, or the failure of reading an absent one. -/
def read (t : FileTable) (p : Path) : Except String String :=
  match t.get? p with
  | some text => .ok text
  | none => .error ("No such file: " ++ p.text)

/-- Paths with pairwise different components that all have text stored are no more than the
files stored: each has the components of a stored path. -/
theorem files_le_size (t : FileTable) (ps : List Path) (hps : (ps.map Path.components).Nodup)
    (hget : ∀ p ∈ ps, (t.get? p).isSome = true) : ps.length ≤ t.size := by
  have hsub : ps.map Path.components ⊆ t.files.map (·.1.components) := by
    intro c hc
    obtain ⟨p, hp, rfl⟩ := List.mem_map.mp hc
    have hstored : ∃ q, (∃ text, (q, text) ∈ t.files) ∧ q.same p = true := by
      simpa [get?] using hget p hp
    obtain ⟨q, ⟨text, hq⟩, hsame⟩ := hstored
    exact List.mem_map.mpr ⟨(q, text), hq, Path.same_iff.mp hsame⟩
  simpa [size] using hps.length_le_of_subset hsub

/-- The table as a file source: every stored path is a file, and no more paths can be
loaded than are stored. -/
def source (t : FileTable) : FileSource :=
  ⟨fun p => (t.get? p).isSome, t.read, t.size, t.files_le_size⟩

end FileTable

/-- Loads the content of a job with path `p`: supplied content wins; otherwise a path that
is no file gives `none`, and a file is read. Returns the log records of the step too. -/
def FileSource.load (src : FileSource) (p : Path) (supplied : Option String) :
    Except String (Option String) × List Record :=
  match supplied with
  | some text => (.ok (some text), [⟨.trace, .loader, "Using supplied content for " ++ p.text⟩])
  | none =>
    if src.isFile p then
      (some <$> src.read p, [⟨.trace, .loader, "Reading " ++ p.text⟩])
    else (.ok none, [])

end ModuleGraph
