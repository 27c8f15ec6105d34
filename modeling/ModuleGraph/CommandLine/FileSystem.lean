import ModuleGraph.Build.Files

/-!
# File systems

The command line reads files through a file system: for a path it tells what the path
names, a directory or a file, or why the lookup failed, in the words the system uses.
Relative paths are taken from the working directory.

A tree of directories and files is one such file system. Looking a path up walks it
segment by segment from the root: empty and `.` segments stay where they are, `..` goes up
(the root's parent is the root), and any other segment must name an entry of the directory
reached so far. Anything after a file, even a trailing separator, makes the path fail as
not naming a directory. As on the usual systems, a path of 4096 bytes or more, and a
segment of more than 255 bytes, is too long to look up.

A file holds text, or bytes that are not UTF-8 text; reading the latter fails.
-/

namespace ModuleGraph.CommandLine

/-- What a path names. -/
inductive Node where
  | directory
  /-- A file with its text, or `none` when its bytes are not UTF-8 text. -/
  | file (text : Option String)
  deriving DecidableEq, Repr

/-- Why looking up or reading a path failed. -/
inductive SystemError where
  | notFound
  | notDirectory
  | isDirectory
  | nameTooLong
  | notText
  deriving DecidableEq, Repr

/-- The message of a failure, as the system words it. -/
def SystemError.message : SystemError → String
  | .notFound => "No such file or directory (os error 2)"
  | .notDirectory => "Not a directory (os error 20)"
  | .isDirectory => "Is a directory (os error 21)"
  | .nameTooLong => "File name too long (os error 36)"
  | .notText => "stream did not contain valid UTF-8"

/-- The longest path, in bytes, that can be looked up. -/
def pathLimit : Nat := 4095

/-- The longest segment, in bytes, that can be looked up. -/
def segmentLimit : Nat := 255

/-- A byte string as a number: in base 257, with each byte plus one as a digit, the first byte
the lowest. Different strings give different numbers. -/
def bytesCode : List UInt8 → Nat
  | [] => 0
  | b :: rest => b.toNat + 1 + 257 * bytesCode rest

theorem bytesCode_injective : ∀ {l₁ l₂ : List UInt8}, bytesCode l₁ = bytesCode l₂ → l₁ = l₂
  | [], [], _ => rfl
  | [], b :: l, h => by simp only [bytesCode] at h; omega
  | b :: l, [], h => by simp only [bytesCode] at h; omega
  | b₁ :: l₁, b₂ :: l₂, h => by
    simp only [bytesCode] at h
    -- both first digits are below 257, so they and the rest agree
    have hb₁ := UInt8.toNat_lt_size b₁
    have hb₂ := UInt8.toNat_lt_size b₂
    have hdigit : b₁.toNat = b₂.toNat := by simp only [UInt8.size] at hb₁ hb₂; omega
    have hrest : bytesCode l₁ = bytesCode l₂ := by omega
    rw [UInt8.toNat_inj.mp hdigit, bytesCode_injective hrest]

theorem bytesCode_lt : ∀ {l : List UInt8} {n : Nat}, l.length ≤ n → bytesCode l < Nat.pow 257 n
  | [], n, _ => Nat.pow_pos (by decide)
  | _ :: _, 0, h => absurd h (by simp)
  | b :: l, n + 1, h => by
    have ih := bytesCode_lt (Nat.le_of_succ_le_succ h)
    have hb := UInt8.toNat_lt_size b
    show b.toNat + 1 + 257 * bytesCode l < Nat.pow 257 n * 257
    simp only [UInt8.size] at hb
    omega

/-- Whether an answer to a lookup is a file. -/
def namesFile : Except SystemError Node → Bool
  | .ok (.file _) => true
  | _ => false

/-- A file system: what a path names, and a bound on how many paths with pairwise different
components can name files. -/
structure FileSystem where
  lookup : Path → Except SystemError Node
  capacity : Nat
  files_le_capacity : ∀ ps : List Path, (ps.map Path.components).Nodup →
    (∀ p ∈ ps, namesFile (lookup p) = true) → ps.length ≤ capacity

namespace FileSystem

/-- Whether a path names a file. -/
def isFile (fs : FileSystem) (p : Path) : Bool := namesFile (fs.lookup p)

/-- The text of the file a path names. -/
def read (fs : FileSystem) (p : Path) : Except SystemError String :=
  match fs.lookup p with
  | .ok (.file (some text)) => .ok text
  | .ok (.file none) => .error .notText
  | .ok .directory => .error .isDirectory
  | .error e => .error e

/-- The file system as the source of a build: reading a file that fails says which file. -/
def source (fs : FileSystem) : FileSource :=
  ⟨fs.isFile, fun p => match fs.read p with
    | .ok text => .ok text
    | .error e => .error ("Failed to read " ++ p.text ++ ": " ++ e.message), fs.capacity,
    fs.files_le_capacity⟩

end FileSystem

/-- A tree of directories and files: each entry's names from the root, and what it is. The
root is a directory and need not be listed. -/
structure Tree where
  entries : List (List String × Node)

namespace Tree

/-- The tree with the root only. -/
def empty : Tree := ⟨[]⟩

/-- What the names from the root lead to. -/
def get? (t : Tree) (names : List String) : Option Node :=
  if names.isEmpty then some .directory else (t.entries.find? (·.1 == names)).map (·.2)

/-- Sets what `names` lead to, replacing what was there. -/
def set (t : Tree) (names : List String) (n : Node) : Tree :=
  ⟨t.entries.filter (·.1 != names) ++ [(names, n)]⟩

/-- Makes the directories leading to `names`, those that are missing, from the root down. -/
def makeParents (t : Tree) (names : List String) : Tree :=
  (List.range names.length).foldl (fun t k =>
    let front := names.take k
    if (t.get? front).isSome then t else t.set front .directory) t

/-- Adds a directory, with its parents. -/
def addDirectory (t : Tree) (names : List String) : Tree :=
  (t.makeParents names).set names .directory

/-- Adds a file, with its parents. -/
def addFile (t : Tree) (names : List String) (text : Option String) : Tree :=
  (t.makeParents names).set names (.file text)

/-- Walks the segments of a path from the directory at `here`. -/
def walk (t : Tree) (here : List String) : List String → Except SystemError Node
  | [] => .ok (t.get? here |>.getD .directory)
  | seg :: rest =>
    if seg == "" || seg == "." then t.walk here rest
    else if seg == ".." then t.walk here.dropLast rest
    else if seg.utf8ByteSize > segmentLimit then .error .nameTooLong
    else
      let next := here ++ [seg]
      match t.get? next with
      | none => .error .notFound
      | some .directory => t.walk next rest
      | some (.file text) => if rest.isEmpty then .ok (.file text) else .error .notDirectory

/-- What a path names, a relative one taken from the directory `cwd` (names from the
root). -/
def lookup (t : Tree) (cwd : List String) (p : Path) : Except SystemError Node :=
  if p.text.isEmpty then .error .notFound
  else if p.text.utf8ByteSize > pathLimit then .error .nameTooLong
  else t.walk (if p.isAbsolute then [] else cwd) p.segments

/-- A path that names a file is at most `pathLimit` bytes long. -/
theorem utf8ByteSize_le_of_lookup {t : Tree} {cwd : List String} {p : Path}
    (h : namesFile (t.lookup cwd p) = true) : p.text.utf8ByteSize ≤ pathLimit := by
  unfold lookup at h
  split at h
  · simp [namesFile] at h
  · split at h
    · simp [namesFile] at h
    · omega

/-- Paths with pairwise different components that name files are at most `257 ^ pathLimit`:
each is its own string of at most `pathLimit` bytes, and `bytesCode` tells those apart below
that bound. -/
theorem files_le_pow (t : Tree) (cwd : List String) (ps : List Path)
    (hps : (ps.map Path.components).Nodup) (hfile : ∀ p ∈ ps, namesFile (t.lookup cwd p) = true) :
    ps.length ≤ Nat.pow 257 pathLimit := by
  let code := fun p : Path => bytesCode p.text.toByteArray.data.toList
  -- a path is its text, and a text its bytes
  have hinj : ∀ p q : Path, code p = code q → p = q := by
    intro p q hcode
    have hbytes := Array.toList_inj.mp (bytesCode_injective hcode)
    exact congrArg Path.mk (String.toByteArray_inj.mp (ByteArray.ext hbytes))
  have hcodes : (ps.map code).Nodup :=
    List.pairwise_map.mpr ((List.pairwise_map.mp hps).imp fun hne hcode =>
      hne (congrArg Path.components (hinj _ _ hcode)))
  have hsub : ps.map code ⊆ List.range (Nat.pow 257 pathLimit) := by
    intro n hn
    obtain ⟨p, hp, rfl⟩ := List.mem_map.mp hn
    have hlen : p.text.toByteArray.data.toList.length ≤ pathLimit := by
      rw [Array.length_toList]
      show p.text.toByteArray.size ≤ pathLimit
      rw [String.size_toByteArray]
      exact utf8ByteSize_le_of_lookup (hfile p hp)
    exact List.mem_range.mpr (bytesCode_lt hlen)
  simpa using hcodes.length_le_of_subset hsub

/-- The tree as a file system whose relative paths are taken from `cwd`. No path of more
than `pathLimit` bytes names a file, so the paths that can name files are fewer than
`257 ^ pathLimit`. -/
def fileSystem (t : Tree) (cwd : List String) : FileSystem :=
  ⟨t.lookup cwd, Nat.pow 257 pathLimit, t.files_le_pow cwd⟩

end Tree

/-- What is known of a file system: some paths, each with what it names or why looking it
up failed. -/
structure Answers where
  known : List (String × Except SystemError Node)

namespace Answers

/-- Whether a path's answer is known. -/
def knows (a : Answers) (p : Path) : Bool := (a.known.lookup p.text).isSome

/-- Paths with pairwise different components whose known answers are files are no more than the
known files: the text of each is the path of one of them. -/
theorem files_le_known (a : Answers) (ps : List Path) (hps : (ps.map Path.components).Nodup)
    (hfile : ∀ p ∈ ps, namesFile ((a.known.lookup p.text).getD (.error .notFound)) = true) :
    ps.length ≤ (a.known.filter (namesFile ·.2)).length := by
  have htexts : (ps.map Path.text).Nodup :=
    List.pairwise_map.mpr ((List.pairwise_map.mp hps).imp fun hne htext =>
      hne (congrArg Path.components (congrArg Path.mk htext)))
  have hsub : ps.map Path.text ⊆ (a.known.filter (namesFile ·.2)).map (·.1) := by
    intro k hk
    obtain ⟨p, hp, rfl⟩ := List.mem_map.mp hk
    have hnames := hfile p hp
    cases hlook : a.known.lookup p.text with
    | none => simp [hlook, namesFile] at hnames
    | some answer =>
      rw [hlook, Option.getD_some] at hnames
      obtain ⟨l₁, l₂, hsplit, -⟩ := List.lookup_eq_some_iff.mp hlook
      refine List.mem_map.mpr ⟨(p.text, answer), List.mem_filter.mpr ⟨?_, hnames⟩, rfl⟩
      simp [hsplit]
  simpa using htexts.length_le_of_subset hsub

/-- The known answers as a file system; a path not known names nothing. Only known paths
name files, so there are at most as many of them as known files. -/
def fileSystem (a : Answers) : FileSystem :=
  ⟨fun p => (a.known.lookup p.text).getD (.error .notFound),
    (a.known.filter (namesFile ·.2)).length, a.files_le_known⟩

end Answers

end ModuleGraph.CommandLine
