/-!
# Paths and their components

A path is kept as the text it was written with, because answers show a path as stored.
Two paths name the same file when their components agree. Empty segments, a `.` segment
anywhere but at the very start of a relative path, and a trailing separator do not count;
a `..` segment does, literally.

The operations here are the lexical ones: `parent`, `join` and `normalize`. None of them
looks at a file system.
-/

namespace ModuleGraph

/-- One component of a path. -/
inductive Component where
  /-- The leading separator of an absolute path. -/
  | root
  /-- A leading `.` of a relative path. -/
  | current
  /-- A `..` segment. -/
  | up
  /-- Any other non-empty segment. -/
  | normal (name : String)
  deriving DecidableEq, Repr, Inhabited

namespace Component

/-- The text a component is written with. -/
def text : Component → String
  | root => "/"
  | current => "."
  | up => ".."
  | normal name => name

/-- The component that a segment between two separators stands for: empty and `.`
segments stand for none. -/
def ofSegment (s : String) : Option Component :=
  if s = "" ∨ s = "." then none else if s = ".." then some up else some (normal s)

end Component

/-- A path, kept as written. -/
structure Path where
  text : String
  deriving DecidableEq, Inhabited, Repr

namespace Path

instance : Coe String Path := ⟨Path.mk⟩

/-- The empty path. -/
def empty : Path := ⟨""⟩

/-- Splits text at every separator. The pieces, put back together with separators between
them, give the text again, so there is always at least one piece. -/
def splitSegments : List Char → List (List Char)
  | [] => [[]]
  | c :: cs =>
    if c = '/' then [] :: splitSegments cs
    else match splitSegments cs with
      | seg :: rest => (c :: seg) :: rest
      | [] => [[c]]

/-- The segments of a path's text, split at every separator. -/
def segments (p : Path) : List String := (splitSegments p.text.toList).map String.ofList

/-- Components of a path given by its segments: a leading empty segment followed by more
marks the root, and a leading `.` of a relative path is kept as `current`. -/
def componentsOfSegments : List String → List Component
  | [""] => []
  | "" :: rest => .root :: rest.filterMap Component.ofSegment
  | "." :: rest => .current :: rest.filterMap Component.ofSegment
  | segs => segs.filterMap Component.ofSegment

/-- The components of a path, in order. -/
def components (p : Path) : List Component := componentsOfSegments p.segments

/-- Two paths name the same file when their components agree. -/
def same (p q : Path) : Bool := p.components == q.components

theorem same_iff {p q : Path} : p.same q = true ↔ p.components = q.components := by
  simp [same]

@[simp] theorem same_refl (p : Path) : p.same p = true := same_iff.mpr rfl

theorem same_symm {p q : Path} (h : p.same q = true) : q.same p = true :=
  same_iff.mpr (same_iff.mp h).symm

theorem same_trans {p q r : Path} (h₁ : p.same q = true) (h₂ : q.same r = true) :
    p.same r = true :=
  same_iff.mpr ((same_iff.mp h₁).trans (same_iff.mp h₂))

theorem same_comm (p q : Path) : p.same q = q.same p := by
  cases h : p.same q
  · cases h' : q.same p
    · rfl
    · rw [same_symm h'] at h
      exact h.symm
  · exact (same_symm h).symm

/-- A path is absolute when its text starts at the root. -/
def isAbsolute (p : Path) : Bool := p.text.startsWith "/"

/-- How a path's text begins: at the root, at a leading `.`, or directly with its body. -/
inductive Lead where
  | root
  | current
  | bare
  deriving DecidableEq, Repr

/-- Writes a lead back in front of the body segments. -/
def Lead.attach : Lead → List String → String
  | .root, body => "/" ++ "/".intercalate body
  | .current, [] => "."
  | .current, body => "./" ++ "/".intercalate body
  | .bare, body => "/".intercalate body

/-- A path's text taken apart into its lead and the segments after it. -/
def split (p : Path) : Lead × List String :=
  match p.segments with
  | "" :: s :: rest => (.root, s :: rest)
  | "." :: rest => (.current, rest)
  | segs => (.bare, segs)

/-- Whether a segment names no component: empty, or a `.` past the start. -/
def Segment.isFiller (s : String) : Bool := s == "" || s == "."

/-- Drops the trailing segments that name no component. -/
def trimTrailing (segs : List String) : List String :=
  (segs.reverse.dropWhile Segment.isFiller).reverse

/-- The path without its last component, with the separators and `.` segments that would
then trail removed. A path whose only component is the root, and the empty path, have no
parent; a lone `.` has the empty path as parent. -/
def parent (p : Path) : Option Path :=
  let (lead, body) := p.split
  match (trimTrailing body).reverse with
  | _ :: rest => some ⟨lead.attach (trimTrailing rest.reverse)⟩
  | [] =>
    match lead with
    | .current => some empty
    | _ => none

/-- Appends `q` to `p`: an absolute `q` replaces `p`; otherwise a separator goes between
them unless `p` is empty or already ends with one. -/
def join (p q : Path) : Path :=
  if q.text.startsWith "/" then q
  else if p.text = "" ∨ p.text.endsWith "/" then ⟨p.text ++ q.text⟩
  else ⟨p.text ++ "/" ++ q.text⟩

/-- Writes components as a path: the root, then the other components with one separator
between each two. -/
def ofComponents : List Component → Path
  | .root :: rest => ⟨"/" ++ "/".intercalate (rest.map Component.text)⟩
  | cs => ⟨"/".intercalate (cs.map Component.text)⟩

/-- One step of lexical normalization, on the components kept so far, the last one first.
A `.` is dropped; a `..` removes a preceding normal component, is dropped right after the
root, and is otherwise kept. -/
def normalizeStep (kept : List Component) : Component → List Component
  | .current => kept
  | .up =>
    match kept with
    | .normal _ :: rest => rest
    | .root :: rest => .root :: rest
    | _ => .up :: kept
  | c => c :: kept

/-- Lexical normalization: `.` components are dropped and each `..` cancels the normal
component before it. The result is written with single separators and no trailing one. -/
def normalize (p : Path) : Path :=
  ofComponents (p.components.foldl normalizeStep []).reverse

end Path

end ModuleGraph
