import ModuleGraph.Proofs.PathComponents

/-!
# The normal form of lexical normalization

`Path.normalize` folds a path's components onto a stack: a `.` is dropped, a `..` pops the name
on top, is dropped right after the root, and is pushed otherwise. This module says what the
stack holds. Read from the bottom, it is always an anchor (the root, or a run of `..`)
followed by names (`Path.Anchor.withNames`), and the anchor is the root exactly when the path is
absolute (`foldl_normalizeStep_components`).

Components of that shape are written with single separators and no trailing one, read back from
their text as themselves, and pass through the fold unchanged. So the main statement,
`normalize_canonical`: the normalized path has no `.` component, its `..` components lead it and
only on a relative path, it is absolute exactly when the path is, it is written with single
separators and no trailing one, it reads only the path's components, and normalizing it again
changes nothing.
-/

namespace ModuleGraph

namespace Component

/-- A component that a path's text can hold between two separators: its text is a segment
without separators that names it again. These are `..` and the names; neither the root nor a
leading `.` is one. -/
def Fits (c : Component) : Prop :=
  ofSegment c.text = some c ∧ '/' ∉ c.text.toList

theorem fits_up : up.Fits := by
  simp [Fits, ofSegment, text]

/-- A segment without separators names a component that fits between separators. -/
theorem fits_of_ofSegment {s : String} {c : Component} (h : ofSegment s = some c)
    (hs : '/' ∉ s.toList) : c.Fits := by
  unfold ofSegment at h
  split_ifs at h with hfill hup
  · cases h
    exact fits_up
  · cases h
    exact ⟨by simp [ofSegment, text, hfill, hup], hs⟩

/-- The text of a fitting component is no filler: neither empty nor `.`. -/
theorem Fits.text_ne {c : Component} (h : c.Fits) : c.text ≠ "" ∧ c.text ≠ "." := by
  constructor <;> intro he <;> simp [Fits, he] at h

theorem Fits.ne_root {c : Component} (h : c.Fits) : c ≠ root := by
  rintro rfl
  simp [Fits, ofSegment, text] at h

end Component

namespace Path

/-! ## Normal forms -/

/-- Where components in normal form start: at the root, or `levels` directories above the one a
relative path starts from. -/
inductive Anchor where
  | root
  | above (levels : Nat)
  deriving DecidableEq

namespace Anchor

/-- The components an anchor stands for: the root, or a run of `..`. -/
def components : Anchor → List Component
  | root => [.root]
  | above levels => List.replicate levels .up

/-- Components in normal form: an anchor, then names. -/
def withNames (a : Anchor) (names : List String) : List Component :=
  a.components ++ names.map .normal

@[simp] theorem components_reverse (a : Anchor) : a.components.reverse = a.components := by
  cases a <;> simp [components]

theorem root_withNames (names : List String) :
    root.withNames names = .root :: names.map .normal := rfl

theorem above_withNames (levels : Nat) (names : List String) :
    (above levels).withNames names = List.replicate levels .up ++ names.map .normal := rfl

end Anchor

/-- Names that fit between separators. -/
def Names (names : List String) : Prop := ∀ n ∈ names, (Component.normal n).Fits

/-! ## The fold -/

/-- A `..` on a stack of `..` only joins them. -/
theorem normalizeStep_replicate_up (levels : Nat) :
    normalizeStep (List.replicate levels .up) .up = List.replicate (levels + 1) .up := by
  cases levels <;> rfl

/-- One step of the fold keeps a stack in normal form: a `..` pops the last name, or with no
name left is dropped after the root and lengthens the run of `..` otherwise; a name is pushed;
a `.` is dropped. The anchor stays the root, or stays a run of `..`. -/
theorem normalizeStep_withNames {a : Anchor} {names : List String} (hn : Names names)
    {c : Component} (hc : c.Fits ∨ c = .current) :
    ∃ (a' : Anchor) (names' : List String), (a' = .root ↔ a = .root) ∧ Names names' ∧
      normalizeStep (a.withNames names).reverse c = (a'.withNames names').reverse := by
  cases c with
  | root => simpa using hc.elim Component.Fits.ne_root (by simp)
  | current => exact ⟨a, names, Iff.rfl, hn, rfl⟩
  | normal n =>
    have hfit : (Component.normal n).Fits := hc.resolve_right (by simp)
    refine ⟨a, names ++ [n], Iff.rfl, ?_, ?_⟩
    · intro m hm
      rcases List.mem_append.mp hm with hm | hm
      · exact hn m hm
      · rwa [List.mem_singleton.mp hm]
    · simp [Anchor.withNames, normalizeStep]
  | up =>
    rcases List.eq_nil_or_concat names with rfl | ⟨init, last, rfl⟩
    · -- no name to pop: the `..` meets the anchor
      cases a with
      | root => exact ⟨.root, [], Iff.rfl, by simp [Names], rfl⟩
      | above levels =>
        refine ⟨.above (levels + 1), [], by simp, by simp [Names], ?_⟩
        simp [Anchor.withNames, Anchor.components, normalizeStep_replicate_up]
    · refine ⟨a, init, Iff.rfl, fun m hm => hn m (by simp [hm]), ?_⟩
      simp [Anchor.withNames, normalizeStep]

/-- The fold over components that fit between separators, or are `.`, keeps a stack in normal
form, with the anchor it started with still the root or still a run of `..`. -/
theorem foldl_normalizeStep_withNames (cs : List Component) (hcs : ∀ c ∈ cs, c.Fits ∨ c = .current)
    {a : Anchor} {names : List String} (hn : Names names) :
    ∃ (a' : Anchor) (names' : List String), (a' = .root ↔ a = .root) ∧ Names names' ∧
      cs.foldl normalizeStep (a.withNames names).reverse = (a'.withNames names').reverse := by
  induction cs generalizing a names with
  | nil => exact ⟨a, names, Iff.rfl, hn, rfl⟩
  | cons c cs ih =>
    obtain ⟨a₁, names₁, ha₁, hn₁, hstep⟩ := normalizeStep_withNames hn (hcs c (by simp))
    obtain ⟨a₂, names₂, ha₂, hn₂, hfold⟩ := ih (fun c hc => hcs c (by simp [hc])) hn₁
    exact ⟨a₂, names₂, ha₂.trans ha₁, hn₂, by rw [List.foldl_cons, hstep, hfold]⟩

/-- A stack in normal form is a fixed point of the fold: reading its own components from the
bottom rebuilds it. -/
theorem foldl_normalizeStep_of_withNames (a : Anchor) (names : List String) :
    (a.withNames names).foldl normalizeStep [] = (a.withNames names).reverse := by
  -- the anchor rebuilds itself, then every name is pushed
  have hanchor : a.components.foldl normalizeStep [] = a.components := by
    cases a with
    | root => rfl
    | above levels =>
      induction levels with
      | zero => rfl
      | succ k ih =>
        simp only [Anchor.components] at ih ⊢
        rw [List.replicate_succ', List.foldl_append, ih, List.foldl_cons, List.foldl_nil,
          normalizeStep_replicate_up, List.replicate_succ']
  have hpush : ∀ (kept : List Component) (ns : List String),
      (ns.map Component.normal).foldl normalizeStep kept = (ns.map .normal).reverse ++ kept := by
    intro kept ns
    induction ns generalizing kept with
    | nil => rfl
    | cons n ns ih => simp [normalizeStep, ih]
  rw [Anchor.withNames, List.foldl_append, hanchor, hpush, List.reverse_append,
    Anchor.components_reverse]

/-! ## Reading and writing normal forms -/

/-- The components a path's segments name fit between separators. -/
theorem fits_of_mem_filterMap {segs : List String} (hs : ∀ s ∈ segs, '/' ∉ s.toList)
    {c : Component} (hc : c ∈ segs.filterMap Component.ofSegment) : c.Fits := by
  obtain ⟨s, hmem, hsc⟩ := List.mem_filterMap.mp hc
  exact Component.fits_of_ofSegment hsc (hs s hmem)

/-- Components that fit between separators, written as segments, are read back as themselves. -/
theorem filterMap_ofSegment_text {cs : List Component} (h : ∀ c ∈ cs, c.Fits) :
    (cs.map Component.text).filterMap Component.ofSegment = cs := by
  induction cs with
  | nil => rfl
  | cons c cs ih =>
    rw [List.map_cons, List.filterMap_cons, (h c (by simp)).1,
      ih fun d hd => h d (by simp [hd])]

theorem fits_of_mem_withNames {a : Anchor} {names : List String} (hn : Names names)
    {c : Component} (hc : c ∈ a.withNames names) (hroot : c ≠ .root) : c.Fits := by
  rcases List.mem_append.mp hc with hc | hc
  · cases a with
    | root => exact absurd (List.mem_singleton.mp hc) hroot
    | above levels =>
      rw [List.eq_of_mem_replicate hc]
      exact Component.fits_up
  · obtain ⟨n, hmem, rfl⟩ := List.mem_map.mp hc
    exact hn n hmem

/-- A relative normal form holds only components that fit between separators. -/
theorem fits_of_mem_above {levels : Nat} {names : List String} (hn : Names names) {c : Component}
    (hc : c ∈ (Anchor.above levels).withNames names) : c.Fits :=
  fits_of_mem_withNames hn hc (by
    rintro rfl
    simp [Anchor.above_withNames, List.mem_replicate] at hc)

@[simp] theorem map_text_map_normal (names : List String) :
    (names.map Component.normal).map Component.text = names := by
  simp [Function.comp_def]

/-- A relative normal form is written as its components' texts with separators between them. -/
theorem ofComponents_above (levels : Nat) {names : List String} (hn : Names names) :
    ofComponents ((Anchor.above levels).withNames names) =
      ⟨"/".intercalate (((Anchor.above levels).withNames names).map Component.text)⟩ := by
  unfold ofComponents
  split
  · rename_i rest heq
    exact absurd (fits_of_mem_above hn (by rw [heq]; exact List.mem_cons_self ..)) (·.ne_root rfl)
  · rfl

/-- A path's text starts at the root exactly when its lead is the root. -/
theorem isAbsolute_iff_split (p : Path) : p.isAbsolute = true ↔ p.split.1 = .root := by
  have hstarts : p.isAbsolute = true ↔ ∃ t, p.text.toList = '/' :: t := by
    rw [isAbsolute, ← String.startsWith_toSlice, String.Slice.startsWith_string_iff,
      String.copy_toSlice, toList_separator]
    exact ⟨fun ⟨t, ht⟩ => ⟨t, ht.symm⟩, fun ⟨t, ht⟩ => ⟨t, ht.symm⟩⟩
  have hlead : p.split.1 = .root ↔ ∃ s rest, p.segments = "" :: s :: rest := by
    unfold split
    split <;> simp_all
  rw [hstarts, hlead, segments]
  constructor
  · rintro ⟨t, ht⟩
    obtain ⟨seg, rest, hsplit⟩ := List.exists_cons_of_ne_nil (splitSegments_ne_nil t)
    exact ⟨String.ofList seg, rest.map String.ofList, by simp [ht, splitSegments, hsplit]⟩
  · rintro ⟨s, rest, hsegs⟩
    -- the first segment is empty and not the only one: the text opens with a separator
    cases ht : p.text.toList with
    | nil => simp [ht, splitSegments] at hsegs
    | cons c cs =>
      obtain ⟨seg, more, hsplit⟩ := List.exists_cons_of_ne_nil (splitSegments_ne_nil cs)
      by_cases hc : c = '/'
      · exact ⟨cs, by rw [hc]⟩
      · simp [ht, splitSegments, hc, hsplit] at hsegs

/-- A path is absolute exactly when its first component is the root. -/
theorem isAbsolute_iff_head (p : Path) : p.isAbsolute = true ↔ p.components.head? = some .root := by
  obtain ⟨hslash, -⟩ := split_body p
  rw [isAbsolute_iff_split, components_eq_split]
  have hbody : ∀ c ∈ (p.split.2.filterMap Component.ofSegment).head?, c ≠ .root :=
    fun c hc => (fits_of_mem_filterMap hslash (List.mem_of_mem_head? hc)).ne_root
  cases hlead : p.split.1 with
  | root => simp [Lead.components]
  | current => simp [Lead.components]
  | bare =>
    simp only [Lead.components, List.nil_append, reduceCtorEq, false_iff]
    exact fun h => hbody _ h rfl

/-- Components in normal form, written out, read back as themselves. -/
theorem components_ofComponents_withNames (a : Anchor) {names : List String} (hn : Names names) :
    (ofComponents (a.withNames names)).components = a.withNames names := by
  cases a with
  | root =>
    rw [Anchor.root_withNames, ofComponents, components_slash, map_text_map_normal]
    by_cases hne : names = []
    · simp [hne]
    · have hs : ∀ s ∈ names, '/' ∉ s.toList := fun s hs => (hn s hs).2
      have hfits : ∀ c ∈ names.map Component.normal, c.Fits := by
        intro c hc
        obtain ⟨n, hmem, rfl⟩ := List.mem_map.mp hc
        exact hn n hmem
      have hread := filterMap_ofSegment_text hfits
      rw [map_text_map_normal] at hread
      rw [segments_intercalate hne hs, hread]
  | above levels =>
    -- no root to write: the text is the components' texts between separators
    have hfit : ∀ c ∈ (Anchor.above levels).withNames names, c.Fits := fun _ => fits_of_mem_above hn
    rw [ofComponents_above levels hn]
    generalize (Anchor.above levels).withNames names = cs at hfit ⊢
    cases cs with
    | nil => rfl
    | cons c rest =>
      have hs : ∀ s ∈ (c :: rest).map Component.text, '/' ∉ s.toList := by
        intro s hs
        obtain ⟨d, hd, rfl⟩ := List.mem_map.mp hs
        exact (hfit d hd).2
      have hhead := (hfit c (by simp)).text_ne
      rw [components, segments_intercalate (by simp) hs, List.map_cons,
        componentsOfSegments_of_head _ hhead.1 hhead.2, ← List.map_cons,
        filterMap_ofSegment_text hfit]

/-- **The fold leaves a normal form.** Folding a path's components from the empty stack leaves,
read from the bottom, an anchor and names; the anchor is the root exactly when the path is
absolute. -/
theorem foldl_normalizeStep_components (p : Path) :
    ∃ (a : Anchor) (names : List String), (a = .root ↔ p.isAbsolute = true) ∧ Names names ∧
      (p.components.foldl normalizeStep []).reverse = a.withNames names := by
  obtain ⟨hslash, -⟩ := split_body p
  have hbody : ∀ c ∈ p.split.2.filterMap Component.ofSegment, c.Fits ∨ c = .current :=
    fun c hc => .inl (fits_of_mem_filterMap hslash hc)
  -- the lead leaves the root or nothing: a leading `.` is dropped like any other
  obtain ⟨a₀, ha₀, hlead⟩ : ∃ a₀ : Anchor, (a₀ = .root ↔ p.split.1 = .root) ∧
      p.split.1.components.foldl normalizeStep [] = (a₀.withNames []).reverse := by
    cases p.split.1 with
    | root => exact ⟨.root, by simp, rfl⟩
    | current => exact ⟨.above 0, by simp, rfl⟩
    | bare => exact ⟨.above 0, by simp, rfl⟩
  obtain ⟨a, names, ha, hn, hfold⟩ :=
    @foldl_normalizeStep_withNames _ hbody a₀ [] (by simp [Names])
  refine ⟨a, names, ?_, hn, ?_⟩
  · rw [ha, ha₀, isAbsolute_iff_split]
  · rw [components_eq_split, List.foldl_append, hlead, hfold, List.reverse_reverse]

/-! ## Separators -/

/-- A separator followed by another one, or by nothing, leaves an empty segment that is not the
first. -/
theorem nil_mem_tail_splitSegments (xs ys : List Char) (hys : ys = [] ∨ ys.head? = some '/') :
    [] ∈ (splitSegments (xs ++ '/' :: ys)).tail := by
  rw [splitSegments_append_slash, List.tail_append_of_ne_nil (splitSegments_ne_nil xs)]
  apply List.mem_append_right
  rcases hys with rfl | hys
  · simp [splitSegments]
  · obtain ⟨t, rfl⟩ := List.head?_eq_some_iff.mp hys
    simp [splitSegments]

/-- A text whose segments past the first are all non-empty has no two separators in a row and
no separator at its end. -/
theorem separators_of_segments {p : Path} (h : "" ∉ p.segments.tail) :
    ¬ ['/', '/'] <:+: p.text.toList ∧ ¬ p.text.endsWith "/" = true := by
  have hnil : ∀ xs ys, p.text.toList = xs ++ '/' :: ys → (ys = [] ∨ ys.head? = some '/') →
      False := fun xs ys hp hys => h (by
    rw [segments, ← List.map_tail, hp]
    exact List.mem_map.mpr ⟨[], nil_mem_tail_splitSegments xs ys hys, rfl⟩)
  constructor
  · rintro ⟨xs, ys, hp⟩
    exact hnil xs ('/' :: ys) (by rw [← hp]; simp) (.inr rfl)
  · intro hend
    obtain ⟨t, ht⟩ := eq_append_slash_of_endsWith hend
    exact hnil t.toList [] (by rw [ht, String.toList_append, toList_separator]) (.inl rfl)

/-- Components in normal form, other than the root alone, are written with segments that are
all non-empty past the first. -/
theorem segments_tail_ofComponents_withNames (a : Anchor) {names : List String} (hn : Names names)
    (hlone : ¬ (a = .root ∧ names = [])) :
    "" ∉ (ofComponents (a.withNames names)).segments.tail := by
  cases a with
  | root =>
    have hnames : names ≠ [] := fun h => hlone ⟨rfl, h⟩
    have hseg := segments_append_slash "" ("/".intercalate names)
    rw [String.empty_append, segments_intercalate hnames fun s hs => (hn s hs).2] at hseg
    rw [Anchor.root_withNames, ofComponents, map_text_map_normal, hseg, segments_empty]
    -- past the root, the segments are the names, and no name is empty
    exact fun h => (hn "" (by simpa using h)).text_ne.1 rfl
  | above levels =>
    have hfit : ∀ c ∈ (Anchor.above levels).withNames names, c.Fits := fun _ => fits_of_mem_above hn
    rw [ofComponents_above levels hn]
    generalize (Anchor.above levels).withNames names = cs at hfit
    cases cs with
    | nil => simp
    | cons c rest =>
      rw [segments_intercalate (by simp) fun s hs => by
        obtain ⟨d, hd, rfl⟩ := List.mem_map.mp hs
        exact (hfit d hd).2]
      intro h
      obtain ⟨d, hd, hempty⟩ := List.mem_map.mp (List.mem_of_mem_tail h)
      exact (hfit d hd).text_ne.1 hempty

/-- Components in normal form are written with single separators and no trailing one; only the
root alone is written `/`. -/
theorem separators_ofComponents_withNames (a : Anchor) {names : List String} (hn : Names names) :
    ¬ ['/', '/'] <:+: (ofComponents (a.withNames names)).text.toList ∧
      ((ofComponents (a.withNames names)).text.endsWith "/" = true →
        (ofComponents (a.withNames names)).text = "/") := by
  by_cases hlone : a = .root ∧ names = []
  · obtain ⟨rfl, rfl⟩ := hlone
    refine ⟨fun h => ?_, fun _ => rfl⟩
    have hlen := h.length_le
    simp [Anchor.root_withNames, ofComponents] at hlen
  · obtain ⟨hdouble, hend⟩ := separators_of_segments (segments_tail_ofComponents_withNames a hn hlone)
    exact ⟨hdouble, fun h => absurd h hend⟩

/-! ## Normalization -/

/-- **Normalization gives a canonical path.** The normalized path has no `.` component. Its `..`
components form a leading run, and there are none when the path is absolute. It is absolute
exactly when the path is, and it is written with single separators and no trailing one, the root
alone being written `/`. It depends only on the path's components, and normalizing it again
changes nothing. -/
theorem normalize_canonical (x : Path) :
    let n := x.normalize
    .current ∉ n.components ∧
      (∃ k rest, n.components = List.replicate k .up ++ rest ∧ .up ∉ rest) ∧
      (x.isAbsolute = true → .up ∉ n.components) ∧
      n.isAbsolute = x.isAbsolute ∧
      ¬ ['/', '/'] <:+: n.text.toList ∧ (n.text.endsWith "/" = true → n.text = "/") ∧
      (∀ y : Path, y.components = x.components → y.normalize = n) ∧
      n.normalize = n := by
  intro n
  obtain ⟨a, names, ha, hn, hfold⟩ := foldl_normalizeStep_components x
  have hnorm : n = ofComponents (a.withNames names) := by
    rw [← hfold]
    rfl
  have hcomps : n.components = a.withNames names := by
    rw [hnorm, components_ofComponents_withNames a hn]
  obtain ⟨hdouble, hend⟩ := separators_ofComponents_withNames a hn
  refine ⟨?_, ?_, ?_, ?_, hnorm ▸ hdouble, hnorm ▸ hend, fun y hy => normalize_congr hy, ?_⟩
  · rw [hcomps]
    cases a <;> simp [Anchor.withNames, Anchor.components, List.mem_replicate]
  · cases a with
    | root => exact ⟨0, _, hcomps, by simp⟩
    | above levels => exact ⟨levels, names.map .normal, hcomps, by simp⟩
  · intro habs
    rw [hcomps, ha.mpr habs]
    simp [Anchor.root_withNames]
  · rw [Bool.eq_iff_iff, isAbsolute_iff_head, hcomps, ← ha]
    cases a with
    | root => simp [Anchor.root_withNames]
    | above levels =>
      -- a relative normal form starts with `..`, a name, or nothing
      rcases levels with _ | k <;> rcases names with _ | ⟨m, ms⟩ <;>
        simp [Anchor.above_withNames, List.replicate_succ]
  · -- the fold rebuilds a normal form, so normalizing writes the same components again
    rw [normalize, hcomps, foldl_normalizeStep_of_withNames, List.reverse_reverse, ← hnorm]

end Path

end ModuleGraph
