import ModuleGraph.Path.Basic
import Mathlib.Data.List.TakeWhile
import Mathlib.Tactic.SplitIfs

/-!
# Components under the lexical path operations

A path is kept as written, but the build compares paths by their components. This module
says what the lexical operations do to components: the parent of a path is the path less its
last component (`components_parent_getD`), appending a relative path adds the components its
segments name (`components_join`), and normalization reads the components only
(`normalize_congr`). So each operation sends paths with the same components to paths with the
same components, whatever their spelling.

The facts about text come first: how text splits into segments at separators, and how a
path's lead (root, leading `.`, or none) and the segments after it give its components.
-/

namespace ModuleGraph

namespace Component

@[simp] theorem text_normal (name : String) : (normal name).text = name := rfl

@[simp] theorem ofSegment_empty : ofSegment "" = none := by simp [ofSegment]

@[simp] theorem ofSegment_dot : ofSegment "." = none := by simp [ofSegment]

/-- A segment names no component exactly when it is a filler. -/
theorem ofSegment_eq_none_iff (s : String) :
    ofSegment s = none ↔ Path.Segment.isFiller s = true := by
  unfold ofSegment Path.Segment.isFiller
  split_ifs <;> simp_all

end Component

namespace Path

/-! ## Segments -/

theorem splitSegments_ne_nil (cs : List Char) : splitSegments cs ≠ [] := by
  cases cs with
  | nil => simp [splitSegments]
  | cons c cs =>
    simp only [splitSegments]
    split
    · simp
    · split <;> simp

theorem splitSegments_of_not_mem {cs : List Char} (h : '/' ∉ cs) : splitSegments cs = [cs] := by
  induction cs with
  | nil => rfl
  | cons c cs ih =>
    simp only [List.mem_cons, not_or] at h
    simp [splitSegments, Ne.symm h.1, ih h.2]

/-- Text cut at a separator splits into the segments of the part before it and of the part
after it. -/
theorem splitSegments_append_slash (xs ys : List Char) :
    splitSegments (xs ++ '/' :: ys) = splitSegments xs ++ splitSegments ys := by
  induction xs with
  | nil => simp [splitSegments]
  | cons c cs ih =>
    by_cases hc : c = '/'
    · simp [splitSegments, hc, ih]
    · obtain ⟨seg, rest, hsplit⟩ := List.exists_cons_of_ne_nil (splitSegments_ne_nil cs)
      simp [splitSegments, hc, ih, hsplit]

/-- Text ending with a run free of separators has that run at the end of its last segment. -/
theorem splitSegments_append_of_not_mem (xs : List Char) {ys : List Char} (h : '/' ∉ ys) :
    ∃ segs seg, splitSegments (xs ++ ys) = segs ++ [seg ++ ys] := by
  induction xs with
  | nil => exact ⟨[], [], by simp [splitSegments_of_not_mem h]⟩
  | cons c cs ih =>
    obtain ⟨segs, seg, hsplit⟩ := ih
    by_cases hc : c = '/'
    · exact ⟨[] :: segs, seg, by simp [splitSegments, hc, hsplit]⟩
    · cases segs with
      | nil => exact ⟨[], c :: seg, by simp [splitSegments, hc, hsplit]⟩
      | cons s segs => exact ⟨(c :: s) :: segs, seg, by simp [splitSegments, hc, hsplit]⟩

theorem not_mem_of_mem_splitSegments {cs s : List Char} (h : s ∈ splitSegments cs) : '/' ∉ s := by
  induction cs generalizing s with
  | nil => simp_all [splitSegments]
  | cons c cs ih =>
    by_cases hc : c = '/'
    · simp only [splitSegments, hc, if_true, List.mem_cons] at h
      rcases h with rfl | h
      · simp
      · exact ih h
    · obtain ⟨seg, rest, hsplit⟩ := List.exists_cons_of_ne_nil (splitSegments_ne_nil cs)
      simp only [splitSegments, hc, if_false, hsplit, List.mem_cons] at h
      rcases h with rfl | h
      · have hseg := ih (show seg ∈ splitSegments cs by simp [hsplit])
        simp [Ne.symm hc, hseg]
      · exact ih (by simp [hsplit, h])

/-- Segments without separators, written with separators between them, split back into
themselves. -/
theorem splitSegments_intercalate {body : List (List Char)} (hne : body ≠ [])
    (hs : ∀ s ∈ body, '/' ∉ s) : splitSegments (['/'].intercalate body) = body := by
  induction body with
  | nil => exact absurd rfl hne
  | cons s body ih =>
    cases body with
    | nil => simpa using splitSegments_of_not_mem (hs s (by simp))
    | cons t body =>
      rw [List.intercalate_cons_cons, List.append_assoc, List.singleton_append,
        splitSegments_append_slash, splitSegments_of_not_mem (hs s (by simp)),
        ih (by simp) (fun u hu => hs u (List.mem_cons_of_mem _ hu))]
      rfl

/-- Only the empty text splits into the one empty segment. -/
theorem splitSegments_eq_singleton_nil_iff {cs : List Char} :
    splitSegments cs = [[]] ↔ cs = [] := by
  refine ⟨fun h => ?_, fun h => by subst h; rfl⟩
  cases cs with
  | nil => rfl
  | cons c cs =>
    obtain ⟨seg, rest, hsplit⟩ := List.exists_cons_of_ne_nil (splitSegments_ne_nil cs)
    by_cases hc : c = '/' <;> simp [splitSegments, hc, hsplit] at h

theorem toList_separator : "/".toList = ['/'] := rfl

@[simp] theorem segments_empty : (⟨""⟩ : Path).segments = [""] := rfl

theorem segments_ne_nil (p : Path) : p.segments ≠ [] :=
  List.map_eq_nil_iff.not.mpr (splitSegments_ne_nil _)

theorem segments_eq_singleton_empty_iff {p : Path} : p.segments = [""] ↔ p.text = "" := by
  rw [segments, ← String.toList_eq_nil_iff, ← splitSegments_eq_singleton_nil_iff]
  constructor
  · intro h
    simpa [Function.comp_def] using congrArg (List.map String.toList) h
  · intro h
    rw [h]
    rfl

/-- No segment holds a separator. -/
theorem not_mem_of_mem_segments {p : Path} {s : String} (h : s ∈ p.segments) : '/' ∉ s.toList := by
  obtain ⟨cs, hcs, rfl⟩ := List.mem_map.mp h
  simpa using not_mem_of_mem_splitSegments hcs

theorem segments_append_slash (a t : String) :
    (⟨a ++ "/" ++ t⟩ : Path).segments = (⟨a⟩ : Path).segments ++ (⟨t⟩ : Path).segments := by
  simp only [segments, String.toList_append, toList_separator, List.append_assoc,
    List.singleton_append, splitSegments_append_slash, List.map_append]

theorem segments_intercalate {body : List String} (hne : body ≠ [])
    (hs : ∀ s ∈ body, '/' ∉ s.toList) : (⟨"/".intercalate body⟩ : Path).segments = body := by
  rw [segments, String.toList_intercalate, toList_separator, splitSegments_intercalate
    (by simpa using hne) (by simpa using hs)]
  simp

/-! ## Components from segments -/

/-- The components a path's lead stands for. -/
def Lead.components : Lead → List Component
  | .root => [.root]
  | .current => [.current]
  | .bare => []

theorem componentsOfSegments_of_head {s : String} (rest : List String) (h₁ : s ≠ "")
    (h₂ : s ≠ ".") :
    componentsOfSegments (s :: rest) = (s :: rest).filterMap Component.ofSegment := by
  unfold componentsOfSegments
  split <;> simp_all

/-- Segments after the first ones only add the components they name: the lead is decided by
the first segments. -/
theorem componentsOfSegments_append {segs : List String} (hne : segs ≠ []) (hne' : segs ≠ [""])
    (more : List String) :
    componentsOfSegments (segs ++ more) =
      componentsOfSegments segs ++ more.filterMap Component.ofSegment := by
  obtain ⟨s, rest, rfl⟩ := List.exists_cons_of_ne_nil hne
  by_cases h₁ : s = ""
  · subst h₁
    obtain ⟨t, rest, rfl⟩ : ∃ t rest', rest = t :: rest' :=
      List.exists_cons_of_ne_nil (fun h => hne' (by rw [h]))
    simp only [List.cons_append, componentsOfSegments, List.cons_append, ← List.filterMap_append]
  by_cases h₂ : s = "."
  · subst h₂
    simp [componentsOfSegments]
  rw [List.cons_append, componentsOfSegments_of_head _ h₁ h₂, componentsOfSegments_of_head _ h₁ h₂,
    ← List.cons_append, List.filterMap_append]

/-- A path's components are those of its lead followed by those its other segments name. -/
theorem components_eq_split (p : Path) :
    p.components = p.split.1.components ++ p.split.2.filterMap Component.ofSegment := by
  unfold components split
  generalize p.segments = segs
  match segs with
  | [] => rfl
  | [""] => rfl
  | "" :: s :: rest => simp [componentsOfSegments, Lead.components]
  | "." :: rest => simp [componentsOfSegments, Lead.components]
  | s :: rest =>
    by_cases h₁ : s = ""
    · subst h₁
      cases rest <;> simp [componentsOfSegments, Lead.components]
    by_cases h₂ : s = "."
    · subst h₂
      simp [componentsOfSegments, Lead.components]
    rw [componentsOfSegments_of_head rest h₁ h₂]
    split <;> simp_all [Lead.components]

/-- Writing a lead and segments back as text gives a path with the lead's components and those
the segments name. Without a lead, the first segment must not read as one. -/
theorem components_attach (lead : Lead) (body : List String) (hs : ∀ s ∈ body, '/' ∉ s.toList)
    (hbare : lead = .bare → ∀ s ∈ body.head?, s ≠ "" ∧ s ≠ ".") :
    (⟨lead.attach body⟩ : Path).components =
      lead.components ++ body.filterMap Component.ofSegment := by
  cases body with
  | nil => cases lead <;> rfl
  | cons b bs =>
    have hbody := segments_intercalate (List.cons_ne_nil b bs) hs
    cases lead with
    | root =>
      have hseg := segments_append_slash "" ("/".intercalate (b :: bs))
      rw [String.empty_append, hbody] at hseg
      simp only [components, Lead.attach, hseg]
      rfl
    | current =>
      have hseg := segments_append_slash "." ("/".intercalate (b :: bs))
      rw [hbody] at hseg
      rw [components, Lead.attach, show ("./" : String) = "." ++ "/" from rfl, hseg]
      · rfl
      · exact List.cons_ne_nil b bs
    | bare =>
      obtain ⟨h₁, h₂⟩ := hbare rfl b rfl
      simp only [components, Lead.attach, hbody, componentsOfSegments_of_head bs h₁ h₂]
      rfl

/-- A separator after non-empty text: the components of the text, then those the segments
after the separator name. -/
theorem components_append_slash {a : String} (ha : a ≠ "") (t : String) :
    (⟨a ++ "/" ++ t⟩ : Path).components =
      (⟨a⟩ : Path).components ++ (⟨t⟩ : Path).segments.filterMap Component.ofSegment := by
  rw [components, segments_append_slash]
  exact componentsOfSegments_append (segments_ne_nil _)
    (fun h => ha (segments_eq_singleton_empty_iff.mp h)) _

/-- A leading separator: the root, then the components the segments after it name. -/
theorem components_slash (t : String) :
    (⟨"/" ++ t⟩ : Path).components = .root :: (⟨t⟩ : Path).segments.filterMap Component.ofSegment := by
  have hseg := segments_append_slash "" t
  rw [String.empty_append] at hseg
  obtain ⟨s, rest, hst⟩ := List.exists_cons_of_ne_nil (segments_ne_nil ⟨t⟩)
  rw [components, hseg, hst]
  rfl

/-- Only the empty path has no components. -/
theorem components_eq_nil_iff {p : Path} : p.components = [] ↔ p.text = "" := by
  rw [← segments_eq_singleton_empty_iff, components]
  obtain ⟨s, rest, hsegs⟩ := List.exists_cons_of_ne_nil (segments_ne_nil p)
  rw [hsegs]
  by_cases h₁ : s = ""
  · subst h₁
    cases rest <;> simp [componentsOfSegments]
  by_cases h₂ : s = "."
  · subst h₂
    simp [componentsOfSegments]
  have hs : Component.ofSegment s = some (.normal s) ∨ Component.ofSegment s = some .up := by
    unfold Component.ofSegment
    split_ifs <;> simp_all
  rw [componentsOfSegments_of_head _ h₁ h₂]
  rcases hs with hs | hs <;> simp [hs, h₁]

/-- A path whose last segment names a component ends with that component. -/
theorem components_eq_concat {p : Path} {segs : List String} {last : String} {c : Component}
    (h : p.segments = segs ++ [last]) (hc : Component.ofSegment last = some c) :
    ∃ cs, p.components = cs ++ [c] := by
  have hnf : last ≠ "" ∧ last ≠ "." := by
    constructor <;> rintro rfl <;> simp at hc
  rw [components, h]
  by_cases hnil : segs = []
  · subst hnil
    exact ⟨[], by simp [componentsOfSegments_of_head [] hnf.1 hnf.2, hc]⟩
  by_cases hroot : segs = [""]
  · subst hroot
    exact ⟨[.root], by simp [componentsOfSegments, hc]⟩
  exact ⟨componentsOfSegments segs, by simp [componentsOfSegments_append hnil hroot, hc]⟩

/-! ## The parent -/

/-- A path's segments are the trimmed ones followed by the trailing fillers. -/
theorem trimTrailing_append (segs : List String) :
    trimTrailing segs ++ (segs.reverse.takeWhile Segment.isFiller).reverse = segs := by
  rw [trimTrailing, ← List.reverse_append, List.takeWhile_append_dropWhile, List.reverse_reverse]

theorem trimTrailing_isPrefix (segs : List String) : trimTrailing segs <+: segs :=
  ⟨_, trimTrailing_append segs⟩

theorem filterMap_trimTrailing (segs : List String) :
    (trimTrailing segs).filterMap Component.ofSegment = segs.filterMap Component.ofSegment := by
  -- what is trimmed are fillers, which name no component
  have hfill : ∀ s ∈ (segs.reverse.takeWhile Segment.isFiller).reverse,
      Component.ofSegment s = none := fun s hs =>
    (Component.ofSegment_eq_none_iff s).mpr (List.mem_takeWhile_imp (List.mem_reverse.mp hs))
  conv => rhs; rw [← trimTrailing_append segs]
  rw [List.filterMap_append, List.filterMap_eq_nil_iff.mpr hfill, List.append_nil]

/-- The last of the trimmed segments names a component. -/
theorem isFiller_of_trimTrailing_reverse {segs rest : List String} {last : String}
    (h : (trimTrailing segs).reverse = last :: rest) : Segment.isFiller last = false := by
  rw [trimTrailing, List.reverse_reverse] at h
  have hne : segs.reverse.dropWhile Segment.isFiller ≠ [] := by simp [h]
  have := List.head_dropWhile_not Segment.isFiller hne
  simpa [h] using this

/-- What the lead of a path leaves as its body: segments without separators, and, for a path
with neither root nor leading `.`, a first segment that is no `.`, and empty only when it is the
only one. -/
theorem split_body (p : Path) : (∀ s ∈ p.split.2, '/' ∉ s.toList) ∧
    (p.split.1 = .bare → ∀ s ∈ p.split.2.head?, s ≠ "." ∧ (s = "" → p.split.2 = [""])) := by
  have hseg : ∀ s ∈ p.segments, '/' ∉ s.toList := fun s hs => not_mem_of_mem_segments hs
  unfold split
  split
  · rename_i s rest heq
    exact ⟨fun x hx => hseg x (by rw [heq]; exact List.mem_cons_of_mem _ hx), by simp⟩
  · rename_i rest heq
    exact ⟨fun x hx => hseg x (by rw [heq]; exact List.mem_cons_of_mem _ hx), by simp⟩
  · rename_i segs h₁ h₂
    refine ⟨hseg, fun _ s hs => ?_⟩
    obtain ⟨rest, hrest⟩ : ∃ rest, p.segments = s :: rest := List.head?_eq_some_iff.mp hs
    simp only [hrest]
    refine ⟨fun hdot => h₂ rest (hdot ▸ hrest), fun hempty => ?_⟩
    cases rest with
    | nil => rw [hempty]
    | cons t rest => exact (h₁ t rest (hempty ▸ hrest)).elim

/-- **The parent of a path is the path less its last component.** The paths with no parent,
the empty one and the root, count as the empty path here, as the resolver takes them. -/
theorem components_parent_getD (p : Path) :
    (p.parent.getD empty).components = p.components.dropLast := by
  obtain ⟨hslash, hbare⟩ := split_body p
  rw [components_eq_split p]
  unfold parent
  generalize p.split = lb at hslash hbare
  obtain ⟨lead, body⟩ := lb
  simp only at hslash hbare ⊢
  cases htrim : (trimTrailing body).reverse with
  | nil =>
    -- all segments are fillers: the path is its lead alone, and has no parent
    have hnone : body.filterMap Component.ofSegment = [] := by
      rw [← filterMap_trimTrailing, List.reverse_eq_nil_iff.mp htrim, List.filterMap_nil]
    rw [hnone, List.append_nil]
    cases lead <;> rfl
  | cons last rest =>
    obtain ⟨c, hc⟩ : ∃ c, Component.ofSegment last = some c := by
      have := isFiller_of_trimTrailing_reverse htrim
      rw [← Bool.not_eq_true, ← Component.ofSegment_eq_none_iff] at this
      exact Option.ne_none_iff_exists'.mp this
    have htrimmed : trimTrailing body = rest.reverse ++ [last] := by
      rw [← List.reverse_reverse (trimTrailing body), htrim, List.reverse_cons]
    have hbody : body.filterMap Component.ofSegment =
        rest.reverse.filterMap Component.ofSegment ++ [c] := by
      rw [← filterMap_trimTrailing, htrimmed, List.filterMap_append]
      simp [hc]
    -- the parent's segments: the trimmed ones before the last, trimmed again
    have hpre : trimTrailing rest.reverse <+: body :=
      (trimTrailing_isPrefix _).trans
        ((List.prefix_append _ _).trans (htrimmed ▸ trimTrailing_isPrefix body))
    have hattach := components_attach lead (trimTrailing rest.reverse)
      (fun s hs => hslash s (hpre.subset hs)) (fun hl s hs => ?_)
    · rw [Option.getD_some, hattach, filterMap_trimTrailing, hbody, ← List.append_assoc,
        List.dropLast_concat]
    · -- a path with no lead keeps its first segment, which is no filler as it is not alone
      obtain ⟨t, ht⟩ := List.head?_eq_some_iff.mp hs
      obtain ⟨u, hu⟩ := hpre
      obtain ⟨hdot, hempty⟩ := hbare hl s (by simp [← hu, ht])
      refine ⟨fun hs0 => ?_, hdot⟩
      have hfill : trimTrailing [""] = [] := by decide
      have hlast := htrimmed
      rw [hempty hs0, hfill] at hlast
      simp at hlast

/-! ## Joining and normalizing -/

/-- Text that ends with a separator is some text followed by it. -/
theorem eq_append_slash_of_endsWith {t : String} (h : t.endsWith "/" = true) :
    ∃ a, t = a ++ "/" := by
  rw [← String.endsWith_toSlice, String.Slice.endsWith_string_iff, String.copy_toSlice,
    toList_separator] at h
  obtain ⟨u, hu⟩ := h
  exact ⟨String.ofList u, by rw [← String.toList_inj, String.toList_append, String.toList_ofList,
    toList_separator, hu]⟩

theorem join_of_text_empty {x : Path} (hx : x.text = "") (q : Path) : x.join q = q := by
  unfold join
  split_ifs with _ h
  · rfl
  · rw [hx, String.empty_append]
  · exact absurd (Or.inl hx) h

/-- Appending a relative path to a non-empty one adds the components its segments name; its
leading `.`, if any, is dropped. -/
theorem components_join {x q : Path} (hx : x.text ≠ "") (hq : q.text.startsWith "/" = false) :
    (x.join q).components = x.components ++ q.segments.filterMap Component.ofSegment := by
  obtain ⟨xt⟩ := x
  simp only [join, hq, Bool.false_eq_true, if_false]
  split_ifs with h
  · -- `x` ends with its separator, which then stands between the two
    obtain ⟨a, rfl⟩ := eq_append_slash_of_endsWith (h.resolve_left hx)
    by_cases ha : a = ""
    · subst ha
      have hroot := components_slash ""
      rw [String.append_empty] at hroot
      rw [String.empty_append, components_slash, hroot]
      simp
    · have hdir := components_append_slash ha ""
      rw [String.append_empty] at hdir
      rw [components_append_slash ha, hdir]
      simp
  · exact components_append_slash hx q.text

/-- Joining onto paths with the same components gives paths with the same components. -/
theorem components_join_congr {x y : Path} (h : x.components = y.components) (q : Path) :
    (x.join q).components = (y.join q).components := by
  by_cases hq : q.text.startsWith "/" = true
  · simp [join, hq]
  by_cases hx : x.text = ""
  · have hy : y.text = "" := components_eq_nil_iff.mp (h ▸ components_eq_nil_iff.mpr hx)
    rw [join_of_text_empty hx, join_of_text_empty hy]
  · have hy : y.text ≠ "" :=
      fun hy => hx (components_eq_nil_iff.mp (h ▸ components_eq_nil_iff.mpr hy))
    rw [Bool.not_eq_true] at hq
    rw [components_join hx hq, components_join hy hq, h]

/-- Appending a relative path whose last segment names a component gives a path ending with
that component. -/
theorem components_join_eq_concat (x : Path) {q : Path} {segs : List String} {last : String}
    {c : Component} (hq : q.text.startsWith "/" = false) (h : q.segments = segs ++ [last])
    (hc : Component.ofSegment last = some c) : ∃ cs, (x.join q).components = cs ++ [c] := by
  by_cases hx : x.text = ""
  · rw [join_of_text_empty hx]
    exact components_eq_concat h hc
  · exact ⟨x.components ++ segs.filterMap Component.ofSegment,
      by simp [components_join hx hq, h, hc]⟩

/-- Normalization reads a path's components only. -/
theorem normalize_congr {p q : Path} (h : p.components = q.components) :
    p.normalize = q.normalize := by
  unfold normalize
  rw [h]

/-- Separators written between segments leave the last segment at the end. -/
theorem suffix_intercalate_concat (xs : List String) (last : String) :
    last.toList <:+ ("/".intercalate (xs ++ [last])).toList := by
  by_cases hxs : xs = []
  · simp [hxs]
  · rw [String.intercalate_append_of_ne_nil hxs (List.cons_ne_nil _ _),
      String.intercalate_singleton]
    exact ⟨_, by rw [String.toList_append]⟩

/-- A path ending with a normal component normalizes to text ending with its name: nothing
after it can cancel it. -/
theorem suffix_normalize {p : Path} {cs : List Component} {name : String}
    (h : p.components = cs ++ [.normal name]) : name.toList <:+ p.normalize.text.toList := by
  rw [normalize, h, List.foldl_append]
  simp only [List.foldl_cons, List.foldl_nil, normalizeStep, List.reverse_cons]
  generalize (cs.foldl normalizeStep []).reverse = ks
  cases ks with
  | nil => simp [ofComponents]
  | cons k ks =>
    cases k with
    | root =>
      have := suffix_intercalate_concat (ks.map Component.text) name
      simp only [ofComponents, List.cons_append, List.map_append, List.map_cons, List.map_nil,
        Component.text_normal, String.toList_append] at this ⊢
      exact this.trans (List.suffix_append _ _)
    | current =>
      simpa [ofComponents] using suffix_intercalate_concat ((.current :: ks).map Component.text) name
    | up => simpa [ofComponents] using suffix_intercalate_concat ((.up :: ks).map Component.text) name
    | normal n =>
      simpa [ofComponents] using suffix_intercalate_concat ((.normal n :: ks).map Component.text) name

end Path

end ModuleGraph
