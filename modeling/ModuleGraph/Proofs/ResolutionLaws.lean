import ModuleGraph.Resolution
import ModuleGraph.Proofs.PathComponents

/-!
# Laws of the default resolver

The default resolver appends its extension to references that lack it, and resolves a
reference that starts with `.` lexically against the directory of the referencing file. Three
laws follow.

* The referencing file is read up to its spelling: two spellings of one file, equal by
  components, give the same resolution of every reference (`resolve_eq_of_same`). So which
  spelling of a path the build met first does not change its dependencies.
* A reference and the same reference spelled with the extension resolve alike
  (`resolve_append_extension`).
* A resolved path that does not start with a dot is a fixed point of resolution
  (`resolve_resolve`), provided the extension holds no separator and does not start with a
  dot; the resolvers built from an extension trim its leading dots, so only the separator
  matters for them.

The last one rests on a resolved path keeping its extension (`suffix_resolve`): the
reference's last segment, which carries the extension, stays the last component through
joining and normalizing.
-/

namespace ModuleGraph

namespace PathResolver

/-- **Resolution reads the referencing path up to its spelling.** Two spellings of one file,
equal by components, resolve every reference to the same path, whatever the extension. -/
theorem resolve_eq_of_same (d : PathResolver) (r : String) {p p' : Path} (h : p.same p' = true) :
    d.resolve r p = d.resolve r p' := by
  simp only [resolve]
  split_ifs
  · -- the directories have the same components, and so have the joined paths
    apply Path.normalize_congr
    apply Path.components_join_congr
    rw [Path.components_parent_getD, Path.components_parent_getD, Path.same_iff.mp h]
  · rfl

theorem resolve_eq_of_same_on_spellings :
    Path.same ⟨"/app/src/main.js"⟩ ⟨"/app//src/./main.js/"⟩ = true ∧
      standard.resolve "../lib/util" ⟨"/app/src/main.js"⟩ =
        standard.resolve "../lib/util" ⟨"/app//src/./main.js/"⟩ :=
  ⟨by decide, resolve_eq_of_same standard "../lib/util" (by decide)⟩

/-- A reference has the extension exactly when it ends with a dot followed by the extension. -/
theorem hasExtension_iff (d : PathResolver) (r : String) :
    d.hasExtension r = true ↔ ('.' :: d.extension.toList) <:+ r.toList := by
  simp only [hasExtension, Bool.and_eq_true, beq_iff_eq, List.isSuffixOf_iff_suffix]
  constructor
  · rintro ⟨⟨u, hu⟩, hlast⟩
    rw [← hu, List.length_append, Nat.add_sub_cancel, List.take_left] at hlast
    obtain ⟨u', rfl⟩ := List.getLast?_eq_some_iff.mp hlast
    exact ⟨u', by rw [← hu, List.append_assoc, List.singleton_append]⟩
  · rintro ⟨u, hu⟩
    rw [← hu]
    refine ⟨List.suffix_append_of_suffix (List.suffix_cons _ _), ?_⟩
    rw [← List.singleton_append, ← List.append_assoc, List.length_append, Nat.add_sub_cancel,
      List.take_left]
    simp

theorem applyExtension_of_hasExtension {d : PathResolver} {r : String}
    (h : d.hasExtension r = true) : d.applyExtension r = r := by
  simp [applyExtension, h]

theorem applyExtension_of_not_suffix {d : PathResolver} {r : String} (hE : d.extension ≠ "")
    (h : ¬ ('.' :: d.extension.toList) <:+ r.toList) :
    d.applyExtension r = r ++ "." ++ d.extension := by
  rw [← hasExtension_iff, Bool.not_eq_true] at h
  simp [applyExtension, h, hE]

/-- With a non-empty extension, every reference has it once the extension is applied. -/
theorem suffix_applyExtension {d : PathResolver} (hE : d.extension ≠ "") (r : String) :
    ('.' :: d.extension.toList) <:+ (d.applyExtension r).toList := by
  by_cases h : ('.' :: d.extension.toList) <:+ r.toList
  · rwa [applyExtension_of_hasExtension ((hasExtension_iff d r).mpr h)]
  · rw [applyExtension_of_not_suffix hE h]
    exact ⟨r.toList, by simp⟩

/-- A reference spelled with its extension resolves where the bare reference does. -/
theorem resolve_append_extension {d : PathResolver} {r : String} (hE : d.extension ≠ "")
    (h : ¬ ('.' :: d.extension.toList) <:+ r.toList) (p : Path) :
    d.resolve (r ++ "." ++ d.extension) p = d.resolve r p := by
  have hhas : d.hasExtension (r ++ "." ++ d.extension) = true :=
    (hasExtension_iff d _).mpr ⟨r.toList, by simp⟩
  simp only [resolve, applyExtension_of_hasExtension hhas, applyExtension_of_not_suffix hE h]

/-- The last segment of a reference that ends with a dot and an extension that does not start
with a dot names a normal component: it is neither empty, nor `.`, nor `..`. -/
theorem ofSegment_of_extension {seg e : List Char} (hne : e ≠ []) (hdot : e.head? ≠ some '.') :
    Component.ofSegment (String.ofList (seg ++ '.' :: e)) =
      some (.normal (String.ofList (seg ++ '.' :: e))) := by
  obtain ⟨c, e, rfl⟩ := List.exists_cons_of_ne_nil hne
  have hc : c ≠ '.' := fun h => hdot (by simp [h])
  -- the segment has at least two characters, and two only when they are `.` and `c`
  have hshort : ∀ t : String, String.ofList (seg ++ '.' :: c :: e) = t →
      2 ≤ t.toList.length ∧ (t.toList.length = 2 → t.toList = ['.', c]) := by
    rintro t rfl
    simp only [String.toList_ofList, List.length_append, List.length_cons]
    refine ⟨by omega, fun h2 => ?_⟩
    have hseg : seg = [] := List.eq_nil_of_length_eq_zero (by omega)
    have he : e = [] := List.eq_nil_of_length_eq_zero (by omega)
    simp [hseg, he]
  unfold Component.ofSegment
  rw [if_neg, if_neg]
  · intro h
    have htwo := (hshort _ h).2 rfl
    simp only [show "..".toList = ['.', '.'] from rfl, List.cons.injEq] at htwo
    exact hc htwo.2.1.symm
  · rintro (h | h)
    · exact absurd (hshort _ h).1 (by simp)
    · exact absurd (hshort _ h).1 (by simp [show ".".toList = ['.'] from rfl])

/-- **Resolved paths keep their extension.** With a non-empty extension that holds no separator
and does not start with a dot, every resolved path ends with a dot and the extension. -/
theorem suffix_resolve {d : PathResolver} (hE : d.extension ≠ "")
    (hslash : '/' ∉ d.extension.toList) (hdot : d.extension.toList.head? ≠ some '.')
    (r : String) (p : Path) : ('.' :: d.extension.toList) <:+ (d.resolve r p).text.toList := by
  have hsuf := suffix_applyExtension hE r
  simp only [resolve]
  split_ifs with hstart
  · -- the reference's last segment is its last component, and normalization keeps it last
    obtain ⟨w, hw⟩ := hsuf
    have hfree : '/' ∉ '.' :: d.extension.toList := by simpa using hslash
    obtain ⟨segs, seg, hsplit⟩ := Path.splitSegments_append_of_not_mem w hfree
    have hsegs : (⟨d.applyExtension r⟩ : Path).segments =
        segs.map String.ofList ++ [String.ofList (seg ++ '.' :: d.extension.toList)] := by
      simp [Path.segments, ← hw, hsplit]
    have hrel : (d.applyExtension r).startsWith "/" = false := by
      obtain ⟨rest, hrest⟩ : ∃ rest, (d.applyExtension r).toList = '.' :: rest := by
        obtain ⟨rest, h⟩ := String.startsWith_string_iff.mp hstart
        exact ⟨rest, h.symm⟩
      simp [hrest, Path.toList_separator]
    obtain ⟨cs, hcs⟩ := Path.components_join_eq_concat (p.parent.getD Path.empty) hrel hsegs
      (ofSegment_of_extension (by simpa using hE) hdot)
    refine List.IsSuffix.trans ?_ (Path.suffix_normalize hcs)
    simp
  · exact hsuf

/-- A resolved path that does not start with a dot resolves to itself, from any file, when the
extension holds no separator and does not start with a dot. -/
theorem resolve_resolve {d : PathResolver} (hslash : '/' ∉ d.extension.toList)
    (hdot : d.extension.toList.head? ≠ some '.') (r : String) (p q : Path)
    (hlead : (d.resolve r p).text.startsWith "." = false) :
    d.resolve (d.resolve r p).text q = d.resolve r p := by
  -- the resolved text has the extension already, so resolving it again appends nothing
  have happly : d.applyExtension (d.resolve r p).text = (d.resolve r p).text := by
    by_cases hE : d.extension = ""
    · simp [applyExtension, hE]
    · exact applyExtension_of_hasExtension
        ((hasExtension_iff d _).mpr (suffix_resolve hE hslash hdot r p))
  generalize d.resolve r p = t at happly hlead ⊢
  simp only [resolve, happly, hlead, Bool.false_eq_true, if_false]

/-- Trimming leading dots leaves an extension that does not start with one. -/
theorem withExtension_head (e : String) : (withExtension e).extension.toList.head? ≠ some '.' := by
  intro h
  have hne : e.toList.dropWhile (· == '.') ≠ [] := by
    intro hnil
    simp [withExtension, hnil] at h
  have hfirst := List.head_dropWhile_not (· == '.') hne
  simp only [withExtension, String.toList_ofList] at h
  rw [List.head?_eq_some_head hne, Option.some_inj] at h
  simp [h] at hfirst

/-- **Two laws of the default resolver.** For the resolver of any extension, with its leading
dots trimmed to `E`: a reference that lacks `E` resolves where the same reference spelled with
`.E` does; and when `E` holds no separator, a resolved path that does not start with a dot is a
fixed point of resolution, from any file. -/
theorem withExtension_resolve_laws (e r : String) (p q : Path) :
    let d := withExtension e
    (d.extension ≠ "" → ¬ ('.' :: d.extension.toList) <:+ r.toList →
      d.resolve (r ++ "." ++ d.extension) p = d.resolve r p) ∧
    ('/' ∉ d.extension.toList → (d.resolve r p).text.startsWith "." = false →
      d.resolve (d.resolve r p).text q = d.resolve r p) :=
  ⟨fun hE h => resolve_append_extension hE h p,
    fun hslash hlead => resolve_resolve hslash (withExtension_head e) r p q hlead⟩

theorem withExtension_resolve_laws_on_mjs :
    let d := withExtension ".mjs"
    (d.extension ≠ "" ∧ ¬ ('.' :: d.extension.toList) <:+ "./foo".toList ∧
      d.resolve ("./foo" ++ "." ++ d.extension) ⟨"/app/main.mjs"⟩ =
        d.resolve "./foo" ⟨"/app/main.mjs"⟩) ∧
    ('/' ∉ d.extension.toList ∧ (d.resolve "./foo" ⟨"/app/main.mjs"⟩).text.startsWith "." = false ∧
      d.resolve (d.resolve "./foo" ⟨"/app/main.mjs"⟩).text ⟨"/lib/x.js"⟩ =
        d.resolve "./foo" ⟨"/app/main.mjs"⟩) := by
  have hE : (withExtension ".mjs").extension ≠ "" := by decide
  have hsuf : ¬ ('.' :: (withExtension ".mjs").extension.toList) <:+ "./foo".toList := by decide
  have hslash : '/' ∉ (withExtension ".mjs").extension.toList := by decide
  have hlead :
      ((withExtension ".mjs").resolve "./foo" ⟨"/app/main.mjs"⟩).text.startsWith "." = false := by
    decide +kernel
  have laws := withExtension_resolve_laws ".mjs" "./foo" ⟨"/app/main.mjs"⟩ ⟨"/lib/x.js"⟩
  exact ⟨⟨hE, hsuf, laws.1 hE hsuf⟩, ⟨hslash, hlead, laws.2 hslash hlead⟩⟩

end PathResolver

end ModuleGraph
