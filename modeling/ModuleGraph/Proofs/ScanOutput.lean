import ModuleGraph.Proofs.SpecifierReading
import ModuleGraph.Build.Options

/-!
# What the import scan writes

The scan cuts its source into the pieces of its reading (`SpecifierReading`); this module reads
the scan's output off that reading. A reading takes its text apart into matches, each with the
text before it and its closing quote, and a tail (`Reading.text_eq`); the scan's code is that
text with each specifier replaced by the answer for it (`Piece.render_ofHits`), and its imports
are the answers, in order (`scan_imports_of_reading`).

The banner comes from the file's settings layered over the global ones, a later entry for a key
replacing an earlier one (`Settings.Table.get?_extend`); `bannerLine` is the line it adds.
`importScan_rewrites_each_match` puts these together for the import scan.
-/

namespace ModuleGraph.Settings.Table

/-- Looking a key up in a table with one more entry in front. -/
theorem lookup_cons (k k₀ : String) (v₀ : Value) (rest : Table) :
    List.lookup k ((k₀, v₀) :: rest) = if k = k₀ then some v₀ else rest.lookup k := by
  rw [List.lookup_cons]
  by_cases h : k = k₀
  · simp [h]
  · simp [h, beq_eq_false_iff_ne.mpr h]

/-- Inserting sets the key it inserts and leaves every other key as it was. -/
theorem get?_insert (t : Table) (k : String) (v : Value) (k' : String) :
    (t.insert k v).get? k' = if k' = k then some v else t.get? k' := by
  induction t with
  | nil => simp [insert, get?, lookup_cons]
  | cons kv rest ih =>
    obtain ⟨k₀, v₀⟩ := kv
    unfold insert
    split_ifs with h₁ h₂ h₃ h₄ h₅ <;> simp_all [get?, lookup_cons]

/-- **Layering tables.** A key of the extended table has its last value in the upper table, or
else its value in the base. -/
theorem get?_extend (base upper : Table) (k : String) :
    (base.extend upper).get? k = (upper.reverse.lookup k).or (base.get? k) := by
  induction upper generalizing base with
  | nil => rfl
  | cons kv rest ih =>
    simp only [extend, List.foldl_cons] at ih ⊢
    rw [ih, get?_insert, List.reverse_cons, List.lookup_append]
    obtain ⟨k₀, v₀⟩ := kv
    rw [Option.or_assoc, lookup_cons]
    split_ifs <;> rfl

end ModuleGraph.Settings.Table

namespace ModuleGraph.Source

/-! ## Splicing answers into a reading -/

/-- The text of a reading with each specifier replaced by its image under `f`. -/
def Hit.splice (f : List Char → List Char) (hits : List Hit) (tail : List Char) : List Char :=
  hits.flatMap (fun h => h.before ++ f h.spec ++ [h.close]) ++ tail

@[simp] theorem Hit.splice_nil (f : List Char → List Char) (tail : List Char) :
    Hit.splice f [] tail = tail := rfl

@[simp] theorem Hit.splice_cons (f : List Char → List Char) (h : Hit) (hits : List Hit)
    (tail : List Char) :
    Hit.splice f (h :: hits) tail = h.before ++ f h.spec ++ h.close :: Hit.splice f hits tail := by
  simp [Hit.splice]

/-- A reading takes its text apart: the text is its matches, each with what was read before it
and its closing quote, followed by the tail. -/
theorem Reading.text_eq {before : Option Char} {text tail : List Char} {hits : List Hit}
    (h : Reading before text hits tail) : text = Hit.splice id hits tail := by
  induction h with
  | done => rfl
  | hit _ _ _ ih => simp [ih]

/-! ## The pieces of a reading -/

/-- The specifier a piece holds, if it is one. -/
def Piece.specifier? : Piece → Option String
  | .specifier s => some (String.ofList s)
  | .plain _ => none

@[simp] theorem Piece.specifier?_plain (s : List Char) : (plain s).specifier? = none := rfl

@[simp] theorem Piece.specifier?_specifier (s : List Char) :
    (specifier s).specifier? = some (String.ofList s) := rfl

theorem specifiers_eq (source : String) :
    specifiers source = (pieces source).filterMap Piece.specifier? := by
  unfold specifiers Piece.specifier?
  rfl

theorem Piece.filterMap_consPlain (s : List Char) (ps : List Piece) :
    (consPlain s ps).filterMap specifier? = ps.filterMap specifier? := by
  match ps with
  | plain u :: rest => simp [consPlain, List.filterMap_cons]
  | specifier u :: rest => simp [consPlain, List.filterMap_cons]
  | [] => simp [consPlain]

@[simp] theorem Piece.render_nil (f : String → String) : render f [] = "" := rfl

@[simp] theorem Piece.render_cons_plain (f : String → String) (s : List Char) (ps : List Piece) :
    render f (plain s :: ps) = String.ofList s ++ render f ps := by
  simp [render]

@[simp] theorem Piece.render_cons_specifier (f : String → String) (s : List Char) (ps : List Piece) :
    render f (specifier s :: ps) = f (String.ofList s) ++ render f ps := by
  simp [render]

theorem Piece.render_consPlain (f : String → String) (s : List Char) (ps : List Piece) :
    render f (consPlain s ps) = String.ofList s ++ render f ps := by
  match ps with
  | plain u :: rest => simp [consPlain, String.append_assoc]
  | specifier u :: rest => simp [consPlain]
  | [] => simp [consPlain]

/-- The specifiers among a reading's pieces are its matches' specifiers, in order. -/
theorem Piece.filterMap_ofHits (hits : List Hit) (tail : List Char) :
    (ofHits hits tail).filterMap specifier? = hits.map (String.ofList ·.spec) := by
  induction hits with
  | nil => cases tail <;> simp [ofHits]
  | cons h hits ih => simp [ofHits, filterMap_consPlain, ih]

/-- Writing a reading's pieces again with `f` gives its text with each specifier replaced. -/
theorem Piece.render_ofHits (f : String → String) (hits : List Hit) (tail : List Char) :
    render f (ofHits hits tail) =
      String.ofList (Hit.splice (fun x => (f (String.ofList x)).toList) hits tail) := by
  induction hits with
  | nil => cases tail <;> simp [ofHits]
  | cons h hits ih =>
    rw [ofHits, render_consPlain, render_cons_specifier, render_consPlain, ih, Hit.splice_cons,
      ← String.toList_inj]
    simp

/-! ## The scan of a reading -/

/-- With no banner, the scan writes the reading of its source with each specifier replaced. -/
theorem scan_code_of_reading {s : String} {hits : List Hit} {tail : List Char}
    (hread : Reading none s.toList hits tail) {opts : FileOptions}
    (hbanner : (opts.settings.get? bannerKey).bind Settings.Value.asString? = none)
    (F : String → String) :
    (scan s opts F).code = String.ofList (Hit.splice (fun x => (F (String.ofList x)).toList) hits tail) := by
  simp only [scan, hbanner, pieces_eq_ofHits hread, Piece.render_ofHits]

/-- The scan's imports are the answers for the specifiers of the reading of its source. -/
theorem scan_imports_of_reading {s : String} {hits : List Hit} {tail : List Char}
    (hread : Reading none s.toList hits tail) (opts : FileOptions) (F : String → String) :
    (scan s opts F).imports = hits.map fun h => F (String.ofList h.spec) := by
  simp only [scan, specifiers_eq, pieces_eq_ofHits hread, Piece.filterMap_ofHits, List.map_map]
  rfl

theorem specifiers_of_reading {s : String} {hits : List Hit} {tail : List Char}
    (hread : Reading none s.toList hits tail) : specifiers s = hits.map (String.ofList ·.spec) := by
  rw [specifiers_eq, pieces_eq_ofHits hread, Piece.filterMap_ofHits]

/-! ## The banner and the import scan -/

open Settings in
/-- The value the settings of a file give a key, its own settings layered over the global ones:
its own value (the last entry for the key, as a later entry replaces an earlier one), or else
the global value. -/
def layeredValue (global own : Table) (k : String) : Option Value :=
  (own.reverse.lookup k).or (global.get? k)

open Settings in
/-- The line the scan writes in front of the code: the banner and a line feed, when the layered
settings give the banner key a text value. -/
def bannerLine (global own : Table) : String :=
  match (layeredValue global own bannerKey).bind Value.asString? with
  | some banner => banner ++ "\n"
  | none => ""

theorem scan_layered (s : String) (global own : Settings.Table) (file : Path) (f : String → String) :
    scan s (.layered global own file) f =
      ⟨file, bannerLine global own ++ render f (pieces s), (specifiers s).map f⟩ := by
  simp only [scan, FileOptions.layered, bannerLine, layeredValue, Settings.Table.get?_extend]
  -- the scan and the banner line read the same layered value
  cases ((own.reverse.lookup bannerKey).or (global.get? bannerKey)).bind Settings.Value.asString? with
  | some banner => rfl
  | none => simp only [String.empty_append]

/-- **What the import scan does.** Reading the source from the left and taking the leftmost
match of the specifier pattern each time gives one list of matches. The scan asks about exactly
their specifiers, in order, each for the file it scans; its imports are the answers; its code is
the banner line, if the layered settings give one, followed by the source with each specifier
replaced by the answer for it and every other character kept. So with the identity answer and
no banner, the code is the source itself. -/
theorem importScan_rewrites_each_match (s : String) (global own : Settings.Table) (file : Path)
    (g : String → Path → String) :
    ∃ hits tail, Reading none s.toList hits tail ∧
      (∀ hits' tail', Reading none s.toList hits' tail' → hits' = hits ∧ tail' = tail) ∧
      s.toList = Hit.splice id hits tail ∧
      Transformer.importScan.run s (.layered global own file) (g · file) =
        (hits.map (String.ofList ·.spec),
          .ok ⟨file, bannerLine global own ++
              String.ofList (Hit.splice (fun x => (g (String.ofList x) file).toList) hits tail),
            hits.map fun h => g (String.ofList h.spec) file⟩) ∧
      ((layeredValue global own bannerKey).bind Settings.Value.asString? = none →
        (scan s (.layered global own file) id).code = s) := by
  obtain ⟨hits, tail, hread, -⟩ := reading_piecesFrom none s.toList
  have htext := hread.text_eq
  refine ⟨hits, tail, hread, fun hits' tail' h' => h'.unique hread, htext, ?_, ?_⟩
  · simp only [Transformer.importScan, scan_layered, pieces_eq_ofHits hread, Piece.render_ofHits,
      specifiers_of_reading hread, List.map_map]
    rfl
  · -- with the identity answer the splice puts back each specifier, so the text itself
    intro hnone
    have hline : bannerLine global own = "" := by simp [bannerLine, hnone]
    have hid : (fun x => (id (String.ofList x)).toList) = id := by
      funext x
      simp
    rw [scan_layered, hline, String.empty_append, pieces_eq_ofHits hread, Piece.render_ofHits, hid,
      ← htext, String.ofList_toList]

theorem importScan_rewrites_each_match_on_a_require :
    (layeredValue [] [] bannerKey).bind Settings.Value.asString? = none ∧
      (scan "const d = require(\"./d\");" (.layered [] [] ⟨"/app/main.js"⟩) id).code =
        "const d = require(\"./d\");" := by
  have hnone : (layeredValue [] [] bannerKey).bind Settings.Value.asString? = none := rfl
  obtain ⟨_, _, _, _, _, _, hid⟩ :=
    importScan_rewrites_each_match "const d = require(\"./d\");" [] [] ⟨"/app/main.js"⟩ (fun x _ => x)
  exact ⟨hnone, hid hnone⟩

end ModuleGraph.Source
