import ModuleGraph.Proofs.ScanOutput

/-!
# Scanning the scan's output again

The scan writes its source back with each specifier replaced by an answer. When the answers
could themselves stand as specifiers (non-empty, with no quote, carriage return or line feed),
the output reads as the source did: the same matches, with the answers as their specifiers
(`Reading.respec`). A new match cannot start before a replaced specifier, as every match that
could reaches no further than the quote that opens it (`startsMatch_of_respec`). So scanning
the output again is scanning the source once with the answers composed (`rescan_composes`).

The condition on the answers is needed: a quote in an answer would close the specifier early.
-/

namespace ModuleGraph.Source

open Text

/-! ## Quotes in an opening -/

/-- An opening ends with its quote, the only quote in it. -/
theorem Opening.eq_append_quote {lead : List Char} (h : Opening lead) :
    ∃ L q, lead = L ++ [q] ∧ (∀ c ∈ L, isQuote c = false) ∧ isQuote q = true := by
  have hblank : ∀ c, isBlank c = true → isQuote c = false := fun c hc => by
    cases hq : isQuote c
    · rfl
    · rw [isBlank_of_isQuote hq] at hc
      cases hc
  have hkeyword : ∀ kw : List Char, kw = "from".toList ∨ kw = "import".toList ∨
      kw = "require".toList → ∀ c ∈ kw, isQuote c = false := by
    rintro kw (rfl | rfl | rfl) <;> simp [isQuote]
  cases h with
  | keyword hkw hbl hq =>
    refine ⟨_, _, rfl, fun c hc => ?_, hq⟩
    rcases List.mem_append.mp hc with hc | hc
    · exact hkeyword _ (hkw.imp_right Or.inl) c hc
    · exact hblank c (hbl c hc)
  | call hkw hbl₁ hbl₂ hq =>
    rename_i kw bl₁ bl₂ q
    refine ⟨kw ++ bl₁ ++ '(' :: bl₂, q, by simp, fun c hc => ?_, hq⟩
    simp only [List.mem_append, List.mem_cons] at hc
    rcases hc with (hc | hc) | rfl | hc
    · exact hkeyword _ (hkw.elim (fun h => Or.inr (Or.inr h)) (fun h => Or.inr (Or.inl h))) c hc
    · exact hblank c (hbl₁ c hc)
    · decide
    · exact hblank c (hbl₂ c hc)

/-- Two ways of writing one text with a quote after a quote-free part: the quotes are the same,
or the quote-free part ends before the other quote, with more text before it. -/
theorem cut_at_quote {L A R X : List Char} {q q' : Char} (hL : ∀ c ∈ L, isQuote c = false)
    (hq : isQuote q = true) (h : L ++ q' :: R = A ++ q :: X) :
    (L = A ∧ q' = q ∧ R = X) ∨ ∃ c, A = L ++ q' :: c ∧ R = c ++ q :: X := by
  rcases List.append_eq_append_iff.mp h with ⟨a, rfl, ha⟩ | ⟨c, rfl, hc⟩
  · cases a with
    | nil =>
      simp only [List.nil_append, List.cons.injEq] at ha
      exact .inl ⟨by simp, ha.1, ha.2⟩
    | cons y a =>
      simp only [List.cons_append, List.cons.injEq] at ha
      exact .inr ⟨a, by rw [ha.1], ha.2⟩
  · cases c with
    | nil =>
      simp only [List.nil_append, List.cons.injEq] at hc
      exact .inl ⟨by simp, hc.1.symm, hc.2.symm⟩
    | cons y c =>
      -- the other quote would lie in the quote-free part
      simp only [List.cons_append, List.cons.injEq] at hc
      have := hL q (by simp [hc.1])
      rw [hq] at this
      cases this

/-! ## Replacing specifiers -/

/-- **Replacing a specifier starts no new match before it.** Take text with a quote after `A`,
followed by a specifier and a closing quote. A match that starts at the head when the text after
the quote is anything else either ends before that quote or opens with it; either way the text
as it was has a match at the head too. -/
theorem startsMatch_of_respec {before : Option Char} {A X X' : List Char} {q : Char}
    (hq : isQuote q = true)
    (hX : ∃ spec close rest, spec ≠ [] ∧ (∀ c ∈ spec, isSpecifierChar c = true) ∧
      isQuote close = true ∧ X = spec ++ close :: rest)
    (h : StartsMatch before (A ++ q :: X')) : StartsMatch before (A ++ q :: X) := by
  obtain ⟨lead, spec, close, rest, hb, hform, htext⟩ := h
  have hhead : (A ++ q :: X).head? = (A ++ q :: X').head? := by cases A <;> rfl
  obtain ⟨L, q', rfl, hL, hq'⟩ := hform.opening.eq_append_quote
  have hspec : ∀ c ∈ spec, isQuote c = false := fun c hc => by
    have := hform.spec_chars c hc
    simp only [isSpecifierChar, Bool.and_eq_true, Bool.not_eq_true'] at this
    exact this.1.1
  simp only [List.append_assoc, List.singleton_append] at htext
  rcases cut_at_quote hL hq htext.symm with ⟨rfl, rfl, -⟩ | ⟨c, rfl, hc⟩
  · -- the match opens with the quote: the specifier there makes a match as well
    obtain ⟨spec₀, close₀, rest₀, hne, hchars, hclose, rfl⟩ := hX
    exact ⟨L ++ [q'], spec₀, close₀, rest₀, hhead ▸ hb, ⟨hform.opening, hne, hchars, hclose⟩,
      by simp⟩
  · -- the match closes at or before the quote, within the text that stays
    rcases cut_at_quote hspec hq hc with ⟨rfl, rfl, -⟩ | ⟨d, rfl, -⟩
    · exact ⟨L ++ [q'], spec, close, X, hhead ▸ hb, hform, by simp⟩
    · exact ⟨L ++ [q'], spec, close, d ++ q :: X, hhead ▸ hb, hform, by simp⟩

/-- A match with its specifier replaced. -/
def Hit.mapSpec (f : List Char → List Char) (h : Hit) : Hit := ⟨h.before, f h.spec, h.close⟩

theorem Hit.splice_mapSpec (f g : List Char → List Char) (hits : List Hit) (tail : List Char) :
    Hit.splice f (hits.map (Hit.mapSpec g)) tail = Hit.splice (f ∘ g) hits tail := by
  induction hits with
  | nil => rfl
  | cons h hits ih => simp [Hit.mapSpec, ih]

/-- **Replacing specifiers keeps the reading.** Writing a text again with each specifier replaced
by a non-empty run of characters that may stand in a specifier gives a text whose reading finds
the same matches, with the new specifiers, and the same tail. -/
theorem Reading.respec {before : Option Char} {text tail : List Char} {hits : List Hit}
    (h : Reading before text hits tail) (f : List Char → List Char)
    (hf : ∀ hit ∈ hits, f hit.spec ≠ [] ∧ ∀ c ∈ f hit.spec, isSpecifierChar c = true) :
    Reading before (Hit.splice f hits tail) (hits.map (Hit.mapSpec f)) tail := by
  induction h with
  | done none_here => exact .done none_here
  | @hit before gap lead spec close rest hits tail none_before here next ih =>
    obtain ⟨hne, hchars⟩ := hf ⟨gap ++ lead, spec, close⟩ (by simp)
    have hnext := ih (fun hit hh => hf hit (List.mem_cons_of_mem _ hh))
    obtain ⟨L, q, rfl, -, hq⟩ := here.2.1.opening.eq_append_quote
    -- before the match nothing changes up to its opening quote, so no match starts there now
    have hnone : ∀ i < gap.length, ¬ StartsMatch (charBefore before gap i)
        ((gap ++ (L ++ [q]) ++ f spec ++ close :: Hit.splice f hits tail).drop i) := by
      intro i hi hstart
      have hsplit : ∀ X : List Char, (gap ++ (L ++ [q]) ++ X).drop i = (gap ++ L).drop i ++ q :: X := by
        intro X
        rw [show gap ++ (L ++ [q]) ++ X = gap ++ L ++ q :: X by simp, List.drop_append_of_le_length
          (by simp; omega)]
      apply none_before i hi
      rw [show gap ++ (L ++ [q]) ++ spec ++ close :: rest = gap ++ (L ++ [q]) ++ (spec ++ close :: rest)
        by simp, hsplit]
      rw [show gap ++ (L ++ [q]) ++ f spec ++ close :: Hit.splice f hits tail =
        gap ++ (L ++ [q]) ++ (f spec ++ close :: Hit.splice f hits tail) by simp, hsplit] at hstart
      exact startsMatch_of_respec hq ⟨spec, close, rest, here.2.1.spec_ne_nil, here.2.1.spec_chars,
        here.2.1.close_quote, rfl⟩ hstart
    have hhere : MatchAt (charBefore before gap gap.length)
        (L ++ [q] ++ f spec ++ close :: Hit.splice f hits tail) (L ++ [q]) (f spec) close
        (Hit.splice f hits tail) := by
      refine ⟨?_, ⟨here.2.1.opening, hne, hchars, here.2.1.close_quote⟩, rfl⟩
      have := here.1
      simpa using this
    have hread := Reading.hit hnone hhere hnext
    simpa [Hit.mapSpec] using hread

/-! ## Scanning again -/

/-- **Scanning the output again composes the answers.** Scan a source without a banner, with
answers that are non-empty and hold no quote, carriage return or line feed. Scanning the code it
writes with a second map gives the code and imports of one scan with the two maps composed; and
scanning it with the identity reports the first answers, in order, and leaves the code as it is. -/
theorem rescan_composes (s : String) (opts : FileOptions) (g h : String → Path → String)
    (hbanner : (opts.settings.get? bannerKey).bind Settings.Value.asString? = none)
    (hg : ∀ x ∈ specifiers s, g x opts.filename ≠ "" ∧
      ∀ c ∈ (g x opts.filename).toList, c ≠ '"' ∧ c ≠ '\'' ∧ c ≠ '\r' ∧ c ≠ '\n') :
    let first := scan s opts (g · opts.filename)
    let composed := scan s opts fun o => h (g o opts.filename) opts.filename
    (scan first.code opts (h · opts.filename)).code = composed.code ∧
      (scan first.code opts (h · opts.filename)).imports = composed.imports ∧
      (scan first.code opts id).imports = first.imports ∧
      (scan first.code opts id).code = first.code := by
  intro first composed
  obtain ⟨hits, tail, hread, -⟩ := reading_piecesFrom none s.toList
  -- the answers, as the characters written in place of each specifier
  let G := fun x => (g (String.ofList x) opts.filename).toList
  have hG : ∀ hit ∈ hits, G hit.spec ≠ [] ∧ ∀ c ∈ G hit.spec, isSpecifierChar c = true := by
    intro hit hh
    have hmem : String.ofList hit.spec ∈ specifiers s := by
      rw [specifiers_of_reading hread]
      exact List.mem_map_of_mem hh
    obtain ⟨hne, hchars⟩ := hg _ hmem
    refine ⟨by simpa [G] using hne, fun c hc => ?_⟩
    obtain ⟨h₁, h₂, h₃, h₄⟩ := hchars c hc
    simp [isSpecifierChar, isQuote, h₁, h₂, h₃, h₄]
  have hcode : first.code = String.ofList (Hit.splice G hits tail) :=
    scan_code_of_reading hread hbanner _
  -- the code is read as the source was, with the answers as specifiers
  have hread' : Reading none first.code.toList (hits.map (Hit.mapSpec G)) tail := by
    rw [hcode, String.toList_ofList]
    exact hread.respec G hG
  -- so scanning it again with any map writes and reports that map of the first answers
  have hcode' : ∀ F : String → String, (scan first.code opts F).code =
      String.ofList (Hit.splice (fun x => (F (g (String.ofList x) opts.filename)).toList) hits tail) := by
    intro F
    rw [scan_code_of_reading hread' hbanner, Hit.splice_mapSpec]
    congr 2
    funext x
    simp [G]
  have himports : ∀ F : String → String, (scan first.code opts F).imports =
      hits.map fun hit => F (g (String.ofList hit.spec) opts.filename) := by
    intro F
    rw [scan_imports_of_reading hread', List.map_map]
    simp [Hit.mapSpec, G]
  refine ⟨?_, ?_, ?_, ?_⟩
  · rw [hcode', scan_code_of_reading hread hbanner]
  · rw [himports, scan_imports_of_reading hread]
  · rw [himports, scan_imports_of_reading hread]
    rfl
  · rw [hcode', hcode]
    rfl

theorem rescan_composes_on_a_resolving_answer :
    let opts := FileOptions.layered [] [] ⟨"/app/main.js"⟩
    let s := "import a from \"./a\";"
    let g : String → Path → String := fun o _ => if o = "./a" then "/app/a.js" else "/app/x.js"
    let h : String → Path → String := fun o _ => o ++ "?v=2"
    ((opts.settings.get? bannerKey).bind Settings.Value.asString? = none ∧
      ∀ x ∈ specifiers s, g x opts.filename ≠ "" ∧
        ∀ c ∈ (g x opts.filename).toList, c ≠ '"' ∧ c ≠ '\'' ∧ c ≠ '\r' ∧ c ≠ '\n') ∧
      (scan (scan s opts (g · opts.filename)).code opts (h · opts.filename)).code =
        (scan s opts fun o => h (g o opts.filename) opts.filename).code := by
  intro opts s g h
  have hbanner : (opts.settings.get? bannerKey).bind Settings.Value.asString? = none := rfl
  have hg : ∀ x ∈ specifiers s, g x opts.filename ≠ "" ∧
      ∀ c ∈ (g x opts.filename).toList, c ≠ '"' ∧ c ≠ '\'' ∧ c ≠ '\r' ∧ c ≠ '\n' := by
    intro x _
    simp only [g]
    split_ifs <;> simp
  exact ⟨⟨hbanner, hg⟩, (rescan_composes s opts g h hbanner hg).1⟩

end ModuleGraph.Source
