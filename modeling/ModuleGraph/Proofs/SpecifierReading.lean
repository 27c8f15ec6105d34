import ModuleGraph.Source.Specifier
import Mathlib.Data.List.TakeWhile

/-!
# Reading source text for import clauses

The pattern the scan looks for, stated on its own: a word boundary, an opening (`Opening`: a
keyword, blanks, a parenthesis for the call forms, and a quote), a specifier, and a closing
quote (`ClauseForm`, `MatchAt`). A text is read from the left, each time taking the match that
starts leftmost and going on after its closing quote (`Reading`).

The main results:

* `opening_eq_some_iff` and `Clause.at?_eq_some_iff`: the scan's clause reader finds a clause
  exactly where the pattern has one, and `clause_eq_some_iff` adds the word boundary.
* `MatchAt.unique`: at most one match starts at a position, so the order in which the keyword
  alternatives are tried does not matter.
* `reading_piecesFrom`: the pieces the scan cuts a text into are those of a reading.
* `Reading.unique`: a text has one reading.
-/

namespace ModuleGraph.Source

open Text

/-! ## The pattern -/

/-- Whether a word boundary stands between two characters, a missing one counting as no word
character: exactly one of them is a word character. -/
def wordBoundary (before after : Option Char) : Bool :=
  before.any isWordChar != after.any isWordChar

/-- The texts that open an import clause, up to and including the opening quote. -/
inductive Opening : List Char → Prop
  /-- `from` or `import`, blanks, and a quote. -/
  | keyword {kw bl : List Char} {q : Char} (hkw : kw = "from".toList ∨ kw = "import".toList)
      (hbl : ∀ c ∈ bl, isBlank c = true) (hq : isQuote q = true) : Opening (kw ++ bl ++ [q])
  /-- `require` or `import`, blanks, a parenthesis, blanks, and a quote. -/
  | call {kw bl₁ bl₂ : List Char} {q : Char} (hkw : kw = "require".toList ∨ kw = "import".toList)
      (hbl₁ : ∀ c ∈ bl₁, isBlank c = true) (hbl₂ : ∀ c ∈ bl₂, isBlank c = true)
      (hq : isQuote q = true) : Opening (kw ++ bl₁ ++ '(' :: bl₂ ++ [q])

/-- An import clause: an opening, a specifier, and a closing quote, which may differ from the
opening one. -/
structure ClauseForm (lead spec : List Char) (close : Char) : Prop where
  opening : Opening lead
  spec_ne_nil : spec ≠ []
  spec_chars : ∀ c ∈ spec, isSpecifierChar c = true
  close_quote : isQuote close = true

/-! ## The clause reader -/

theorem afterWord_eq_some_iff {w : String} {cs r : List Char} :
    afterWord w cs = some r ↔ cs = w.toList ++ r := by
  unfold afterWord
  split_ifs with h
  · rw [List.isPrefixOf_iff_prefix] at h
    obtain ⟨t, ht⟩ := h
    subst ht
    simp [String.length_toList]
  · rw [List.isPrefixOf_iff_prefix] at h
    simp only [false_iff]
    rintro rfl
    exact h (List.prefix_append _ _)

/-- Dropping a run stops at the first character outside it. -/
theorem dropWhile_append_cons {p : Char → Bool} {xs ys : List Char} {y : Char}
    (hxs : ∀ x ∈ xs, p x = true) (hy : p y = false) : (xs ++ y :: ys).dropWhile p = y :: ys := by
  induction xs with
  | nil => simp [hy]
  | cons x xs ih =>
    simp only [List.mem_cons, forall_eq_or_imp] at hxs
    simp [hxs.1, ih hxs.2]

/-- Taking a run stops at the first character outside it. -/
theorem takeWhile_append_cons {p : Char → Bool} {xs ys : List Char} {y : Char}
    (hxs : ∀ x ∈ xs, p x = true) (hy : p y = false) : (xs ++ y :: ys).takeWhile p = xs := by
  induction xs with
  | nil => simp [hy]
  | cons x xs ih =>
    simp only [List.mem_cons, forall_eq_or_imp] at hxs
    simp [hxs.1, ih hxs.2]

theorem isBlank_of_isQuote {q : Char} (hq : isQuote q = true) : isBlank q = false := by
  simp only [isQuote, Bool.or_eq_true, beq_iff_eq] at hq
  rcases hq with rfl | rfl <;> decide

/-- What a run of blanks followed by something else splits into. -/
theorem eq_blanks_append (r : List Char) {c : Char} {rest : List Char}
    (h : r.dropWhile isBlank = c :: rest) :
    ∃ bl, (∀ x ∈ bl, isBlank x = true) ∧ r = bl ++ c :: rest :=
  ⟨r.takeWhile isBlank, fun _ hx => List.mem_takeWhile_imp hx,
    by rw [← h, List.takeWhile_append_dropWhile]⟩

theorem afterQuote_eq_some_iff {cs body : List Char} :
    afterQuote cs = some body ↔ ∃ q, isQuote q = true ∧ cs = q :: body := by
  cases cs with
  | nil => simp [afterQuote]
  | cons c rest =>
    simp only [afterQuote, List.cons.injEq]
    constructor
    · intro h
      split_ifs at h with hc
      exact ⟨c, hc, rfl, Option.some.inj h⟩
    · rintro ⟨q, hq, rfl, rfl⟩
      simp [hq]

/-- Blanks and a quote: what `from` and `import` take between the keyword and the specifier. -/
theorem afterQuote_dropWhile_eq_some_iff {r body : List Char} :
    afterQuote (r.dropWhile isBlank) = some body ↔
      ∃ bl q, (∀ x ∈ bl, isBlank x = true) ∧ isQuote q = true ∧ r = bl ++ q :: body := by
  constructor
  · intro h
    obtain ⟨q, hq, hdrop⟩ := afterQuote_eq_some_iff.mp h
    obtain ⟨bl, hbl, rfl⟩ := eq_blanks_append r hdrop
    exact ⟨bl, q, hbl, hq, rfl⟩
  · rintro ⟨bl, q, hbl, hq, rfl⟩
    rw [dropWhile_append_cons hbl (isBlank_of_isQuote hq)]
    exact afterQuote_eq_some_iff.mpr ⟨q, hq, rfl⟩

theorem afterParen_eq_some_iff {cs body : List Char} :
    afterParen cs = some body ↔
      ∃ bl q, (∀ x ∈ bl, isBlank x = true) ∧ isQuote q = true ∧ cs = '(' :: (bl ++ q :: body) := by
  constructor
  · intro h
    unfold afterParen at h
    split at h
    · obtain ⟨bl, q, hbl, hq, rfl⟩ := afterQuote_dropWhile_eq_some_iff.mp h
      exact ⟨bl, q, hbl, hq, rfl⟩
    · cases h
  · rintro ⟨bl, q, hbl, hq, rfl⟩
    simp only [afterParen]
    exact afterQuote_dropWhile_eq_some_iff.mpr ⟨bl, q, hbl, hq, rfl⟩

/-- Blanks, a parenthesis, blanks and a quote: what `require` and `import` take in their call
form between the keyword and the specifier. -/
theorem afterParen_dropWhile_eq_some_iff {r body : List Char} :
    afterParen (r.dropWhile isBlank) = some body ↔
      ∃ bl₁ bl₂ q, (∀ x ∈ bl₁, isBlank x = true) ∧ (∀ x ∈ bl₂, isBlank x = true) ∧
        isQuote q = true ∧ r = bl₁ ++ '(' :: (bl₂ ++ q :: body) := by
  have hparen : isBlank '(' = false := by decide
  constructor
  · intro h
    obtain ⟨bl₂, q, hbl₂, hq, hdrop⟩ := afterParen_eq_some_iff.mp h
    obtain ⟨bl₁, hbl₁, rfl⟩ := eq_blanks_append r hdrop
    exact ⟨bl₁, bl₂, q, hbl₁, hbl₂, hq, rfl⟩
  · rintro ⟨bl₁, bl₂, q, hbl₁, hbl₂, hq, rfl⟩
    rw [dropWhile_append_cons hbl₁ hparen]
    exact afterParen_eq_some_iff.mpr ⟨bl₂, q, hbl₂, hq, rfl⟩

theorem afterWord_from_import (r : List Char) : afterWord "from" ("import".toList ++ r) = none := rfl
theorem afterWord_from_require (r : List Char) : afterWord "from" ("require".toList ++ r) = none := rfl
theorem afterWord_import_require (r : List Char) :
    afterWord "import" ("require".toList ++ r) = none := rfl

/-- **The opening of a clause is read exactly.** `opening` finds what follows an opening
exactly when the text starts with one. -/
theorem opening_eq_some_iff {cs body : List Char} :
    opening cs = some body ↔ ∃ lead, Opening lead ∧ cs = lead ++ body := by
  constructor
  · intro h
    unfold opening at h
    -- the keyword alternatives are tried in order; each that applies leaves its own form
    split at h
    · rename_i r hr
      obtain ⟨bl, q, hbl, hq, rfl⟩ := afterQuote_dropWhile_eq_some_iff.mp h
      exact ⟨_, .keyword (.inl rfl) hbl hq, by simp [afterWord_eq_some_iff.mp hr]⟩
    · split at h
      · rename_i r hr
        simp only at h
        split at h
        · rename_i x hx
          cases h
          obtain ⟨bl, q, hbl, hq, rfl⟩ := afterQuote_dropWhile_eq_some_iff.mp hx
          exact ⟨_, .keyword (.inr rfl) hbl hq, by simp [afterWord_eq_some_iff.mp hr]⟩
        · obtain ⟨bl₁, bl₂, q, hbl₁, hbl₂, hq, rfl⟩ := afterParen_dropWhile_eq_some_iff.mp h
          exact ⟨_, .call (.inr rfl) hbl₁ hbl₂ hq, by simp [afterWord_eq_some_iff.mp hr]⟩
      · split at h
        · rename_i r hr
          obtain ⟨bl₁, bl₂, q, hbl₁, hbl₂, hq, rfl⟩ := afterParen_dropWhile_eq_some_iff.mp h
          exact ⟨_, .call (.inl rfl) hbl₁ hbl₂ hq, by simp [afterWord_eq_some_iff.mp hr]⟩
        · cases h
  · rintro ⟨lead, hlead, rfl⟩
    cases hlead with
    | keyword hkw hbl hq =>
      rename_i kw bl q
      have hbody : kw ++ bl ++ [q] ++ body = kw ++ (bl ++ q :: body) := by simp
      have hquote : afterQuote ((bl ++ q :: body).dropWhile isBlank) = some body :=
        afterQuote_dropWhile_eq_some_iff.mpr ⟨bl, q, hbl, hq, rfl⟩
      rcases hkw with rfl | rfl
      · simp only [opening, hbody, afterWord_eq_some_iff.mpr rfl, hquote]
      · simp only [opening, hbody, afterWord_from_import, afterWord_eq_some_iff.mpr rfl, hquote]
    | call hkw hbl₁ hbl₂ hq =>
      rename_i kw bl₁ bl₂ q
      have hbody : kw ++ bl₁ ++ '(' :: bl₂ ++ [q] ++ body =
          kw ++ (bl₁ ++ '(' :: (bl₂ ++ q :: body)) := by
        simp
      have hcall : afterParen ((bl₁ ++ '(' :: (bl₂ ++ q :: body)).dropWhile isBlank) = some body :=
        afterParen_dropWhile_eq_some_iff.mpr ⟨bl₁, bl₂, q, hbl₁, hbl₂, hq, rfl⟩
      -- after `import` the quote form is tried first, and fails on the parenthesis
      have hnoquote : afterQuote ((bl₁ ++ '(' :: (bl₂ ++ q :: body)).dropWhile isBlank) = none := by
        have hparen : isBlank '(' = false := by decide
        have hnq : isQuote '(' = false := by decide
        rw [dropWhile_append_cons hbl₁ hparen]
        simp [afterQuote, hnq]
      rcases hkw with rfl | rfl
      · simp only [opening, hbody, afterWord_from_require, afterWord_import_require,
          afterWord_eq_some_iff.mpr rfl, hcall]
      · simp only [opening, hbody, afterWord_from_import, afterWord_eq_some_iff.mpr rfl, hnoquote,
          hcall]

theorem isSpecifierChar_of_isQuote {q : Char} (hq : isQuote q = true) :
    isSpecifierChar q = false := by
  simp [isSpecifierChar, hq]

/-- **A clause is found exactly where one starts.** -/
theorem Clause.at?_eq_some_iff {cs : List Char} {m : Clause} :
    Clause.at? cs = some m ↔
      ClauseForm m.lead m.specifier m.close ∧ cs = m.lead ++ m.specifier ++ m.close :: m.rest := by
  constructor
  · intro h
    unfold Clause.at? at h
    split at h
    · cases h
    · rename_i body hbody
      simp only at h
      split at h
      · rename_i q rest hdrop
        split_ifs at h with hcond
        cases h
        obtain ⟨lead, hlead, rfl⟩ := opening_eq_some_iff.mp hbody
        have hsplit : body = body.takeWhile isSpecifierChar ++ q :: rest := by
          rw [← hdrop, List.takeWhile_append_dropWhile]
        refine ⟨⟨?_, hcond.1, fun c hc => List.mem_takeWhile_imp hc, hcond.2⟩, ?_⟩
        · simpa using hlead
        · simp only [List.length_append, Nat.add_sub_cancel, List.take_left]
          rw [List.append_assoc, ← hsplit]
      · cases h
  · obtain ⟨lead, spec, close, rest⟩ := m
    rintro ⟨hform, rfl⟩
    have hbody : opening (lead ++ spec ++ close :: rest) = some (spec ++ close :: rest) :=
      opening_eq_some_iff.mpr ⟨lead, hform.opening, by simp⟩
    have hq := isSpecifierChar_of_isQuote hform.close_quote
    unfold Clause.at?
    simp only [hbody, takeWhile_append_cons hform.spec_chars hq,
      dropWhile_append_cons hform.spec_chars hq, if_pos (And.intro hform.spec_ne_nil hform.close_quote)]
    have htake : (lead ++ spec ++ close :: rest).take
        ((lead ++ spec ++ close :: rest).length - (spec ++ close :: rest).length) = lead := by
      rw [List.append_assoc, List.length_append, Nat.add_sub_cancel, List.take_left]
    rw [htake]

/-! ## Matches and the word boundary -/

/-- The pattern matches at the head of `text`, the character before it being `before`: a word
boundary stands there, then a clause, with `rest` after its closing quote. -/
def MatchAt (before : Option Char) (text lead spec : List Char) (close : Char)
    (rest : List Char) : Prop :=
  wordBoundary before text.head? = true ∧ ClauseForm lead spec close ∧
    text = lead ++ spec ++ close :: rest

/-- A match of the pattern starts at the head of `text`. -/
def StartsMatch (before : Option Char) (text : List Char) : Prop :=
  ∃ lead spec close rest, MatchAt before text lead spec close rest

/-- An opening starts with a keyword, so with a word character. -/
theorem Opening.head {lead : List Char} (h : Opening lead) :
    ∃ c t, lead = c :: t ∧ isWordChar c = true := by
  cases h with
  | keyword hkw =>
    rcases hkw with rfl | rfl
    · exact ⟨'f', _, rfl, by decide⟩
    · exact ⟨'i', _, rfl, by decide⟩
  | call hkw =>
    rcases hkw with rfl | rfl
    · exact ⟨'r', _, rfl, by decide⟩
    · exact ⟨'i', _, rfl, by decide⟩

/-- The clause the scan takes at a position is the match that starts there: the scan's test on
the character before stands for the word boundary, as a clause starts with a word character. -/
theorem clause_eq_some_iff {prev : Option Char} {c : Char} {tl : List Char} {m : Clause} :
    (if prev.all (fun p => !isWordChar p) then Clause.at? (c :: tl) else none) = some m ↔
      MatchAt prev (c :: tl) m.lead m.specifier m.close m.rest := by
  constructor
  · intro h
    split_ifs at h with hprev
    obtain ⟨hform, htext⟩ := Clause.at?_eq_some_iff.mp h
    obtain ⟨d, t, hlead, hword⟩ := hform.opening.head
    have hc : c = d := by simp_all
    refine ⟨?_, hform, htext⟩
    cases prev <;> simp_all [wordBoundary]
  · rintro ⟨hb, hform, htext⟩
    obtain ⟨d, t, hlead, hword⟩ := hform.opening.head
    have hc : c = d := by simp_all
    have hprev : prev.all (fun p => !isWordChar p) = true := by
      cases prev <;> simp_all [wordBoundary]
    rw [if_pos hprev]
    exact Clause.at?_eq_some_iff.mpr ⟨hform, htext⟩

/-- At most one match starts at a position. -/
theorem MatchAt.unique {before : Option Char} {text lead spec lead' spec' rest rest' : List Char}
    {close close' : Char} (h : MatchAt before text lead spec close rest)
    (h' : MatchAt before text lead' spec' close' rest') :
    lead = lead' ∧ spec = spec' ∧ close = close' ∧ rest = rest' := by
  have e : Clause.at? text = some ⟨lead, spec, close, rest⟩ :=
    Clause.at?_eq_some_iff.mpr ⟨h.2.1, h.2.2⟩
  have e' : Clause.at? text = some ⟨lead', spec', close', rest'⟩ :=
    Clause.at?_eq_some_iff.mpr ⟨h'.2.1, h'.2.2⟩
  rw [e] at e'
  cases e'
  exact ⟨rfl, rfl, rfl, rfl⟩

/-! ## Readings -/

/-- One match found by a reading: the text read since the previous match (the gap before the
match, then the clause's opening), the specifier, and the closing quote. -/
structure Hit where
  before : List Char
  spec : List Char
  close : Char

/-- The character before position `i` of `text`, `before` being the one before the text. -/
def charBefore (before : Option Char) (text : List Char) : Nat → Option Char
  | 0 => before
  | i + 1 => text[i]?

/-- `Reading before text hits tail`: reading `text`, which follows the character `before`, from
the left, each time taking the match that starts leftmost and going on after its closing quote,
finds the matches `hits` and leaves `tail` after the last one. -/
inductive Reading : Option Char → List Char → List Hit → List Char → Prop
  /-- No match starts anywhere in the text. -/
  | done {before : Option Char} {text : List Char}
      (none_here : ∀ i < text.length, ¬ StartsMatch (charBefore before text i) (text.drop i)) :
      Reading before text [] text
  /-- No match starts in `gap`, and one starts right after it. -/
  | hit {before : Option Char} {gap lead spec : List Char} {close : Char} {rest : List Char}
      {hits : List Hit} {tail : List Char}
      (none_before : ∀ i < gap.length,
        ¬ StartsMatch (charBefore before gap i) ((gap ++ lead ++ spec ++ close :: rest).drop i))
      (here : MatchAt (charBefore before gap gap.length) (lead ++ spec ++ close :: rest)
        lead spec close rest)
      (next : Reading (some close) rest hits tail) :
      Reading before (gap ++ lead ++ spec ++ close :: rest) (⟨gap ++ lead, spec, close⟩ :: hits) tail

/-- The pieces a reading cuts its text into: what lies between the specifiers as plain text,
and the specifiers. -/
def Piece.ofHits : List Hit → List Char → List Piece
  | [], [] => []
  | [], tail => [.plain tail]
  | h :: hs, tail =>
    Piece.consPlain h.before (.specifier h.spec :: Piece.consPlain [h.close] (ofHits hs tail))

theorem charBefore_cons (before : Option Char) (c : Char) (t : List Char) (i : Nat) :
    charBefore before (c :: t) (i + 1) = charBefore (some c) t i := by
  cases i <;> rfl

theorem charBefore_append {before : Option Char} {xs : List Char} {i : Nat} (h : i ≤ xs.length)
    (ys : List Char) : charBefore before (xs ++ ys) i = charBefore before xs i := by
  cases i with
  | zero => rfl
  | succ i => simp [charBefore, List.getElem?_append_left (Nat.lt_of_succ_le h)]

theorem Piece.consPlain_consPlain (s t : List Char) (ps : List Piece) :
    consPlain s (consPlain t ps) = consPlain (s ++ t) ps := by
  match ps with
  | plain u :: rest => simp [consPlain]
  | specifier u :: rest => simp [consPlain]
  | [] => simp [consPlain]

/-- A character that starts no match goes in front of a reading: into the gap before its first
match, or into its tail. -/
theorem Reading.skip {before : Option Char} {c : Char} {tl : List Char} {hits : List Hit}
    {tail : List Char} (hc : ¬ StartsMatch before (c :: tl)) (h : Reading (some c) tl hits tail) :
    ∃ hits' tail', Reading before (c :: tl) hits' tail' ∧
      Piece.ofHits hits' tail' = Piece.consPlain [c] (Piece.ofHits hits tail) := by
  cases h with
  | done none_here =>
    refine ⟨[], c :: tl, .done fun i hi => ?_, ?_⟩
    · cases i with
      | zero => exact hc
      | succ i =>
        rw [charBefore_cons]
        exact none_here i (by simpa using hi)
    · cases tl <;> simp [Piece.ofHits, Piece.consPlain]
  | @hit _ gap lead spec close rest hs tail none_before here next =>
    -- the character joins the gap before the first match
    have hnone : ∀ i < (c :: gap).length, ¬ StartsMatch (charBefore before (c :: gap) i)
        ((c :: gap ++ lead ++ spec ++ close :: rest).drop i) := by
      intro i hi
      cases i with
      | zero => exact hc
      | succ i =>
        rw [charBefore_cons]
        exact none_before i (by simpa using hi)
    have hhere : MatchAt (charBefore before (c :: gap) (c :: gap).length)
        (lead ++ spec ++ close :: rest) lead spec close rest := by
      simpa [charBefore_cons] using here
    refine ⟨⟨c :: gap ++ lead, spec, close⟩ :: hs, tail, .hit hnone hhere next, ?_⟩
    simp [Piece.ofHits, Piece.consPlain_consPlain]

/-- **The scan reads its text from the left, taking the leftmost match each time.** The pieces
it cuts the text into are those of such a reading. -/
theorem reading_piecesFrom (prev : Option Char) (cs : List Char) :
    ∃ hits tail, Reading prev cs hits tail ∧ piecesFrom prev cs = Piece.ofHits hits tail := by
  fun_induction piecesFrom prev cs with
  | case1 prev => exact ⟨[], [], .done (by simp), by simp [Piece.ofHits]⟩
  | case2 prev c tl clause m hm hlen ih =>
    -- a match starts here: it is the first hit, and reading goes on after its closing quote
    obtain ⟨hits, tail, hread, hpieces⟩ := ih
    have hmatch := clause_eq_some_iff.mp (by simpa only [clause, dite_eq_ite] using hm)
    have hfirst : Reading prev ([] ++ m.lead ++ m.specifier ++ m.close :: m.rest)
        (⟨[] ++ m.lead, m.specifier, m.close⟩ :: hits) tail :=
      .hit (by simp) (by simpa [charBefore, hmatch.2.2] using hmatch) hread
    refine ⟨⟨m.lead, m.specifier, m.close⟩ :: hits, tail, ?_, ?_⟩
    · rw [hmatch.2.2]
      simpa using hfirst
    · rw [hpieces]
      simp [Piece.ofHits]
  | case3 prev c tl clause m hm hlen ih =>
    -- the clause found lies within the text, so what follows it is shorter
    have hmatch := clause_eq_some_iff.mp (by simpa only [clause, dite_eq_ite] using hm)
    have hsize := congrArg List.length hmatch.2.2
    simp only [List.length_cons, List.length_append] at hsize
    omega
  | case4 prev c tl clause hm ih =>
    -- no match starts here: the character joins what the reading of the rest finds
    have hnone : ¬ StartsMatch prev (c :: tl) := by
      rintro ⟨lead, spec, close, rest, hmatch⟩
      have hsome := (clause_eq_some_iff (m := ⟨lead, spec, close, rest⟩)).mpr hmatch
      simp only [clause, dite_eq_ite] at hm
      rw [hm] at hsome
      cases hsome
    obtain ⟨hits, tail, hread, hpieces⟩ := ih
    obtain ⟨hits', tail', hread', hpieces'⟩ := Reading.skip hnone hread
    exact ⟨hits', tail', hread', by rw [hpieces, hpieces']⟩

/-- A match that starts right after `gap` is no later than the leftmost match of a reading of
the same text: no match starts before the leftmost one. -/
theorem gap_length_le {before : Option Char} {gap gap' text text' : List Char}
    (heq : gap ++ text = gap' ++ text') (hmatch : StartsMatch (charBefore before gap gap.length) text)
    (hnone : ∀ i < gap'.length, ¬ StartsMatch (charBefore before gap' i) ((gap' ++ text').drop i)) :
    gap'.length ≤ gap.length := by
  by_contra hlt
  rw [Nat.not_le] at hlt
  apply hnone gap.length hlt
  have hchar : charBefore before gap' gap.length = charBefore before gap gap.length := by
    rw [← charBefore_append hlt.le text', ← heq, charBefore_append le_rfl]
  rw [hchar, ← heq, List.drop_left]
  exact hmatch

/-- The match a reading takes after its gap starts within the text, where the gap ends. -/
theorem startsMatch_at_gap {before : Option Char} {gap lead spec : List Char} {close : Char}
    {rest : List Char}
    (here : MatchAt (charBefore before gap gap.length) (lead ++ spec ++ close :: rest)
      lead spec close rest) :
    gap.length < (gap ++ lead ++ spec ++ close :: rest).length ∧
      StartsMatch (charBefore before (gap ++ lead ++ spec ++ close :: rest) gap.length)
        ((gap ++ lead ++ spec ++ close :: rest).drop gap.length) := by
  have hassoc : gap ++ lead ++ spec ++ close :: rest = gap ++ (lead ++ spec ++ close :: rest) := by
    simp
  refine ⟨by simp only [List.length_append, List.length_cons]; omega, ?_⟩
  rw [hassoc, charBefore_append le_rfl, List.drop_left]
  exact ⟨_, _, _, _, here⟩

/-- **There is one reading.** Reading a text from the left, taking the leftmost match each time,
finds one list of matches and one tail. -/
theorem Reading.unique {before : Option Char} {text tail tail' : List Char}
    {hits hits' : List Hit} (h : Reading before text hits tail) (h' : Reading before text hits' tail') :
    hits = hits' ∧ tail = tail' := by
  induction h generalizing hits' tail' with
  | done none_here =>
    cases h' with
    | done => exact ⟨rfl, rfl⟩
    | hit _ here _ =>
      -- the other reading's first match starts where this one says none does
      obtain ⟨hlt, hstart⟩ := startsMatch_at_gap here
      exact absurd hstart (none_here _ hlt)
  | @hit _ gap lead spec close rest hits tail none_before here next ih =>
    generalize htext : gap ++ lead ++ spec ++ close :: rest = text' at h'
    cases h' with
    | done none_here =>
      subst htext
      obtain ⟨hlt, hstart⟩ := startsMatch_at_gap here
      exact absurd hstart (none_here _ hlt)
    | @hit _ gap' lead' spec' close' rest' hs' tl' none_before' here' next' =>
      -- neither first match starts before the other, so they start at one place
      have hassoc : ∀ (g l s : List Char) (q : Char) (r : List Char),
          g ++ l ++ s ++ q :: r = g ++ (l ++ s ++ q :: r) := by simp
      rw [hassoc, hassoc] at htext
      have hle := gap_length_le htext ⟨_, _, _, _, here⟩
        (by simpa only [hassoc] using none_before')
      have hle' := gap_length_le htext.symm ⟨_, _, _, _, here'⟩
        (by simpa only [hassoc] using none_before)
      obtain ⟨rfl, hsame⟩ := List.append_inj htext (Nat.le_antisymm hle' hle)
      obtain ⟨rfl, rfl, rfl, rfl⟩ := here.unique (hsame ▸ here')
      obtain ⟨rfl, rfl⟩ := ih next'
      exact ⟨rfl, rfl⟩

/-- The pieces of a text are those of its reading. -/
theorem pieces_eq_ofHits {s : String} {hits : List Hit} {tail : List Char}
    (h : Reading none s.toList hits tail) : pieces s = Piece.ofHits hits tail := by
  obtain ⟨hits', tail', hread, hpieces⟩ := reading_piecesFrom none s.toList
  obtain ⟨rfl, rfl⟩ := hread.unique h
  exact hpieces

end ModuleGraph.Source
