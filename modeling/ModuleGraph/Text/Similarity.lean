/-!
# Similarity of words

The Jaro similarity of two words, a number from 0 to 1, measures how many characters they
share near the same place, and how many of the shared characters stand in another order.
A character of the first word matches the first unmatched equal character of the second
word whose position is within a window of the first one's; the window is half the longer
length, less one. With `m` matches, of which `t` pairs are out of order, the similarity is
the mean of `m / |a|`, `m / |b|` and `(m - t) / m`, computed in doubles in that order.

A misspelled word is matched with the candidates more similar to it than `0.7`; the most
similar one is suggested, the last of them when several are equally similar.
-/

namespace ModuleGraph.Text

/-- The first position from `lo` below `hi` where `b` holds `c` and is not yet taken. -/
def firstFree (c : Char) (b : List Char) (taken : List Bool) (lo hi : Nat) : Option Nat :=
  ((List.range hi).filter (lo ≤ ·)).find? fun j => b[j]? == some c && taken[j]? == some false

/-- Matches the characters of `a`, the first at position `i`, against `b`: whether each
character of `a` matched, and which characters of `b` are taken at the end. -/
def markMatches (b : List Char) (window : Nat) : Nat → List Char → List Bool →
    List Bool × List Bool
  | _, [], taken => ([], taken)
  | i, c :: rest, taken =>
    match firstFree c b taken (i - window) (min b.length (i + window + 1)) with
    | some j =>
      let (marks, taken) := markMatches b window (i + 1) rest (taken.set j true)
      (true :: marks, taken)
    | none =>
      let (marks, taken) := markMatches b window (i + 1) rest taken
      (false :: marks, taken)

/-- The characters whose mark is set, in order. -/
def marked (cs : List Char) (marks : List Bool) : List Char :=
  (cs.zip marks).filterMap fun (c, m) => if m then some c else none

/-- The Jaro similarity of two words. -/
def jaro (a b : String) : Float :=
  let a := a.toList
  let b := b.toList
  if a.isEmpty && b.isEmpty then 1.0
  else if a.isEmpty || b.isEmpty then 0.0
  else
    let window := max a.length b.length / 2 - 1
    let (marks, taken) := markMatches b window 0 a (List.replicate b.length false)
    let ma := marked a marks
    let mb := marked b taken
    let m := ma.length
    let t := ((ma.zip mb).filter fun (x, y) => x != y).length / 2
    if m = 0 then 0.0
    else
      (m.toFloat / a.length.toFloat + m.toFloat / b.length.toFloat +
        (m - t).toFloat / m.toFloat) / 3.0

/-- The candidate to suggest for a misspelled word: of those more similar than `0.7`, the
most similar, and the last of the most similar. -/
def suggest (word : String) (candidates : List String) : Option String :=
  let scored := candidates.map fun c => (jaro word c, c)
  let best := scored.foldl (fun (acc : Option (Float × String)) (s, c) =>
    if s > 0.7 then
      match acc with
      | some (bs, _) => if s >= bs then some (s, c) else acc
      | none => some (s, c)
    else acc) none
  best.map (·.2)

end ModuleGraph.Text
