/-!
# Blank characters

The characters that a pattern's "white space" class matches: the ASCII controls from tab
to carriage return, the space, the next-line control, the no-break spaces, the Ogham space
mark, the typographic spaces, the line and paragraph separators, and the ideographic space.
A zero-width space is not among them.
-/

namespace ModuleGraph.Text

/-- Inclusive ranges of the code points of blank characters, in order. -/
def blankRanges : List (Nat × Nat) :=
  [(0x9, 0xD), (0x20, 0x20), (0x85, 0x85), (0xA0, 0xA0), (0x1680, 0x1680),
   (0x2000, 0x200A), (0x2028, 0x2029), (0x202F, 0x202F), (0x205F, 0x205F),
   (0x3000, 0x3000)]

/-- Whether a character is blank. -/
def isBlank (c : Char) : Bool :=
  let n := c.toNat
  blankRanges.any fun r => r.1 ≤ n && n ≤ r.2

/-- Every character that the core library calls white space is blank. -/
theorem isBlank_of_isWhitespace (c : Char) (h : c.isWhitespace = true) : isBlank c = true := by
  simp only [Char.isWhitespace, Bool.or_eq_true, decide_eq_true_eq] at h
  rcases h with ((h | h) | h) | h <;>
    simp [isBlank, blankRanges, h]

end ModuleGraph.Text
