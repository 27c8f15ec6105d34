/-!
# Errors of the settings format

An error of the settings reader has a message and, usually, the span of the input it is
about. Its diagnostic shows the line of the input that the span starts on, with carets
under the span:

```
TOML parse error at line 1, column 9
  |
1 | cache = 3
  |         ^
data did not match any variant of untagged enum Raw
```

Positions are counted in characters, from zero; lines and columns are shown from one.
-/

namespace ModuleGraph.Settings.Toml

/-- A span of the input: the characters from `start` up to, not including, `stop`. -/
structure Span where
  start : Nat
  stop : Nat
  deriving DecidableEq, Repr, Inhabited

/-- An error of the settings reader. -/
structure TomlError where
  message : String
  span : Option Span
  deriving Repr, Inhabited

/-- The line and column (both from zero) of a character position. A position at or past
the end counts from the last character. -/
def position (cs : List Char) (index : Nat) : Nat × Nat :=
  if cs.isEmpty then (0, index)
  else
    let safe := min index (cs.length - 1)
    let before := cs.take safe
    let line := before.count '\n'
    let column := (before.reverse.takeWhile (· != '\n')).length
    (line, column + (index - safe))

/-- The diagnostic of an error on the given input, ending with a line feed. -/
def TomlError.render (input : String) (e : TomlError) : String :=
  match e.span with
  | none => e.message ++ "\n"
  | some span =>
    let cs := input.toList
    let (line, column) := position cs span.start
    let lineNum := toString (line + 1)
    let gutter := String.ofList (List.replicate (lineNum.length + 1) ' ')
    let content := (input.splitOn "\n").getD line ""
    let spanBytes :=
      (String.ofList ((cs.drop span.start).take (span.stop - span.start))).utf8ByteSize
    let highlight := min spanBytes (content.utf8ByteSize - column)
    "TOML parse error at line " ++ lineNum ++ ", column " ++ toString (column + 1) ++ "\n" ++
      gutter ++ "|\n" ++
      lineNum ++ " | " ++ content ++ "\n" ++
      gutter ++ "|" ++ String.ofList (List.replicate (column + 1) ' ') ++ "^" ++
      String.ofList (List.replicate (highlight - 1) '^') ++ "\n" ++
      e.message ++ "\n"

end ModuleGraph.Settings.Toml
