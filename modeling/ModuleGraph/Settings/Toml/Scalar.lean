import ModuleGraph.Settings.Toml.Syntax

/-!
# Strings and keys of the settings format

Building a document decodes the text of every key part and every string. The four kinds of
strings differ in their quotes, in whether they may span lines, and in whether a backslash
starts an escape. A string spanning lines drops a line break right after its opening quotes,
and reads each line break in it as a line feed.

Escapes are `\b`, `\t`, `\n`, `\f`, `\r`, `\e`, `\"`, `\\`, and a code point in two, four or
eight hexadecimal digits after `\x`, `\u` or `\U`. In a basic string spanning lines, a
backslash before the end of a line removes the line break and the blanks and line breaks
after it.

A bare key part is ASCII letters, digits, `-` and `_`, at least one of them. Each error points
at what is wrong first: a missing quote where it should be, characters a string may not
hold, or the letter of an escape that does not exist.
-/

namespace ModuleGraph.Settings.Toml

/-- The characters of a span. -/
def slice (cs : Array Char) (span : Span) : List Char :=
  (cs.extract span.start span.stop).toList

/-- The value of a hexadecimal digit. -/
def hexDigit? (c : Char) : Option Nat :=
  if '0' ≤ c ∧ c ≤ '9' then some (c.toNat - '0'.toNat)
  else if 'a' ≤ c ∧ c ≤ 'f' then some (c.toNat - 'a'.toNat + 10)
  else if 'A' ≤ c ∧ c ≤ 'F' then some (c.toNat - 'A'.toNat + 10)
  else none

/-- The value of hexadecimal digits. -/
def hexValue (ds : List Char) : Nat :=
  ds.foldl (fun n c => 16 * n + (hexDigit? c).getD 0) 0

/-- The error of an escape whose letter is missing or unknown. -/
def unknownEscape (pos : Nat) : TomlError :=
  ⟨"missing escaped value, expected `b`, `e`, `f`, `n`, `r`, `\\`, `\"`, `x`, `u`, `U`",
    some (Span.point pos)⟩

/-- Reads an escape whose letter is at position `pos`, the head of `cs`. Returns the
character and how many characters of `cs` it took. -/
def readEscape (pos : Nat) (cs : List Char) : Except TomlError (Char × Nat) :=
  match cs with
  | [] => .error (unknownEscape pos)
  | c :: rest =>
    let simple (e : Char) : Except TomlError (Char × Nat) := .ok (e, 1)
    let code (n : Nat) : Except TomlError (Char × Nat) :=
      let ds := (rest.takeWhile fun d => (hexDigit? d).isSome).take n
      let after := pos + 1 + ds.length
      if ds.length < n then
        failAt "too few unicode value digits, expected unicode hexadecimal value"
          (Span.point after)
      else
        let v := hexValue ds
        if v < 0xD800 ∨ (0xDFFF < v ∧ v ≤ 0x10FFFF) then .ok (Char.ofNat v, n + 1)
        else failAt "invalid value, expected unicode scalar value" ⟨pos + 1, after⟩
    if c == 'b' then simple (Char.ofNat 8)
    else if c == 't' then simple '\t'
    else if c == 'n' then simple '\n'
    else if c == 'f' then simple (Char.ofNat 12)
    else if c == 'r' then simple '\r'
    else if c == 'e' then simple (Char.ofNat 27)
    else if c == '"' then simple '"'
    else if c == '\\' then simple '\\'
    else if c == 'x' then code 2
    else if c == 'u' then code 4
    else if c == 'U' then code 8
    else .error (unknownEscape pos)

/-- Characters a basic string holds as themselves: tabs, visible ASCII characters but `"` and
`\`, and every character beyond ASCII. -/
def isBasicChar (c : Char) : Bool :=
  c == '\t' || (0x20 ≤ c.toNat && c.toNat ≤ 0x7E && c != '"' && c != '\\') || 0x80 ≤ c.toNat

/-- Characters a literal string holds: tabs, visible ASCII characters but `'`, and every
character beyond ASCII. -/
def isLiteralChar (c : Char) : Bool :=
  c == '\t' || (0x20 ≤ c.toNat && c.toNat ≤ 0x7E && c != '\'') || 0x80 ≤ c.toNat

/-- The content between the quotes of a string, and the position where it starts: the run
`quote` must open `raw` (which starts at `start`) and another must close it. A missing
opening run is an error at the start, a missing closing run at the end. -/
def unquote (message : String) (quote : List Char) (start : Nat) (raw : List Char) :
    Except TomlError (List Char × Nat) :=
  if !quote.isPrefixOf raw then failAt message (Span.point start)
  else
    let inner := raw.drop quote.length
    if quote.length ≤ inner.length && quote.isSuffixOf inner then
      .ok (inner.take (inner.length - quote.length), start + quote.length)
    else failAt message (Span.point (start + raw.length))

/-- Drops a line break at the start of the content of a string spanning lines. -/
def dropOpeningBreak (content : List Char) (pos : Nat) : List Char × Nat :=
  match content with
  | '\n' :: rest => (rest, pos + 1)
  | '\r' :: '\n' :: rest => (rest, pos + 2)
  | _ => (content, pos)

theorem length_drop_lt {α : Type} (rest : List α) (a : α) (k : Nat) :
    (rest.drop k).length < (a :: rest).length := by
  simp only [List.length_drop, List.length_cons]
  omega

/-- Decodes the content of a basic string on one line, its first character at `pos`. -/
def basicContent (pos : Nat) (acc : String) : List Char → Except TomlError String
  | [] => .ok acc
  | c :: rest =>
    if c == '\\' then
      match readEscape (pos + 1) rest with
      | .error e => .error e
      | .ok (e, k) =>
        have := length_drop_lt rest c k
        basicContent (pos + 1 + k) (acc.push e) (rest.drop k)
    else if isBasicChar c then basicContent (pos + 1) (acc.push c) rest
    else
      let run := (c :: rest).takeWhile fun d => !isBasicChar d && d != '\\'
      failAt "invalid basic string, expected non-double-quote visible characters, `\\`"
        ⟨pos, pos + run.length⟩
termination_by cs => cs.length

/-- Decodes a basic string on one line. -/
def decodeBasic (cs : Array Char) (span : Span) : Except TomlError String := do
  let (content, pos) ← unquote "invalid basic string, expected `\"`" ['"'] span.start
    (slice cs span)
  basicContent pos "" content

/-- Decodes a literal string on one line. -/
def decodeLiteral (cs : Array Char) (span : Span) : Except TomlError String := do
  let (content, pos) ← unquote "invalid literal string, expected `'`" ['\''] span.start
    (slice cs span)
  match (content.zipIdx pos).find? (fun (c, _) => !isLiteralChar c) with
  | some (_, p) =>
    failAt "invalid literal string, expected non-single-quote visible characters" (Span.point p)
  | none => pure (String.ofList content)

/-- The number of characters from the head of `cs` that a line-ending backslash removes
after the blanks before the line break: the line break, and the blanks and line breaks after
it. `pos` is the position of the head. -/
def lineContinuation (pos : Nat) (cs : List Char) : Except TomlError Nat :=
  let skipTrail (more : List Char) : Nat :=
    let rec go : List Char → Nat
      | ' ' :: r => go r + 1
      | '\t' :: r => go r + 1
      | '\n' :: r => go r + 1
      | '\r' :: '\n' :: r => go r + 2
      | _ => 0
    go more
  match cs with
  | '\n' :: rest => .ok (1 + skipTrail rest)
  | '\r' :: '\n' :: rest => .ok (2 + skipTrail rest)
  | '\r' :: _ =>
    failAt "carriage return must be followed by newline, expected newline" (Span.point (pos + 1))
  | _ => failAt "invalid multi-line basic string, expected newline" (Span.point pos)

/-- Characters a basic string spanning lines holds as themselves, line breaks aside. -/
def isMultiBasicChar (c : Char) : Bool := isBasicChar c || c == '"'

/-- Decodes the content of a basic string spanning lines, its first character at `pos`. -/
def multiBasicContent (pos : Nat) (acc : String) : List Char → Except TomlError String
  | [] => .ok acc
  | c :: rest =>
    if c == '\\' then
      let blanks := (rest.takeWhile isBlank).length
      match rest.drop blanks with
      | d :: _ =>
        if blanks > 0 || d == '\n' || d == '\r' then
          match lineContinuation (pos + 1 + blanks) (rest.drop blanks) with
          | .error e => .error e
          | .ok k =>
            have := length_drop_lt rest c (blanks + k)
            multiBasicContent (pos + 1 + blanks + k) acc (rest.drop (blanks + k))
        else
          match readEscape (pos + 1) rest with
          | .error e => .error e
          | .ok (e, k) =>
            have := length_drop_lt rest c k
            multiBasicContent (pos + 1 + k) (acc.push e) (rest.drop k)
      | [] =>
        if blanks > 0 then
          failAt "invalid multi-line basic string, expected newline" (Span.point (pos + 1 + blanks))
        else .error (unknownEscape (pos + 1))
    else if c == '\n' then multiBasicContent (pos + 1) (acc.push '\n') rest
    else if c == '\r' && rest.head? == some '\n' then
      have := length_drop_lt rest c 1
      multiBasicContent (pos + 2) (acc.push '\n') (rest.drop 1)
    else if isMultiBasicChar c then multiBasicContent (pos + 1) (acc.push c) rest
    else
      let run := rest.takeWhile fun d => !isMultiBasicChar d && d != '\\' && d != '\n' && d != '\r'
      failAt "invalid multi-line basic string, expected `\\`, characters"
        ⟨pos, pos + 1 + run.length⟩
termination_by cs => cs.length

/-- Decodes a basic string spanning lines. -/
def decodeMultiBasic (cs : Array Char) (span : Span) : Except TomlError String := do
  let (content, pos) ← unquote "invalid multi-line basic string, expected `\"`"
    ['"', '"', '"'] span.start (slice cs span)
  let (content, pos) := dropOpeningBreak content pos
  multiBasicContent pos "" content

/-- Decodes the content of a literal string spanning lines, its first character at `pos`. -/
def multiLiteralContent (pos : Nat) (acc : String) : List Char → Except TomlError String
  | [] => .ok acc
  | c :: rest =>
    if c == '\n' || isLiteralChar c || c == '\'' then
      multiLiteralContent (pos + 1) (acc.push c) rest
    else if c == '\r' && rest.head? == some '\n' then
      have := length_drop_lt rest c 1
      multiLiteralContent (pos + 2) (acc.push '\n') (rest.drop 1)
    else failAt "invalid multi-line literal string, expected characters" (Span.point pos)
termination_by cs => cs.length

/-- Decodes a literal string spanning lines. -/
def decodeMultiLiteral (cs : Array Char) (span : Span) : Except TomlError String := do
  let (content, pos) ← unquote "invalid multi-line literal string, expected `'`"
    ['\'', '\'', '\''] span.start (slice cs span)
  let (content, pos) := dropOpeningBreak content pos
  multiLiteralContent pos "" content

/-- Decodes a string of any of the four kinds. -/
def decodeString (cs : Array Char) (span : Span) : Quoting → Except TomlError String
  | .literal => decodeLiteral cs span
  | .basic => decodeBasic cs span
  | .multiLiteral => decodeMultiLiteral cs span
  | .multiBasic => decodeMultiBasic cs span
  | .bare => .ok (String.ofList (slice cs span))

/-- Characters of a bare key part. -/
def isBareKeyChar (c : Char) : Bool :=
  (c.isAlphanum && c.toNat < 128) || c == '_' || c == '-'

/-- Decodes a bare key part. -/
def decodeBareKey (cs : Array Char) (span : Span) : Except TomlError String :=
  let raw := slice cs span
  let expected := ", expected letters, numbers, `-`, `_`"
  if raw.isEmpty then failAt ("unquoted keys cannot be empty" ++ expected) span
  else
    let good := (raw.takeWhile isBareKeyChar).length
    if good = raw.length then .ok (String.ofList raw)
    else
      let bad := ((raw.drop good).takeWhile fun c => !isBareKeyChar c).length
      failAt ("invalid unquoted key" ++ expected) ⟨span.start + good, span.start + good + bad⟩

/-- Decodes a key part. Strings spanning lines cannot be keys. -/
def decodeKey (cs : Array Char) (part : KeyPart) : Except TomlError String :=
  match part.quoting with
  | .bare => decodeBareKey cs part.span
  | .literal => decodeLiteral cs part.span
  | .basic => decodeBasic cs part.span
  | .multiLiteral =>
    failAt "keys cannot be multi-line literal strings, expected literal string" part.span
  | .multiBasic => failAt "keys cannot be multi-line basic strings, expected basic string" part.span

end ModuleGraph.Settings.Toml
