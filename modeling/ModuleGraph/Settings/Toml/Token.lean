import ModuleGraph.Settings.Toml.Error

/-!
# Tokens of the settings format

Reading a document starts by cutting its characters into tokens. Punctuation (`.`, `=`,
`,`, brackets and braces) is one character each; a run of spaces and tabs is one blank; a
comment runs from `#` to the end of its line; a line break is a line feed, a carriage return
and a line feed, or a lone carriage return. A quote starts a string of one of four kinds,
and anything else starts bare text, which runs up to the next character that could start
another token.

Cutting never fails. A string that is not closed runs to the end of its line (or, for the
kinds that span lines, to the end of the input), and the stages after this one say what is
wrong with it. Every token takes at least one character, and the list ends with a token of
no characters at the end of the input, so the stages after this one always find a token
to look at.
-/

namespace ModuleGraph.Settings.Toml

/-- How the text of a token is quoted: bare, or one of the four kinds of strings. -/
inductive Quoting where
  | bare
  | literal
  | basic
  | multiLiteral
  | multiBasic
  deriving DecidableEq, Repr, Inhabited

/-- The kinds of tokens. -/
inductive TokenKind where
  | dot
  | equals
  | comma
  | openSquare
  | closeSquare
  | openCurly
  | closeCurly
  | blank
  | comment
  | newline
  /-- Bare text or a string. -/
  | text (quoting : Quoting)
  /-- The end of the input. -/
  | eof
  deriving DecidableEq, Repr, Inhabited

/-- A token: its kind and the characters it covers. -/
structure Token where
  kind : TokenKind
  span : Span
  deriving Repr, Inhabited

/-- Spaces and tabs. -/
def isBlank (c : Char) : Bool := c == ' ' || c == '\t'

/-- The characters at which bare text stops, because they start or separate tokens. -/
def isTokenStart (c : Char) : Bool :=
  c == '.' || c == '=' || c == ',' || c == '[' || c == ']' || c == '\x7b' || c == '\x7d' ||
    c == ' ' || c == '\t' || c == '#' || c == '\r' || c == '\n' || c == '\'' || c == '"'

/-- The position of the first character from `i` on for which `p` fails. -/
def skipWhile (p : Char → Bool) (cs : Array Char) (i : Nat) : Nat :=
  if h : i < cs.size then
    if p cs[i] then skipWhile p cs (i + 1) else i
  else i
termination_by cs.size - i

/-- Whether the characters from `i` spell `word`. -/
def spells (cs : Array Char) (i : Nat) (word : List Char) : Bool :=
  (cs.extract i (i + word.length)).toList == word

/-- The position after a closing run of three `quote`s found at `i`, taking up to two more
`quote`s, which belong to the string's content. -/
def closingRun (quote : Char) (cs : Array Char) (i : Nat) : Nat :=
  let j := i + 3
  if cs[j]? == some quote then (if cs[j + 1]? == some quote then j + 2 else j + 1) else j

/-- The end of a literal string whose content starts at `i`: after its closing quote, or at
the end of its line. -/
def literalEnd (cs : Array Char) (i : Nat) : Nat :=
  let j := skipWhile (fun c => c != '\'' && c != '\n') cs i
  if cs[j]? == some '\'' then j + 1 else j

/-- The end of a basic string whose content starts at `i`: after its closing quote, or at
the end of its line. A backslash keeps the backslash or quote after it in the string. -/
def basicEnd (cs : Array Char) (i : Nat) : Nat :=
  if h : i < cs.size then
    let c := cs[i]
    if c == '"' then i + 1
    else if c == '\n' then i
    else if c == '\\' then
      if cs[i + 1]? == some '\\' || cs[i + 1]? == some '"' then basicEnd cs (i + 2)
      else basicEnd cs (i + 1)
    else basicEnd cs (i + 1)
  else i
termination_by cs.size - i

/-- The end of a literal string spanning lines whose content starts at `i`: after its
closing run of quotes, or the end of the input. -/
def multiLiteralEnd (cs : Array Char) (i : Nat) : Nat :=
  if h : i < cs.size then
    if spells cs i ['\'', '\'', '\''] then closingRun '\'' cs i
    else multiLiteralEnd cs (i + 1)
  else i
termination_by cs.size - i

/-- The end of a basic string spanning lines whose content starts at `i`: after its closing
run of quotes, or the end of the input. A backslash keeps the backslash or quote after it in
the string. -/
def multiBasicEnd (cs : Array Char) (i : Nat) : Nat :=
  if h : i < cs.size then
    if spells cs i ['"', '"', '"'] then closingRun '"' cs i
    else if cs[i] == '\\' then
      if cs[i + 1]? == some '\\' || cs[i + 1]? == some '"' then multiBasicEnd cs (i + 2)
      else multiBasicEnd cs (i + 1)
    else multiBasicEnd cs (i + 1)
  else i
termination_by cs.size - i

/-- The token that starts at `i`, which is before the end of the input. -/
def tokenAt (cs : Array Char) (i : Nat) (c : Char) : Token :=
  let one (k : TokenKind) : Token := ⟨k, ⟨i, i + 1⟩⟩
  if c == '.' then one .dot
  else if c == '=' then one .equals
  else if c == ',' then one .comma
  else if c == '[' then one .openSquare
  else if c == ']' then one .closeSquare
  else if c == '\x7b' then one .openCurly
  else if c == '\x7d' then one .closeCurly
  else if isBlank c then ⟨.blank, ⟨i, skipWhile isBlank cs i⟩⟩
  else if c == '#' then ⟨.comment, ⟨i, skipWhile (fun c => c != '\r' && c != '\n') cs i⟩⟩
  else if c == '\n' then one .newline
  else if c == '\r' then
    ⟨.newline, ⟨i, if cs[i + 1]? == some '\n' then i + 2 else i + 1⟩⟩
  else if c == '\'' then
    if spells cs i ['\'', '\'', '\''] then
      ⟨.text .multiLiteral, ⟨i, multiLiteralEnd cs (i + 3)⟩⟩
    else ⟨.text .literal, ⟨i, literalEnd cs (i + 1)⟩⟩
  else if c == '"' then
    if spells cs i ['"', '"', '"'] then ⟨.text .multiBasic, ⟨i, multiBasicEnd cs (i + 3)⟩⟩
    else ⟨.text .basic, ⟨i, basicEnd cs (i + 1)⟩⟩
  else ⟨.text .bare, ⟨i, skipWhile (fun c => !isTokenStart c) cs i⟩⟩

/-- The tokens from position `i` on, the end token last; `fuel` bounds the number of
tokens, and the input's length is enough. -/
def tokensFrom (cs : Array Char) : Nat → Nat → List Token
  | 0, i => [⟨.eof, ⟨i, i⟩⟩]
  | fuel + 1, i =>
    match cs[i]? with
    | none => [⟨.eof, ⟨i, i⟩⟩]
    | some c =>
      let t := tokenAt cs i c
      t :: tokensFrom cs fuel (max t.span.stop (i + 1))

/-- The tokens of a document. A byte order mark at the start is no token. -/
def tokenize (cs : Array Char) : Array Token :=
  let start := if cs[0]? == some (Char.ofNat 0xFEFF) then 1 else 0
  (tokensFrom cs (cs.size + 1) start).toArray

/-- The characters a comment may hold: tabs, visible ASCII characters and every character
beyond ASCII. -/
def isCommentChar (c : Char) : Bool :=
  c == '\t' || (0x20 ≤ c.toNat && c.toNat ≤ 0x7E) || 0x80 ≤ c.toNat

/-- Checks the characters of a comment: the first that may not stand in a comment is the
error. -/
def checkComment (cs : Array Char) (span : Span) : Except TomlError Unit :=
  match (List.range (span.stop - span.start)).find? (fun k =>
      !isCommentChar (cs[span.start + k]?.getD ' ')) with
  | some k =>
    let pos := span.start + k
    .error ⟨"invalid comment character, expected printable characters", some ⟨pos, pos⟩⟩
  | none => .ok ()

/-- Checks a line break: a carriage return must be followed by a line feed. -/
def checkNewline (cs : Array Char) (span : Span) : Except TomlError Unit :=
  if span.stop = span.start + 1 && cs[span.start]? == some '\r' then
    .error ⟨"carriage return must be followed by newline, expected newline",
      some ⟨span.stop, span.stop⟩⟩
  else .ok ()

end ModuleGraph.Settings.Toml
