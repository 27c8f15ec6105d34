import ModuleGraph.Settings.Toml.Token

/-!
# The grammar of settings documents

The second stage reads the tokens as a list of statements: table headers `[a.b]`, headers of
arrays of tables `[[a.b]]`, and pairs `key = value`, where a key is parts joined by dots and a
value is text, an array `[...]` or an inline table `{...}`. Arrays and inline tables may span
lines, hold comments, and end with a comma after their last entry.

This stage checks only the order of the tokens, and comments and line breaks on the way: the
first token out of place is the error. What a key or a scalar says is checked later, when the
document is built. So a part missing from a key, or a value missing after `=`, is no error
here: the statement gets an empty bare part or value in its place, which the later stage
rejects with its own message.

Bare text that runs on with dots, more bare text, or blanks followed by bare text is one
scalar, so that `1.5` and `1979-05-27 07:32` are one value each, and `1 2` is one value too,
which is rejected as text that should have been quoted.

Arrays and inline tables may nest eighty deep; the eighty-first bracket is an error.
-/

namespace ModuleGraph.Settings.Toml

/-- A part of a key as written: where it stands and how it is quoted. -/
structure KeyPart where
  span : Span
  quoting : Quoting
  deriving Repr, Inhabited

/-- A value as written. -/
inductive Written where
  /-- Bare text or a string. -/
  | scalar (span : Span) (quoting : Quoting)
  | array (span : Span) (items : List Written)
  | inline (span : Span) (pairs : List (List KeyPart × Written))
  deriving Inhabited

/-- A statement of a document. -/
inductive Statement where
  /-- A table header, or with `isArray` the header of an array of tables. -/
  | header (isArray : Bool) (span : Span) (key : List KeyPart)
  | pair (key : List KeyPart) (value : Written)
  deriving Inhabited

/-- The span of no characters at a position. -/
def Span.point (pos : Nat) : Span := ⟨pos, pos⟩

/-- An error at a span. -/
def failAt {α : Type} (message : String) (span : Span) : Except TomlError α :=
  .error ⟨message, some span⟩

/-- The deepest nesting of arrays and inline tables. -/
def nestingLimit : Nat := 80

/-- The characters of a document and its tokens. -/
structure Source where
  chars : Array Char
  tokens : Array Token

namespace Source

/-- The token at an index; past the last token, the end of the input. -/
def tok (s : Source) (i : Nat) : Token :=
  s.tokens[i]?.getD ⟨.eof, Span.point s.chars.size⟩

/-- The kind of the token at an index. -/
def kind (s : Source) (i : Nat) : TokenKind := (s.tok i).kind

/-- The index of the first token from `i` on that is not a blank. -/
def skipBlanks (s : Source) (i : Nat) : Nat :=
  if h : i < s.tokens.size then
    if s.tokens[i].kind == .blank then s.skipBlanks (i + 1) else i
  else i
termination_by s.tokens.size - i

/-- The end of the last token before index `i` that is not a blank. -/
def lastNonBlankStop (s : Source) : Nat → Nat
  | 0 => 0
  | i + 1 => if s.kind i == .blank then s.lastNonBlankStop i else (s.tok i).span.stop

/-- The end of the last token before index `i` that is not a blank, a comment or a line
break. -/
def lastSignificantStop (s : Source) : Nat → Nat
  | 0 => 0
  | i + 1 =>
    match s.kind i with
    | .blank | .comment | .newline | .eof => s.lastSignificantStop i
    | _ => (s.tok i).span.stop

/-- The index after the bare text and dots that continue a scalar from index `i`. -/
def scalarEnd (s : Source) (i : Nat) : Nat :=
  if h : i < s.tokens.size then
    match s.tokens[i].kind with
    | .text .bare | .dot => s.scalarEnd (i + 1)
    | .blank => if s.kind (i + 1) == .text .bare then s.scalarEnd (i + 2) else i
    | _ => i
  else i
termination_by s.tokens.size - i

/-- The end of a line after a statement: blanks, then a comment, a line break or the end of
the input. Returns the index after the line break or the comment. -/
def lineEnd (s : Source) (i : Nat) : Except TomlError Nat :=
  let j := s.skipBlanks i
  let t := s.tok j
  match t.kind with
  | .comment => (checkComment s.chars t.span).map fun _ => j + 1
  | .newline => (checkNewline s.chars t.span).map fun _ => j + 1
  | .eof => .ok j
  | _ => failAt "unexpected key or value, expected newline, `#`" t.span

/-- Skips the rest of a line whose statement was cut short, checking its comment and line
break. -/
def skipLine (s : Source) (i : Nat) : Except TomlError Nat :=
  if h : i < s.tokens.size then
    let t := s.tokens[i]
    match t.kind with
    | .newline => (checkNewline s.chars t.span).map fun _ => i + 1
    | .eof => .ok i
    | .comment =>
      match checkComment s.chars t.span with
      | .error e => .error e
      | .ok _ => s.skipLine (i + 1)
    | _ => s.skipLine (i + 1)
  else .ok i
termination_by s.tokens.size - i

/-- Checks a comment or line break token; other tokens need no check. -/
def checkTrivia (s : Source) (t : Token) : Except TomlError Unit :=
  match t.kind with
  | .comment => checkComment s.chars t.span
  | .newline => checkNewline s.chars t.span
  | _ => .ok ()

mutual
/-- Reads a key from index `i`, where a part is expected. Returns the parts, the index after
the key with the blanks after it skipped, and whether every part was written. A token that
cannot continue the key ends it with an empty part, and is not consumed. -/
def keyFrom (s : Source) : Nat → Nat → List KeyPart → List KeyPart × Nat × Bool
  | 0, i, acc => (acc, i, false)
  | fuel + 1, i, acc =>
    let t := s.tok i
    match t.kind with
    | .blank => s.keyFrom fuel (i + 1) acc
    | .dot => s.keyFrom fuel (i + 1) (acc ++ [⟨Span.point t.span.start, .bare⟩])
    | .text q => s.afterPart fuel (i + 1) (acc ++ [⟨t.span, q⟩])
    | _ => (acc ++ [⟨Span.point t.span.start, .bare⟩], i, false)

/-- Continues a key after a part: a dot asks for another part. -/
def afterPart (s : Source) : Nat → Nat → List KeyPart → List KeyPart × Nat × Bool
  | 0, i, acc => (acc, i, false)
  | fuel + 1, i, acc =>
    let j := s.skipBlanks i
    if s.kind j == .dot then s.keyFrom fuel (j + 1) acc else (acc, j, true)
end

/-- The error when the fuel of the grammar runs out, which the fuel given is enough to
avoid. -/
def exhausted {α : Type} : Except TomlError α := .error ⟨"document too large", none⟩

/-- What an inline table expects next. -/
inductive Expecting where
  | key
  | equals (key : List KeyPart)
  | value (key : List KeyPart)
  | comma
  deriving Inhabited

mutual
/-- Reads a value at index `i`, inside `depth` arrays and inline tables. A value missing
before a comment, comma, line break or the end of the input is an empty bare scalar there. -/
def value (s : Source) : Nat → Nat → Nat → Except TomlError (Written × Nat)
  | 0, _, _ => exhausted
  | fuel + 1, depth, i =>
    let t := s.tok i
    match t.kind with
    | .comment | .comma | .newline | .eof | .blank =>
      .ok (.scalar (Span.point t.span.start) .bare, i)
    | .equals => failAt "extra `=`, expected nothing" t.span
    | .openCurly => s.inline fuel depth i
    | .closeCurly =>
      failAt "missing inline table opening, expected `\x7b`" (Span.point t.span.start)
    | .openSquare => s.array fuel depth i
    | .closeSquare => failAt "missing array opening, expected `[`" (Span.point t.span.start)
    | .text .bare | .dot =>
      let j := s.scalarEnd (i + 1)
      .ok (.scalar ⟨t.span.start, (s.tok (j - 1)).span.stop⟩ .bare, j)
    | .text q => .ok (.scalar t.span q, i + 1)

/-- Reads an array whose `[` is at index `i`. -/
def array (s : Source) : Nat → Nat → Nat → Except TomlError (Written × Nat)
  | 0, _, _ => exhausted
  | fuel + 1, depth, i =>
    let t := s.tok i
    if nestingLimit < depth + 1 then
      failAt "cannot recurse further; max recursion depth met" t.span
    else s.arrayItems fuel (depth + 1) t.span.start (i + 1) true []

/-- Reads the items of an array opened at position `start`, from index `i` on;
`needsValue` says whether an item may come next (after `[` or a comma). -/
def arrayItems (s : Source) : Nat → Nat → Nat → Nat → Bool → List Written →
    Except TomlError (Written × Nat)
  | 0, _, _, _, _, _ => exhausted
  | fuel + 1, depth, start, i, needsValue, acc =>
    let t := s.tok i
    match t.kind with
    | .blank | .comment | .newline =>
      match s.checkTrivia t with
      | .error e => .error e
      | .ok _ => s.arrayItems fuel depth start (i + 1) needsValue acc
    | .eof =>
      failAt "unclosed array, expected `]`" (Span.point (s.lastSignificantStop i))
    | .comma =>
      if needsValue then failAt "extra comma in array, expected value" t.span
      else s.arrayItems fuel depth start (i + 1) true acc
    | .closeSquare => .ok (.array ⟨start, t.span.stop⟩ acc.reverse, i + 1)
    | _ =>
      if needsValue then
        match s.value fuel depth i with
        | .error e => .error e
        | .ok (v, j) => s.arrayItems fuel depth start j false (v :: acc)
      else failAt "missing comma between array elements, expected `,`" (Span.point t.span.start)

/-- Reads an inline table whose `\x7b` is at index `i`. -/
def inline (s : Source) : Nat → Nat → Nat → Except TomlError (Written × Nat)
  | 0, _, _ => exhausted
  | fuel + 1, depth, i =>
    let t := s.tok i
    if nestingLimit < depth + 1 then
      failAt "cannot recurse further; max recursion depth met" t.span
    else s.inlinePairs fuel (depth + 1) t.span.start (i + 1) .key []

/-- Reads the pairs of an inline table opened at position `start`, from index `i` on. A key
cut short by a comma or the closing brace gets a value that is not a valid string. -/
def inlinePairs (s : Source) : Nat → Nat → Nat → Nat → Expecting →
    List (List KeyPart × Written) → Except TomlError (Written × Nat)
  | 0, _, _, _, _, _ => exhausted
  | fuel + 1, depth, start, i, expecting, acc =>
    let t := s.tok i
    let missing : Written := .scalar (Span.point t.span.start) .literal
    let close (pairs : List (List KeyPart × Written)) : Except TomlError (Written × Nat) :=
      .ok (.inline ⟨start, t.span.stop⟩ pairs.reverse, i + 1)
    match t.kind, expecting with
    | .blank, _ | .comment, _ | .newline, _ =>
      match s.checkTrivia t with
      | .error e => .error e
      | .ok _ => s.inlinePairs fuel depth start (i + 1) expecting acc
    | .eof, _ =>
      failAt "unclosed inline table, expected `\x7d`" (Span.point (s.lastSignificantStop i))
    | .comma, .key => failAt "extra comma in inline table, expected key" t.span
    | .comma, .equals k | .comma, .value k =>
      s.inlinePairs fuel depth start (i + 1) .key ((k, missing) :: acc)
    | .comma, .comma => s.inlinePairs fuel depth start (i + 1) .key acc
    | .closeCurly, .equals k | .closeCurly, .value k => close ((k, missing) :: acc)
    | .closeCurly, _ => close acc
    | .equals, .key =>
      s.inlinePairs fuel depth start (i + 1) (.value [⟨Span.point t.span.start, .bare⟩]) acc
    | .equals, .equals k => s.inlinePairs fuel depth start (i + 1) (.value k) acc
    | _, .value k =>
      match s.value fuel depth i with
      | .error e => .error e
      | .ok (v, j) => s.inlinePairs fuel depth start j .comma ((k, v) :: acc)
    | _, .comma =>
      failAt "missing comma between key-value pairs, expected `,`" (Span.point t.span.start)
    | _, .key =>
      let (k, j, _) := s.keyFrom fuel i []
      s.inlinePairs fuel depth start j (.equals k) acc
    | _, .equals _ => failAt "key with no value, expected `=`" (Span.point t.span.start)
end

/-- Reads a table header whose first `[` is at index `i`. -/
def header (s : Source) (fuel i : Nat) : Except TomlError (Statement × Nat) :=
  let opening := s.tok i
  let isArray := s.kind (i + 1) == .openSquare
  let (key, j, written) := s.keyFrom fuel (if isArray then i + 2 else i + 1) []
  let j := s.skipBlanks j
  let closing := s.tok j
  if closing.kind == .closeSquare then
    if isArray then
      if s.kind (j + 1) == .closeSquare then
        (s.lineEnd (j + 2)).map fun k =>
          (.header true ⟨opening.span.start, (s.tok (j + 1)).span.stop⟩ key, k)
      else failAt "unclosed array table, expected `]`" (Span.point closing.span.stop)
    else
      (s.lineEnd (j + 1)).map fun k =>
        (.header false ⟨opening.span.start, closing.span.stop⟩ key, k)
  else if written then
    let pos := s.lastNonBlankStop j
    if isArray then failAt "unclosed array table, expected `]]`" (Span.point pos)
    else failAt "unclosed table, expected `]`" (Span.point pos)
  else (s.skipLine j).map fun k => (.header isArray (Span.point opening.span.start) key, k)

/-- Reads the rest of a pair whose key ended before index `j`: `=`, the value, and the end
of the line. -/
def pair (s : Source) (fuel : Nat) (key : List KeyPart) (j : Nat) :
    Except TomlError (Statement × Nat) :=
  let t := s.tok j
  if t.kind == .equals then
    match s.value fuel 0 (s.skipBlanks (j + 1)) with
    | .error e => .error e
    | .ok (v, k) => (s.lineEnd k).map fun k => (.pair key v, k)
  else failAt "key with no value, expected `=`" (Span.point t.span.start)

/-- Reads the statements from index `i` on. -/
def statements (s : Source) : Nat → Nat → List Statement → Except TomlError (List Statement)
  | 0, _, _ => exhausted
  | fuel + 1, i, acc =>
    let t := s.tok i
    let continueWith (r : Except TomlError (Statement × Nat)) :
        Except TomlError (List Statement) :=
      match r with
      | .error e => .error e
      | .ok (st, j) => s.statements fuel j (st :: acc)
    match t.kind with
    | .eof => .ok acc.reverse
    | .blank | .comment | .newline =>
      match s.checkTrivia t with
      | .error e => .error e
      | .ok _ => s.statements fuel (i + 1) acc
    | .openSquare => continueWith (s.header fuel i)
    | .closeSquare => failAt "missing table opening, expected `[`" (Span.point t.span.start)
    | .text q =>
      let (key, j, _) := s.afterPart fuel (i + 1) [⟨t.span, q⟩]
      continueWith (s.pair fuel key j)
    | .equals => continueWith (s.pair fuel [⟨Span.point t.span.start, .bare⟩] i)
    | .dot =>
      let (key, j, _) := s.afterPart fuel i [⟨Span.point t.span.start, .bare⟩]
      continueWith (s.pair fuel key j)
    | .comma | .openCurly | .closeCurly =>
      failAt "invalid key-value pair, expected key" (Span.point t.span.start)

end Source

/-- Reads the statements of a document from its characters. -/
def readStatements (cs : Array Char) : Except TomlError (List Statement) :=
  let s : Source := ⟨cs, tokenize cs⟩
  s.statements (4 * s.tokens.size + 16) 0 []

end ModuleGraph.Settings.Toml
