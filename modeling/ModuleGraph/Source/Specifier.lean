import ModuleGraph.Text.Word
import ModuleGraph.Text.Blank

/-!
# Import specifiers in source text

An import clause is `from`, `import`, or `require`/`import` followed by an opening
parenthesis, each starting at a word boundary, with blanks allowed after the keyword and
after the parenthesis, and then a specifier between quotes. Either quote character may
open or close, and the two need not be the same. A specifier is a non-empty run of
characters other than quotes, carriage returns and line feeds.

The source is read from left to right. At each position where a clause starts, the clause
is taken whole and reading goes on after its closing quote; elsewhere one character is
passed over. The result cuts the source into pieces: plain text and specifiers, which put
back together give the source again.
-/

namespace ModuleGraph.Source

open Text

/-- A piece of source text: plain text, or the specifier of an import clause. -/
inductive Piece where
  | plain (s : List Char)
  | specifier (s : List Char)
  deriving DecidableEq, Repr

/-- The characters of a piece. -/
def Piece.chars : Piece → List Char
  | plain s => s
  | specifier s => s

/-- Adds plain text in front of pieces, merging it with a leading plain piece. -/
def Piece.consPlain (s : List Char) : List Piece → List Piece
  | plain t :: rest => plain (s ++ t) :: rest
  | ps => plain s :: ps

/-- Whether a character is a quote that can open or close a specifier. -/
def isQuote (c : Char) : Bool := c == '"' || c == '\''

/-- Whether a character can stand in a specifier. -/
def isSpecifierChar (c : Char) : Bool := !isQuote c && c != '\r' && c != '\n'

/-- What follows `word` at the head of `cs`, if `cs` starts with it. -/
def afterWord (word : String) (cs : List Char) : Option (List Char) :=
  if word.toList.isPrefixOf cs then some (cs.drop word.length) else none

/-- What follows an opening quote at the head of `cs`. -/
def afterQuote : List Char → Option (List Char)
  | q :: rest => if isQuote q then some rest else none
  | [] => none

/-- What follows an opening parenthesis, blanks after it, and an opening quote. -/
def afterParen : List Char → Option (List Char)
  | '(' :: rest => afterQuote (rest.dropWhile isBlank)
  | _ => none

/-- What follows the opening of a clause (keyword, blanks, parenthesis if any, quote) at
the head of `cs`. -/
def opening (cs : List Char) : Option (List Char) :=
  match afterWord "from" cs with
  | some r => afterQuote (r.dropWhile isBlank)
  | none =>
    match afterWord "import" cs with
    | some r =>
      let r := r.dropWhile isBlank
      match afterQuote r with
      | some x => some x
      | none => afterParen r
    | none =>
      match afterWord "require" cs with
      | some r => afterParen (r.dropWhile isBlank)
      | none => none

/-- A clause found at the head of some text: what comes before the specifier, the
specifier, the closing quote and the rest. -/
structure Clause where
  lead : List Char
  specifier : List Char
  close : Char
  rest : List Char
  deriving Repr

/-- The clause at the head of `cs`, if one starts there. -/
def Clause.at? (cs : List Char) : Option Clause :=
  match opening cs with
  | none => none
  | some body =>
    let spec := body.takeWhile isSpecifierChar
    match body.dropWhile isSpecifierChar with
    | q :: rest =>
      if spec ≠ [] ∧ isQuote q then
        some ⟨cs.take (cs.length - body.length), spec, q, rest⟩
      else none
    | [] => none

/-- Cuts text into pieces, reading from the left; `prev` is the character before the text,
if any, which decides whether a clause may start at its head. -/
def piecesFrom (prev : Option Char) (cs : List Char) : List Piece :=
  match cs with
  | [] => []
  | c :: tl =>
    let clause := if prev.all (fun p => !isWordChar p) then Clause.at? (c :: tl) else none
    match clause with
    | some m =>
      if m.rest.length < tl.length + 1 then
        Piece.consPlain m.lead
          (.specifier m.specifier :: Piece.consPlain [m.close] (piecesFrom (some m.close) m.rest))
      else Piece.consPlain [c] (piecesFrom (some c) tl)
    | none => Piece.consPlain [c] (piecesFrom (some c) tl)
termination_by cs.length

/-- The pieces of a source text. -/
def pieces (source : String) : List Piece := piecesFrom none source.toList

/-- The specifiers of a source text, in order. -/
def specifiers (source : String) : List String :=
  (pieces source).filterMap fun
    | .specifier s => some (String.ofList s)
    | .plain _ => none

end ModuleGraph.Source
