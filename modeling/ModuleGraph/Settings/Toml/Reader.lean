import ModuleGraph.Settings.Toml.Document

/-!
# Building a settings document

Reading a document takes three steps: cutting it into tokens, reading the tokens as
statements, and building the document from the statements. The grammar is checked first,
over the whole input, so an error of order anywhere comes before any error of what the
statements say.

Building then takes the statements in order. For a header it decodes the key and opens its
table; for a pair it decodes the key, then the value (every key and scalar of it, and the
tables inside it), and defines the pair in the current table. The first error on the way is
the error of the document.

A key may have at most eighty parts; a longer key is refused without a position, as the
format's readers do to bound how deep a document can nest.
-/

namespace ModuleGraph.Settings.Toml

/-- The most parts a key may have. -/
def keyLimit : Nat := 80

/-- Decodes the parts of a key, each with its span. -/
def decodeKeyPath (cs : Array Char) (key : List KeyPart) :
    Except TomlError (List (String × Span)) := do
  let parts ← key.mapM fun p => (decodeKey cs p).map fun k => (k, p.span)
  if keyLimit < parts.length then throw ⟨"recursion limit", none⟩ else pure parts

mutual
/-- Builds the node of a written value. -/
def buildValue (cs : Array Char) : Written → Except TomlError Node
  | .scalar span q => (decodeScalar cs span q).map fun s => .scalar s span
  | .array span items => (buildItems cs items).map fun ns => .array ns span
  | .inline span pairs => (buildPairs cs pairs []).map fun items => .table .inline span items

/-- Builds the nodes of the items of an array, in order. -/
def buildItems (cs : Array Char) : List Written → Except TomlError (List Node)
  | [] => .ok []
  | w :: rest => do
    let n ← buildValue cs w
    let ns ← buildItems cs rest
    pure (n :: ns)

/-- Builds the pairs of an inline table, in order, into `items`. -/
def buildPairs (cs : Array Char) : List (List KeyPart × Written) → List Item →
    Except TomlError (List Item)
  | [], items => .ok items
  | (key, w) :: rest, items => do
    let path ← decodeKeyPath cs key
    let n ← buildValue cs w
    let items ← defineIn items path n
    buildPairs cs rest items
end

/-- Builds the statements of a document, in order, into the root items `root`; `sect` is the
key of the last header. -/
def buildStatements (cs : Array Char) : List Statement → List Item → List (String × Span) →
    Except TomlError (List Item)
  | [], root, _ => .ok root
  | .header isArray span key :: rest, root, _ => do
    let path ← decodeKeyPath cs key
    let root ← if isArray then openArrayTable root path span else openTable root path span
    buildStatements cs rest root path
  | .pair key w :: rest, root, sect => do
    let path ← decodeKeyPath cs key
    let n ← buildValue cs w
    let root ← defineAt root sect path n
    buildStatements cs rest root sect

/-- Reads a document into its root items. -/
def readDocument (input : String) : Except TomlError (List Item) := do
  let cs := input.toList.toArray
  let statements ← readStatements cs
  buildStatements cs statements [] []

end ModuleGraph.Settings.Toml
