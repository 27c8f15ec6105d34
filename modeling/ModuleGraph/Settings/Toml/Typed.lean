import ModuleGraph.Settings.Toml.Reader
import ModuleGraph.Settings.Value

/-!
# Reading nodes as typed values

A configuration reads each node of a document as the kind of value it expects: a truth
value, text, a map of settings, or any value at all. A reader sees a whole number at the
narrowest width it fits, trying signed and then unsigned 64 bits, then signed and unsigned
128 bits; a number wider than that cannot be read at all. A double that overflowed cannot be
read either. These two errors come first, whatever the reader expects.

A settings value holds signed 64-bit whole numbers only, so a reader of any value refuses
the others. A date or time, read as a map, is a map of one private key whose value is its
text.

An error about a value points at the value's span; a value of the wrong kind is named the
way the messages name it: text is quoted, numbers are shown, and arrays and tables are a
`sequence` and a `map`.
-/

namespace ModuleGraph.Settings.Toml

/-- The narrowest width a whole number fits. -/
inductive Width where
  | signed64
  | unsigned64
  | signed128
  | unsigned128
  /-- Wider than 128 bits, or no number at all. -/
  | tooWide
  deriving DecidableEq

/-- The narrowest width of a whole number. -/
def Width.of : Option Int → Width
  | some n =>
    if -Int.pow 2 63 ≤ n ∧ n < Int.pow 2 63 then .signed64
    else if 0 ≤ n ∧ n < Int.pow 2 64 then .unsigned64
    else if -Int.pow 2 127 ≤ n ∧ n < Int.pow 2 127 then .signed128
    else if 0 ≤ n ∧ n < Int.pow 2 128 then .unsigned128
    else .tooWide
  | none => .tooWide

/-- The key that marks a date or time read as a map. -/
def datetimeKey : String := "$__toml_private_datetime"

/-- Doubles in messages: every digit before the point, and at least one after it. -/
def messageFloatStyle : Text.FloatStyle :=
  { positionalFrom := -400, positionalBelow := 400, nanText := "NaN", infinityText := "inf" }

/-- How a message names a whole number read at a width. -/
def integerText (n : Int) : Width → String
  | .signed128 => "integer `" ++ toString n ++ "` as i128"
  | .unsigned128 => "integer `" ++ toString n ++ "` as u128"
  | _ => "integer `" ++ toString n ++ "`"

/-- How a message names a scalar that a reader did not expect. -/
def Scalar.unexpected : Scalar → String
  | .string s => "string " ++ Text.quote s
  | .integer n => integerText (n.getD 0) (Width.of n)
  | .float x _ => "floating point `" ++ messageFloatStyle.render x ++ "`"
  | .boolean b => "boolean `" ++ toString b ++ "`"
  | .datetime _ => "map"

/-- How a message names a node that a reader did not expect. -/
def Node.unexpected : Node → String
  | .scalar s _ => s.unexpected
  | .array _ _ | .tables _ _ => "sequence"
  | .table _ _ _ => "map"

/-- The error of a node of the wrong kind for a reader that expects `expected`. -/
def invalidType (n : Node) (expected : String) : TomlError :=
  ⟨"invalid type: " ++ n.unexpected ++ ", expected " ++ expected, some n.span⟩

/-- The errors every reader meets first: a whole number too wide to read, and a double that
overflowed. -/
def unreadable (s : Scalar) (span : Span) : Except TomlError Unit :=
  match s with
  | .integer n =>
    if Width.of n == .tooWide then .error ⟨"integer number overflowed", some span⟩ else .ok ()
  | .float _ true => .error ⟨"floating-point number overflowed", some span⟩
  | _ => .ok ()

/-- Reads a node as a scalar that `accept` takes; anything else is of the wrong kind for a
reader that expects `expected`. -/
def readScalar {α : Type} (n : Node) (expected : String) (accept : Scalar → Option α) :
    Except TomlError α := do
  if let .scalar s span := n then unreadable s span
  match n with
  | .scalar s _ =>
    match accept s with
    | some a => pure a
    | none => throw (invalidType n expected)
  | _ => throw (invalidType n expected)

/-- Inserts a keyed entry into entries sorted by key. -/
def insertByKey {α : Type} (e : String × α) : List (String × α) → List (String × α)
  | [] => [e]
  | x :: rest => if e.1 < x.1 then e :: x :: rest else x :: insertByKey e rest

/-- Keyed entries sorted by key, the order readers visit the keys of a table in. -/
def sortByKey {α : Type} (es : List (String × α)) : List (String × α) :=
  es.foldr insertByKey []

/-- A settings table from what reading each key's node gave: the first error in the order
of the keys, or the table. -/
def tableOf (results : List (String × Except TomlError Value)) : Except TomlError Table :=
  (sortByKey results).foldlM (fun t (k, r) => r.map (Table.insert t k)) []

/-- The first error, in the order of the keys, of checking each key's node. -/
def firstByKey (results : List (String × Except TomlError Unit)) : Except TomlError Unit :=
  (sortByKey results).forM fun (_, r) => r

mutual
/-- Reads a node as a settings value. -/
def Node.toValue : Node → Except TomlError Value
  | .scalar s span => do
    unreadable s span
    match s with
    | .string t => pure (.string t)
    | .boolean b => pure (.boolean b)
    | .datetime d => pure (.datetime d)
    | .float x _ => pure (.float x)
    | .integer n =>
      let v := n.getD 0
      match Width.of n with
      | .signed64 => pure (.integer v)
      | .unsigned64 => throw ⟨"u64 value was too large", some span⟩
      | w => throw ⟨"invalid type: " ++ integerText v w ++ ", expected any valid TOML value",
          some span⟩
  | .array items _ => (nodesValues items).map Value.array
  | .table _ _ items => (tableOf (itemsValues items)).map Value.table
  | .tables _ ts => (tablesValues ts).map Value.array

/-- Reads the nodes of an array as settings values, in order. -/
def nodesValues : List Node → Except TomlError (List Value)
  | [] => .ok []
  | n :: rest => do
    let v ← n.toValue
    let vs ← nodesValues rest
    pure (v :: vs)

/-- Reads the node of each item, keyed. -/
def itemsValues : List Item → List (String × Except TomlError Value)
  | [] => []
  | .mk k _ n :: rest => (k, n.toValue) :: itemsValues rest

/-- Reads the tables of an array of tables, in order. -/
def tablesValues : List (List Item) → Except TomlError (List Value)
  | [] => .ok []
  | t :: rest => do
    let v ← tableOf (itemsValues t)
    let vs ← tablesValues rest
    pure (.table v :: vs)
end

/-- Reads a node as a map of settings. A date or time is a map of its private key. -/
def Node.toTable (n : Node) : Except TomlError Table :=
  match n with
  | .table _ _ items => tableOf (itemsValues items)
  | .scalar (.datetime d) _ => .ok [(datetimeKey, .string d.display)]
  | _ => readScalar n "a map" fun _ => none

mutual
/-- Checks that a reader of any value at all can read a node: it takes whole numbers up to
unsigned 64 bits, and every double that did not overflow. -/
def Node.checkAny : Node → Except TomlError Unit
  | .scalar s span => do
    unreadable s span
    if let .integer n := s then
      let w := Width.of n
      if w == .signed128 || w == .unsigned128 then
        throw ⟨"invalid type: " ++ integerText (n.getD 0) w ++ ", expected any value",
          some span⟩
  | .array items _ => checkAnyNodes items
  | .table _ _ items => firstByKey (checkAnyItems items)
  | .tables _ ts => checkAnyTables ts

/-- Checks the nodes of an array, in order. -/
def checkAnyNodes : List Node → Except TomlError Unit
  | [] => .ok ()
  | n :: rest => do n.checkAny; checkAnyNodes rest

/-- Checks the node of each item, keyed. -/
def checkAnyItems : List Item → List (String × Except TomlError Unit)
  | [] => []
  | .mk k _ n :: rest => (k, n.checkAny) :: checkAnyItems rest

/-- Checks the tables of an array of tables, in order. -/
def checkAnyTables : List (List Item) → Except TomlError Unit
  | [] => .ok ()
  | t :: rest => do firstByKey (checkAnyItems t); checkAnyTables rest
end

end ModuleGraph.Settings.Toml
