import ModuleGraph.Settings.Toml.Number

/-!
# Documents of the settings format

A document is a table of nodes. Pairs go into the table the last header opened (the root
before any header); a dotted key `a.b = v` goes through tables `a` that dotted keys create
on the way.

Tables are defined once. A header may open a table that so far exists only because a
longer header passed through it, but not one that a header or dotted keys defined. Dotted
keys may extend only tables that dotted keys created. Scalars, arrays and inline tables
written as values are complete: nothing may be added to them later. A key is defined once
in its table.

Errors point at the key part where the definition goes wrong. Each node keeps its span: a
value's own span, the header of a table opened by one, and for a table made on the way to a
longer key, the key part that made it.
-/

namespace ModuleGraph.Settings.Toml

/-- How a table came to be. -/
inductive Origin where
  /-- Made on the way to a longer header's table. -/
  | implicit
  /-- Opened by its own header, or the root. -/
  | header
  /-- Made on the way of a dotted key. -/
  | dotted
  /-- Written as a value between braces. -/
  | inline
  deriving DecidableEq, Repr

mutual
/-- A node of a document. -/
inductive Node where
  | scalar (s : Scalar) (span : Span)
  | array (items : List Node) (span : Span)
  | table (origin : Origin) (span : Span) (items : List Item)
  /-- An array of tables, made by `[[...]]` headers. -/
  | tables (span : Span) (items : List (List Item))

/-- A key of a table, with its span and its node. -/
inductive Item where
  | mk (key : String) (keySpan : Span) (node : Node)
end

instance : Inhabited Node := ⟨.array [] ⟨0, 0⟩⟩

namespace Item

def key : Item → String
  | mk k _ _ => k

def keySpan : Item → Span
  | mk _ s _ => s

def node : Item → Node
  | mk _ _ n => n

end Item

/-- The span a node's value is reported at. -/
def Node.span : Node → Span
  | .scalar _ s => s
  | .array _ s => s
  | .table _ s _ => s
  | .tables s _ => s

/-- The node of a key among items. -/
def findNode (items : List Item) (k : String) : Option Node :=
  (items.find? (·.key == k)).map (·.node)

/-- Replaces the node of a key among items; appends it when the key is absent. -/
def setNode (items : List Item) (k : String) (span : Span) (n : Node) : List Item :=
  if items.any (·.key == k) then items.map fun it => if it.key == k then .mk k it.keySpan n else it
  else items ++ [.mk k span n]

/-- The name of a scalar's kind, as errors about extending it say. -/
def Scalar.kindName : Scalar → String
  | .string _ => "string"
  | .integer _ => "integer"
  | .float _ _ => "float"
  | .boolean _ => "boolean"
  | .datetime _ => "datetime"

/-- The error of a key defined twice. -/
def duplicateKey (span : Span) : TomlError := ⟨"duplicate key", some span⟩

/-- The error of a key going through a value of the named kind. -/
def extendError (kind : String) (span : Span) : TomlError :=
  ⟨"cannot extend value of type " ++ kind ++ " with a dotted key", some span⟩

/-- Goes down a path of key parts from a table whose items are `items` (`isDotted` says
whether that table was made by dotted keys), making tables of origin `made` on the way and
entering the last table of an array of tables, and applies `f` to the table at the end
(whether it was made by dotted keys, and its items). Dotted keys may not pass through a table
opened by a header. -/
def descend (made : Origin) (items : List Item) (isDotted : Bool)
    (path : List (String × Span))
    (f : Bool → List Item → Except TomlError (List Item)) : Except TomlError (List Item) :=
  match path with
  | [] => f isDotted items
  | (k, ks) :: rest =>
    match findNode items k with
    | none => do
      let inner ← descend made [] (made == .dotted) rest f
      return setNode items k ks (.table made ks inner)
    | some (.scalar s _) => .error (extendError s.kindName ks)
    | some (.array _ _) => .error (extendError "array" ks)
    | some (.table .inline _ _) => .error (extendError "inline table" ks)
    | some (.tables tspan ts) => do
      let last := ts.getLast?.getD []
      let inner ← descend made last false rest f
      return setNode items k ks (.tables tspan (ts.dropLast ++ [inner]))
    | some (.table origin tspan inner) =>
      if made == .dotted && origin == .header then .error (duplicateKey ks)
      else do
        let inner ← descend made inner (origin == .dotted) rest f
        return setNode items k ks (.table origin tspan inner)

/-- Opens the table of a `[path]` header spanning `span`. -/
def openTable (root : List Item) (path : List (String × Span)) (span : Span) :
    Except TomlError (List Item) :=
  match path.reverse with
  | [] => .ok root
  | (k, ks) :: initRev =>
    descend .implicit root false initRev.reverse fun _ items =>
      match findNode items k with
      | none => .ok (setNode items k ks (.table .header span []))
      | some (.table .implicit _ inner) => .ok (setNode items k ks (.table .header span inner))
      | some _ => .error (duplicateKey ks)

/-- Adds a table to the array of tables of a `[[path]]` header spanning `span`. -/
def openArrayTable (root : List Item) (path : List (String × Span)) (span : Span) :
    Except TomlError (List Item) :=
  match path.reverse with
  | [] => .ok root
  | (k, ks) :: initRev =>
    descend .implicit root false initRev.reverse fun _ items =>
      match findNode items k with
      | none => .ok (setNode items k ks (.tables span [[]]))
      | some (.tables tspan ts) => .ok (setNode items k ks (.tables tspan (ts ++ [[]])))
      | some _ => .error (duplicateKey ks)

/-- Defines a pair with a dotted key inside a table whose items are `items`. The table the
pair lands in must have been made by dotted keys exactly when the key is dotted. -/
def defineIn (items : List Item) (key : List (String × Span)) (n : Node) :
    Except TomlError (List Item) :=
  match key.reverse with
  | [] => .ok items
  | (k, ks) :: initRev =>
    let parents := initRev.reverse
    descend .dotted items false parents fun isDotted inner =>
      if isDotted == parents.isEmpty then .error (duplicateKey ks)
      else
        match findNode inner k with
        | some _ => .error (duplicateKey ks)
        | none => .ok (setNode inner k ks n)

/-- Defines a pair in the table of the section opened by the header `sect` (the root
for no header). -/
def defineAt (root : List Item) (sect : List (String × Span)) (key : List (String × Span))
    (n : Node) : Except TomlError (List Item) :=
  descend .implicit root false sect fun _ items => defineIn items key n

end ModuleGraph.Settings.Toml
