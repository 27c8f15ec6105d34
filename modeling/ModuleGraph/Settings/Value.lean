import ModuleGraph.Settings.Datetime
import ModuleGraph.Text.Quoted
import ModuleGraph.Text.Shortest

/-!
# Settings values

The settings that configure a transformation form a table from keys to values; a value
is text, a whole number, a double, a truth value, a date and time, an array of values, or a
nested table. Tables keep their keys in sorted order, one value per key.

Layering one table over another replaces the values of the keys the upper table has and
keeps the others; nested tables are replaced whole, not merged.
-/

namespace ModuleGraph.Settings

/-- A settings value. -/
inductive Value where
  | string (s : String)
  | integer (n : Int)
  | float (x : Float)
  | boolean (b : Bool)
  | datetime (d : Datetime)
  | array (items : List Value)
  | table (entries : List (String × Value))
  deriving Inhabited

/-- A table of settings: keys in sorted order, each with its value. -/
abbrev Table := List (String × Value)

namespace Table

/-- The value of a key, if the table has it. -/
def get? (t : Table) (k : String) : Option Value := t.lookup k

/-- Sets a key's value, keeping the keys sorted; a key already present takes the new
value in its place. -/
def insert : Table → String → Value → Table
  | [], k, v => [(k, v)]
  | (k', v') :: rest, k, v =>
    if k = k' then (k, v) :: rest
    else if k < k' then (k, v) :: (k', v') :: rest
    else (k', v') :: insert rest k v

/-- Layers `upper` over `base`: each key of `upper` takes its value there. -/
def extend (base upper : Table) : Table :=
  upper.foldl (fun acc kv => acc.insert kv.1 kv.2) base

end Table

namespace Value

/-- The text of a string value. -/
def asString? : Value → Option String
  | string s => some s
  | _ => none

/-- The truth value of a boolean value. -/
def asBool? : Value → Option Bool
  | boolean b => some b
  | _ => none

/-- Doubles in settings are written with their shortest digits, positionally for
magnitudes from `10^-4` up to below `10^16` and with an exponent otherwise, `NaN`, `inf`
and `-inf` for the values that are not finite. -/
def floatStyle : Text.FloatStyle :=
  { positionalFrom := -4, positionalBelow := 16, nanText := "NaN", infinityText := "inf" }

/-- The text of a double in settings. -/
def floatText (x : Float) : String := floatStyle.render x

mutual
/-- The debug form of a value: the kind's name around the content. -/
def debug : Value → String
  | string s => "String(" ++ Text.quote s ++ ")"
  | integer n => "Integer(" ++ toString n ++ ")"
  | float x => "Float(" ++ floatText x ++ ")"
  | boolean b => "Boolean(" ++ toString b ++ ")"
  | datetime d => "Datetime(" ++ d.debug ++ ")"
  | array items => "Array([" ++ debugItems items ++ "])"
  | table entries => "Table(\x7b" ++ debugEntries entries ++ "\x7d)"

/-- The debug forms of array items, separated by commas. -/
def debugItems : List Value → String
  | [] => ""
  | [v] => debug v
  | v :: rest => debug v ++ ", " ++ debugItems rest

/-- The debug forms of table entries, `"key": value`, separated by commas. -/
def debugEntries : List (String × Value) → String
  | [] => ""
  | [(k, v)] => Text.quote k ++ ": " ++ debug v
  | (k, v) :: rest => Text.quote k ++ ": " ++ debug v ++ ", " ++ debugEntries rest
end

end Value

/-- The debug form of a table: its entries between braces. -/
def Table.debug (t : Table) : String := "\x7b" ++ Value.debugEntries t ++ "\x7d"

end ModuleGraph.Settings
