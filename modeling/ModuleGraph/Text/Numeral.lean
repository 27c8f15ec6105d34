/-!
# Reading decimal numerals

A decimal numeral is an optional minus sign, digits, an optional fraction after a point,
and an optional exponent after `e` or `E` with an optional sign. Its value as a double is
the double nearest the exact decimal value (ties to even), so every numeral reads the same
way however many digits it has.
-/

namespace ModuleGraph.Text

/-- The double nearest `± digits · 10^exponent`; a minus sign gives a negative zero too. -/
def decimalToFloat (negative : Bool) (digits : Nat) (exponent : Int) : Float :=
  let x := Float.ofScientific digits (decide (exponent < 0)) exponent.natAbs
  if negative then -x else x

/-- The value of a non-empty run of decimal digits. -/
def digitsValue? (cs : List Char) : Option Nat :=
  if cs ≠ [] ∧ cs.all Char.isDigit then
    some (cs.foldl (fun n c => 10 * n + (c.toNat - '0'.toNat)) 0)
  else none

/-- Reads a decimal numeral as a double. -/
def parseFloat? (s : String) : Option Float := do
  let cs := s.toList
  let (negative, cs) := match cs with
    | '-' :: rest => (true, rest)
    | _ => (false, cs)
  let whole := cs.takeWhile Char.isDigit
  let cs := cs.dropWhile Char.isDigit
  let (frac, cs) := match cs with
    | '.' :: rest => (rest.takeWhile Char.isDigit, rest.dropWhile Char.isDigit)
    | _ => ([], cs)
  let exponent ← match cs with
    | [] => some (0 : Int)
    | e :: rest =>
      if e == 'e' || e == 'E' then
        match rest with
        | '-' :: ds => (digitsValue? ds).map fun n => -(n : Int)
        | '+' :: ds => (digitsValue? ds).map fun n => (n : Int)
        | ds => (digitsValue? ds).map fun n => (n : Int)
      else none
  let digits ← digitsValue? (whole ++ frac)
  if whole = [] then none
  else some (decimalToFloat negative digits (exponent - frac.length))

end ModuleGraph.Text
