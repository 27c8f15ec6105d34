/-!
# Shortest decimal text of a double

A finite double stands for every real number that rounds to it. Its shortest text is the
decimal with the fewest significant digits inside that interval; of several, the one
nearest the double's exact value, and of two equally near, the larger.

The search is exact: the double is taken apart into `mantissa · 2^exponent`, and for one,
two, ... seventeen digits the two neighbours of the value on that decimal grid are tested
against the interval in integer arithmetic. Seventeen digits always suffice.

How the digits are then laid out (positional or with an exponent) is a separate choice,
given by a `FloatStyle`.
-/

namespace ModuleGraph.Text

/-- A double taken apart. -/
inductive Binary where
  | nan
  | infinite (negative : Bool)
  /-- The value `± mantissa · 2^exponent`. The gap to the next double below is half the gap
  above when `narrowBelow` holds: the mantissa is a power of two above the least normal. -/
  | finite (negative : Bool) (mantissa : Nat) (exponent : Int) (narrowBelow : Bool)
  deriving Repr

/-- Takes a double apart by its bits: sign, eleven exponent bits and fifty-two fraction bits. -/
def Binary.ofFloat (x : Float) : Binary :=
  let bits := x.toBits.toNat
  let negative := bits / Nat.pow 2 63 % 2 == 1
  let e : Nat := bits / Nat.pow 2 52 % 2048
  let m : Nat := bits % Nat.pow 2 52
  if e == 2047 then (if m == 0 then .infinite negative else .nan)
  else if e == 0 then .finite negative m (-1074) false
  else .finite negative (m + Nat.pow 2 52) ((e : Int) - 1075) (m == 0 && e > 1)

/-- The largest `k` with `10^k ≤ n`, and zero for `n < 10`. -/
def log10 (n : Nat) : Nat :=
  if n < 10 then 0 else log10 (n / 10) + 1
termination_by n
decreasing_by omega

/-- The exponent of the leading decimal digit of the positive fraction `num / den`: the
largest `e` with `10^e ≤ num / den`. -/
def leadExponent (num den : Nat) : Int :=
  if den ≤ num then (log10 (num / den) : Int)
  else -((log10 ((den + num - 1) / num - 1) : Int) + 1)

/-- The decimal number `digits · 10^exponent`. -/
structure Decimal where
  digits : Nat
  exponent : Int
  deriving DecidableEq, Repr

/-- The same decimal with its trailing zero digits moved into the exponent. -/
def Decimal.trim (d : Decimal) : Decimal :=
  if h : d.digits ≠ 0 ∧ d.digits % 10 = 0 then
    Decimal.trim ⟨d.digits / 10, d.exponent + 1⟩
  else d
termination_by d.digits
decreasing_by show d.digits / 10 < d.digits; omega

/-- The shortest decimal for the positive value `mantissa · 2^exponent`; see the module
comment. -/
def shortest (mantissa : Nat) (exponent : Int) (narrowBelow : Bool) : Decimal :=
  -- Work in units of 2^(exponent - 2): the value is 4·mantissa, the interval ends are half
  -- a gap away on each side.
  let r := exponent - 2
  let v := 4 * mantissa
  let above := v + 2
  let below := if narrowBelow then v - 1 else v - 2
  let closed := mantissa % 2 == 0
  let lead := leadExponent (v * Nat.pow 2 r.toNat) (Nat.pow 2 (-r).toNat)
  -- The neighbours of the value on the grid of step 10^k, if one lies in the interval.
  let onGrid (k : Int) : Option Decimal :=
    let gridUnit := Nat.pow 10 k.toNat * Nat.pow 2 (-r).toNat
    let binaryUnit := Nat.pow 2 r.toNat * Nat.pow 10 (-k).toNat
    let target := v * binaryUnit
    let lo := target / gridUnit
    let hi := lo + 1
    let inside (c : Nat) : Bool :=
      let x := c * gridUnit
      if closed then below * binaryUnit ≤ x && x ≤ above * binaryUnit
      else below * binaryUnit < x && x < above * binaryUnit
    match inside lo, inside hi with
    | true, true =>
      if target - lo * gridUnit < hi * gridUnit - target then some ⟨lo, k⟩ else some ⟨hi, k⟩
    | true, false => some ⟨lo, k⟩
    | false, true => some ⟨hi, k⟩
    | false, false => none
  match (List.range 17).findSome? (fun (i : Nat) => onGrid (lead - i)) with
  | some d => d.trim
  | none => ⟨mantissa, 0⟩

/-- How a double is laid out as text. -/
structure FloatStyle where
  /-- Nonzero values below `10^positionalFrom` in magnitude take an exponent. -/
  positionalFrom : Int
  /-- Values of magnitude `10^positionalBelow` and above take an exponent. -/
  positionalBelow : Int
  nanText : String
  infinityText : String

/-- The decimal digits of a number, as text. -/
def digitText (n : Nat) : String := String.ofList (Nat.toDigits 10 n)

/-- Positional layout of `digits · 10^k`, with at least one digit after the point. -/
def Decimal.positional (d : Decimal) : String :=
  let ds := digitText d.digits
  let len := ds.length
  let lead : Int := d.exponent + len - 1
  if lead < 0 then
    "0." ++ String.ofList (List.replicate (-lead - 1).toNat '0') ++ ds
  else if 0 ≤ d.exponent then
    ds ++ String.ofList (List.replicate d.exponent.toNat '0') ++ ".0"
  else
    let whole := (len + d.exponent).toNat
    String.ofList (ds.toList.take whole) ++ "." ++ String.ofList (ds.toList.drop whole)

/-- Layout with one digit before the point, the rest after it if any, then `e` and the
exponent. -/
def Decimal.scientific (d : Decimal) : String :=
  let ds := (digitText d.digits).toList
  let lead : Int := d.exponent + ds.length - 1
  let body := match ds with
    | c :: rest@(_ :: _) => String.ofList (c :: '.' :: rest)
    | _ => String.ofList ds
  body ++ "e" ++ toString lead

/-- The text of a double in a style. Zero is written positionally, with its sign. -/
def FloatStyle.render (style : FloatStyle) (x : Float) : String :=
  match Binary.ofFloat x with
  | .nan => style.nanText
  | .infinite negative => (if negative then "-" else "") ++ style.infinityText
  | .finite negative 0 _ _ => (if negative then "-" else "") ++ (Decimal.mk 0 0).positional
  | .finite negative m e narrow =>
    let d := shortest m e narrow
    let lead : Int := d.exponent + (digitText d.digits).length - 1
    let body := if style.positionalFrom ≤ lead && lead < style.positionalBelow then d.positional
      else d.scientific
    (if negative then "-" else "") ++ body

end ModuleGraph.Text
