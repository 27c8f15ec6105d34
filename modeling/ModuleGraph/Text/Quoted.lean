import ModuleGraph.Text.Hidden

/-!
# Quoted text

Text written between double quotes so that every character can be read off: a quote and a
backslash get a backslash before them, the null character, tab, carriage return and line
feed are written `\0`, `\t`, `\r` and `\n`, and any other control or hidden character is
written as a code point escape `\u` followed by its hexadecimal code point in braces.
Everything else stands for itself, single quotes and printable non-ASCII text included.
-/

namespace ModuleGraph.Text

/-- The lower-case hexadecimal digits of a number. -/
def hexText (n : Nat) : String := String.ofList (Nat.toDigits 16 n)

/-- How one character is written inside quotes. -/
def escapeChar (c : Char) : String :=
  if c = '"' then "\\\""
  else if c = '\\' then "\\\\"
  else if c = '\n' then "\\n"
  else if c = '\r' then "\\r"
  else if c = '\t' then "\\t"
  else if c.toNat = 0 then "\\0"
  else if c.toNat < 0x20 || c.toNat = 0x7F || isHidden c then
    "\\u\x7b" ++ hexText c.toNat ++ "\x7d"
  else c.toString

/-- Text between double quotes, each character escaped as `escapeChar` says. -/
def quote (s : String) : String :=
  "\"" ++ String.join (s.toList.map escapeChar) ++ "\""

end ModuleGraph.Text
