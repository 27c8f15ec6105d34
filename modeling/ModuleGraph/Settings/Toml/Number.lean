import ModuleGraph.Settings.Toml.Scalar
import ModuleGraph.Settings.Datetime
import ModuleGraph.Text.Numeral

/-!
# Bare scalars of the settings format

Bare text in a value is a truth value, a number, or a date and time. Its first character
decides which it must be:

* a sign, a digit or `_` starts a number or a date, `.` a double;
* `t` and `f` start `true` and `false`, `i` and `n` the doubles `inf` and `nan`, in either
  case, so that `TRUE` is a misspelled truth value rather than text;
* anything else is text that should have been quoted.

A number that starts with digits followed by `-` or `:` is a date or a time. Other numbers
are whole numbers in decimal, or after `0x`, `0o` or `0b` in hexadecimal, octal or binary,
or doubles with a fraction, an exponent or both. Single underscores may stand between
digits. A decimal number has no leading zero, a number with a radix no sign.

A whole number is kept with all its digits: whether it fits the width a reader wants is up
to the reader. A double that is too large for a double is kept as infinite, marked as having
overflowed, for the same reason.

Dates and times follow RFC 3339 as the format adapts it: a date `YYYY-MM-DD`, a time
`HH:MM` with optional seconds and fraction, both separated by `T` or a space, and with
both an optional offset `Z` or `±HH:MM`. Each error names the part that is wrong and what
was expected there.
-/

namespace ModuleGraph.Settings.Toml

/-- A scalar of a document. -/
inductive Scalar where
  | string (s : String)
  /-- A whole number; `none` when it has no digits to read. -/
  | integer (n : Option Int)
  /-- A double; `overflowed` when it was written finite but is too large for a double. -/
  | float (x : Float) (overflowed : Bool)
  | boolean (b : Bool)
  | datetime (d : Datetime)
  deriving Inhabited

/-! ## Dates and times -/

/-- A token of a date or time. -/
inductive DateToken where
  | digits (ds : List Char)
  | dash
  | plus
  | letterT
  | letterZ
  | colon
  | point
  | space
  | other
  deriving DecidableEq, Inhabited

/-- The tokens of a date or time: runs of digits, and single characters. -/
def dateTokens : List Char → List DateToken
  | [] => []
  | c :: rest =>
    if c.isDigit then
      let ds := rest.takeWhile Char.isDigit
      have := length_drop_lt rest c ds.length
      .digits (c :: ds) :: dateTokens (rest.drop ds.length)
    else
      let t : DateToken :=
        if c == '-' then .dash else if c == '+' then .plus
        else if c == 'T' || c == 't' then .letterT else if c == 'Z' || c == 'z' then .letterZ
        else if c == ':' then .colon else if c == '.' then .point else if c == ' ' then .space
        else .other
      t :: dateTokens rest
termination_by cs => cs.length

/-- The message of a date or time that is wrong: what part, and what was expected. -/
def datetimeMessage (what : Option String) (expected : Option String) : String :=
  match what, expected with
  | some w, some e => "invalid " ++ w ++ ", expected " ++ e
  | some w, none => "invalid " ++ w
  | none, some e => "invalid datetime, expected " ++ e
  | none, none => "invalid datetime"

/-- The value of decimal digits. -/
def decimalValue (ds : List Char) : Nat :=
  ds.foldl (fun n c => 10 * n + (c.toNat - '0'.toNat)) 0

/-- Takes a run of digits at the head, or fails with what was expected of `what`. -/
def takeDigits (what expected : String) :
    List DateToken → Except String (List Char × List DateToken)
  | .digits ds :: rest => .ok (ds, rest)
  | _ => .error (datetimeMessage (some what) (some expected))

/-- Takes a given token at the head, or fails with what was expected of `what`. -/
def takeToken (t : DateToken) (what expected : String) :
    List DateToken → Except String (List DateToken)
  | u :: rest => if u == t then .ok rest else .error (datetimeMessage (some what) (some expected))
  | [] => .error (datetimeMessage (some what) (some expected))

/-- Whether a year is a leap year. -/
def isLeap (y : Nat) : Bool := (y % 4 == 0 && y % 100 != 0) || y % 400 == 0

/-- Reads a date whose year is `year`, from the tokens after its dash. -/
def readDate (year : List Char) (ts : List DateToken) : Except String (Date × List DateToken) := do
  let (month, ts) ← takeDigits "date" "month" ts
  let ts ← takeToken .dash "date" "`-` (MM-DD)" ts
  let (day, ts) ← takeDigits "date" "day" ts
  let fail (expected : String) : Except String (Date × List DateToken) :=
    .error (datetimeMessage (some "date") (some expected))
  if year.length != 4 then fail "a four-digit year (YYYY)"
  else if month.length != 2 then fail "a two-digit month (MM)"
  else if day.length != 2 then fail "a two-digit day (DD)"
  else
    let y := decimalValue year
    let m := decimalValue month
    let d := decimalValue day
    if m < 1 || m > 12 then fail "month between 01 and 12"
    else
      let (most, expected) :=
        if m == 2 then
          (if isLeap y then (29, "day between 01 and 29") else (28, "day between 01 and 28"))
        else if m == 4 || m == 6 || m == 9 || m == 11 then (30, "day between 01 and 30")
        else (31, "day between 01 and 31")
      if d < 1 || d > most then fail expected
      else pure (⟨y, m, d⟩, ts)

/-- The nanoseconds of a fraction of a second given by its digits; digits past the ninth
are dropped. -/
def nanosOf (ds : List Char) : Nat :=
  decimalValue ((ds.take 9) ++ List.replicate (9 - ds.length) '0')

/-- Reads a time `HH:MM`, with optional seconds and, after seconds, an optional fraction. -/
def readTime (ts : List DateToken) : Except String (Time × List DateToken) := do
  let (hour, ts) ← takeDigits "time" "hour" ts
  let ts ← takeToken .colon "time" "`:` (HH:MM)" ts
  let (minute, ts) ← takeDigits "time" "minute" ts
  let (second, ts) ← match ts with
    | .colon :: rest => do
      let (s, rest) ← takeDigits "time" "second" rest
      pure (some s, rest)
    | _ => pure (none, ts)
  let (nanos, ts) ← match second, ts with
    | some _, .point :: rest => do
      let (f, rest) ← takeDigits "time" "nanosecond" rest
      pure (nanosOf f, rest)
    | _, _ => pure (0, ts)
  let fail (expected : String) : Except String (Time × List DateToken) :=
    .error (datetimeMessage (some "time") (some expected))
  if hour.length != 2 then fail "a two-digit hour (HH)"
  else if minute.length != 2 then fail "a two-digit minute (MM)"
  else if (second.map List.length).getD 2 != 2 then fail "a two-digit second (SS)"
  else
    let h := decimalValue hour
    let m := decimalValue minute
    let s := decimalValue (second.getD [])
    if h > 23 then fail "hour between 00 and 23"
    else if m > 59 then fail "minute between 00 and 59"
    else if s > 60 then fail "second between 00 and 60"
    else pure (⟨h, m, s, nanos⟩, ts)

/-- Reads the offset after a date and a time, if there is one. -/
def readOffset (ts : List DateToken) : Except String (Option Offset × List DateToken) :=
  let fail (expected : String) : Except String (Option Offset × List DateToken) :=
    .error (datetimeMessage (some "offset") (some expected))
  match ts with
  | [] => .ok (none, [])
  | .letterZ :: rest => .ok (some .utc, rest)
  | sign :: rest =>
    if sign == .plus || sign == .dash then do
      let (hours, rest) ← takeDigits "offset" "hour" rest
      let rest ← takeToken .colon "offset" "`:` (HH:MM)" rest
      let (minutes, rest) ← takeDigits "offset" "minute" rest
      if hours.length != 2 then fail "a two-digit hour (HH)"
      else if minutes.length != 2 then fail "a two-digit minute (MM)"
      else
        let h := decimalValue hours
        let m := decimalValue minutes
        if h > 23 then fail "hours between 00 and 23"
        else if m > 59 then fail "minutes between 00 and 59"
        else
          let total : Int := (h * 60 + m : Nat)
          pure (some (.minutes (if sign == .dash then -total else total)), rest)
    else fail "`Z`, +OFFSET, -OFFSET"

/-- Reads a date, a time, or both with an optional offset. -/
def parseDatetime (cs : List Char) : Except String Datetime := do
  let ts := dateTokens cs
  let separator := datetimeMessage none (some "`-` (YYYY-MM) or `:` (HH:MM)")
  let (date, ts) ← match ts with
    | .digits year :: .dash :: rest => do
      let (d, rest) ← readDate year rest
      pure (some d, rest)
    | .digits _ :: .colon :: _ => pure (none, ts)
    | .digits _ :: _ => throw separator
    | _ => throw (datetimeMessage none (some "year or hour"))
  let (time, ts) ← match date, ts with
    | none, _ => do
      let (t, rest) ← readTime ts
      pure (some t, rest)
    | some _, [] => pure (none, [])
    | some _, sep :: rest =>
      if sep == .letterT || sep == .space then do
        let (t, rest) ← readTime rest
        pure (some t, rest)
      else throw (datetimeMessage (some "date-time") (some "`T` between date and time"))
  let (offset, ts) ← if date.isSome && time.isSome then readOffset ts else pure (none, ts)
  if ts.isEmpty then pure ⟨date, time, offset⟩ else throw (datetimeMessage none none)

/-! ## Numbers -/

/-- The error of bare text that is no truth value, number or date. -/
def unquotedText (span : Span) : TomlError :=
  ⟨"string values must be quoted, expected literal string", some span⟩

/-- Whether a character is a digit in a radix. -/
def isDigitIn (radix : Nat) (c : Char) : Bool :=
  match hexDigit? c with
  | some v => v < radix
  | none => false

/-- A whole number from its digits in a radix, with an optional sign in front. -/
def integerValue (radix : Nat) (cs : List Char) : Option Int :=
  let (negative, ds) := match cs with
    | '-' :: r => (true, r)
    | '+' :: r => (false, r)
    | _ => (false, cs)
  if ds.isEmpty || !ds.all (isDigitIn radix) then none
  else
    let v : Int := (ds.foldl (fun n c => radix * n + (hexDigit? c).getD 0) 0 : Nat)
    some (if negative then -v else v)

/-- The double nearest `± 0.digits · 10^(exponent + digits)`, where `digits` are decimal
digits. Values far beyond the range of doubles are infinite or zero without computing them
exactly. -/
def decimalFloat (negative : Bool) (digits : List Char) (exponent : Int) : Float :=
  let significant := digits.dropWhile (· == '0')
  let zero : Float := if negative then -0.0 else 0.0
  let infinite : Float := if negative then -(1.0 / 0.0) else 1.0 / 0.0
  if significant.isEmpty then zero
  else
    let magnitude := exponent + significant.length
    if 400 < magnitude then infinite
    else if magnitude < -400 then zero
    else Text.decimalToFloat negative (decimalValue significant) exponent

/-- A double from its text without underscores: a sign, then `inf`, `nan`, or digits with a
fraction and an exponent. -/
def floatValue (cs : List Char) : Float :=
  let (negative, body) := match cs with
    | '-' :: r => (true, r)
    | '+' :: r => (false, r)
    | _ => (false, cs)
  if body == ['i', 'n', 'f'] then (if negative then -(1.0 / 0.0) else 1.0 / 0.0)
  else if body == ['n', 'a', 'n'] then (if negative then -(0.0 / 0.0) else 0.0 / 0.0)
  else
    let whole := body.takeWhile Char.isDigit
    let rest := body.dropWhile Char.isDigit
    let (frac, rest) := match rest with
      | '.' :: r => (r.takeWhile Char.isDigit, r.dropWhile Char.isDigit)
      | _ => ([], rest)
    let exponent : Int := match rest with
      | _ :: '-' :: ds => -(decimalValue ds : Int)
      | _ :: '+' :: ds => (decimalValue ds : Int)
      | _ :: ds => (decimalValue ds : Int)
      | [] => 0
    decimalFloat negative (whole ++ frac) (exponent - frac.length)

/-- A bare scalar at a span: its characters `raw` and where it starts. -/
structure Bare where
  span : Span
  raw : List Char

namespace Bare

/-- An error at the characters from offset `i` to `j` of the scalar. -/
def failOver {α : Type} (b : Bare) (message : String) (i j : Nat) : Except TomlError α :=
  failAt message ⟨b.span.start + i, b.span.start + j⟩

/-- Checks that `value`, the scalar from offset `offset` on, has no leading zero. -/
def noLeadingZero (b : Bare) (value : List Char) (offset : Nat) : Except TomlError Unit :=
  if value.head? == some '0' && value.length > 1 then
    b.failOver "unexpected leading zero, expected nothing" offset (offset + 1)
  else .ok ()

/-- Checks a run of digits and underscores at offset `offset`, ending a part of a double
(`what` names the part): it needs a digit, and unless `zeros` may lead, no leading zero.
Returns the offset after the run. -/
def decimalRun (b : Bare) (what : String) (zeros : Bool) (offset : Nat) : Except TomlError Nat :=
  let run := (b.raw.drop offset).takeWhile fun c => c.isDigit || c == '_'
  let count := (run.filter Char.isDigit).length
  if count == 0 then b.failOver (what ++ ", expected digits") offset offset
  else if count ≥ 2 && run.head? == some '0' && !zeros then
    b.failOver "unexpected leading zero, expected nothing" offset (offset + 1)
  else .ok (offset + run.length)

/-- Checks the shape of a double written from offset `offset` on: a whole part, then an
optional fraction and an optional exponent, and nothing after. -/
def floatShape (b : Bare) (offset : Nat) : Except TomlError Unit := do
  let i ← b.decimalRun "invalid mantissa" false offset
  let i ← if b.raw[i]? == some '.' then b.decimalRun "invalid fraction" true (i + 1) else pure i
  let i ← if b.raw[i]? == some 'e' || b.raw[i]? == some 'E' then
      let j := if b.raw[i + 1]? == some '+' || b.raw[i + 1]? == some '-' then i + 2 else i + 1
      b.decimalRun "invalid exponent" true j
    else pure i
  if i < b.raw.length then b.failOver "invalid float, expected nothing" i b.raw.length
  else pure ()

/-- The parts of characters between underscores, each with its offset. -/
def underscoreParts (cs : List Char) (offset : Nat) : List (Nat × List Char) :=
  let (parts, current, start) := cs.zipIdx.foldl (fun (parts, current, start) (c, k) =>
      if c == '_' then (parts ++ [(start, current)], [], offset + k + 1)
      else (parts, current ++ [c], start)) ([], [], offset)
  parts ++ [(start, current)]

/-- Checks that underscores in the digits from offset `offset` on stand only between two
digits (as `isDigit` says), and returns the characters without them. -/
def withoutUnderscores (b : Bare) (offset : Nat) (isDigit : Char → Bool) :
    Except TomlError (List Char) := do
  let stream := b.raw.drop offset
  let between := "`_` may only go between digits, expected nothing"
  if stream.contains '_' then
    if stream.head? == some '_' then b.failOver between offset (offset + 1)
    if stream.length > 1 && stream.getLast? == some '_' then
      b.failOver between (offset + stream.length - 1) (offset + stream.length)
    for (start, part) in underscoreParts stream offset do
      if 0 < start && !(part.head?.map isDigit).getD false then
        b.failOver between (start - 1) start
      if part.length > 1 && start + part.length < b.raw.length &&
          !(part.getLast?.map isDigit).getD false then
        b.failOver between (start + part.length) (start + part.length + 1)
  pure (stream.filter (· != '_'))

/-- A decimal whole number whose text starts at offset 0. -/
def decimalInteger (b : Bare) : Except TomlError Scalar := do
  let ds ← b.withoutUnderscores 0 Char.isDigit
  pure (.integer (integerValue 10 ds))

/-- A double whose digits start at offset `offset`, its sign (if any) before. -/
def double (b : Bare) (offset : Nat) : Except TomlError Scalar := do
  b.floatShape offset
  let cs ← b.withoutUnderscores 0 Char.isDigit
  let x := floatValue cs
  pure (.float x x.isInf)

/-- A number or a date whose digits start at offset `offset`. -/
def numberOrDate (b : Bare) (offset : Nat) : Except TomlError Scalar := do
  let value := b.raw.drop offset
  let rest := value.dropWhile Char.isDigit
  match rest with
  | [] =>
    b.noLeadingZero value offset
    b.decimalInteger
  | c :: _ =>
    if c == '-' || c == ':' then
      match parseDatetime b.raw with
      | .ok d => pure (.datetime d)
      | .error message => failAt message b.span
    else if rest.contains ' ' then throw (unquotedText b.span)
    else if rest.contains '.' || rest.contains 'e' || rest.contains 'E' then b.double offset
    else if c == '_' then
      b.noLeadingZero value offset
      b.decimalInteger
    else throw (unquotedText b.span)

/-- A whole number after a radix prefix at offset `offset`: `radix` and the name of its
digits. -/
def radixInteger (b : Bare) (offset : Nat) (radix : Nat) (name : String) :
    Except TomlError Scalar := do
  let digitsAt := offset + 2
  let stream := b.raw.drop digitsAt
  if stream.head? == some '+' || stream.head? == some '-' then
    b.failOver "unexpected sign, expected nothing" digitsAt (digitsAt + 1)
  match (stream.zipIdx digitsAt).find? fun (c, _) => !(isDigitIn radix c || c == '_') with
  | some (_, k) => b.failOver ("invalid " ++ name ++ " number") k (k + 1)
  | none => pure ()
  let ds ← b.withoutUnderscores digitsAt (isDigitIn radix)
  pure (.integer (integerValue radix ds))

/-- A number or date starting with `0` at offset `offset`; `signed` when a sign is before. -/
def zeroPrefixed (b : Bare) (offset : Nat) (signed : Bool) : Except TomlError Scalar := do
  let value := b.raw.drop offset
  match value with
  | [_] => b.decimalInteger
  | _ :: r :: _ =>
    let radixed (radix : Nat) (name : String) (lead : String) : Except TomlError Scalar := do
      if signed then b.failOver "integers with a radix cannot be signed, expected nothing" 0 1
      if r.isUpper then
        b.failOver ("radix must be lowercase, expected `" ++ lead ++ "`") offset (offset + 2)
      b.radixInteger offset radix name
    if r == 'x' || r == 'X' then radixed 16 "hexadecimal" "0x"
    else if r == 'o' || r == 'O' then radixed 8 "octal" "0o"
    else if r == 'b' || r == 'B' then radixed 2 "binary" "0b"
    else if r == 'e' || r == 'E' || r == '.' then b.double offset
    else b.numberOrDate offset
  | [] => throw (unquotedText b.span)

/-- A word: the scalar must spell it, or it is misspelled (`kind` names what it should be),
or, holding a space, text that should have been quoted. -/
def word (b : Bare) (spelled : List Char) (kind : String) (result : Scalar) :
    Except TomlError Scalar :=
  if b.raw == spelled then .ok result
  else if b.raw.contains ' ' then .error (unquotedText b.span)
  else b.failOver (kind ++ ", expected `" ++ String.ofList spelled ++ "`") 0 b.raw.length

/-- A scalar after its sign. -/
def afterSign (b : Bare) (negative : Bool) : Except TomlError Scalar :=
  let value := b.raw.drop 1
  match value with
  | [] => .error (unquotedText b.span)
  | c :: _ =>
    let special (spelled : List Char) (x : Float) : Except TomlError Scalar :=
      if value == spelled then .ok (.float (if negative then -x else x) false)
      else b.failOver ("invalid float, expected `" ++ String.ofList spelled ++ "`") 1 b.raw.length
    if c == '+' || c == '-' then b.failOver "redundant numeric sign, expected nothing" 1 2
    else if c == '_' || ('1' ≤ c && c ≤ '9') then b.numberOrDate 1
    else if c == '0' then b.zeroPrefixed 1 true
    else if c == '.' then b.double 1
    else if c == 'i' || c == 'I' then special ['i', 'n', 'f'] (1.0 / 0.0)
    else if c == 'n' || c == 'N' then special ['n', 'a', 'n'] (0.0 / 0.0)
    else .error (unquotedText b.span)

/-- Reads a bare scalar. -/
def decode (b : Bare) : Except TomlError Scalar :=
  match b.raw with
  | [] => .error (unquotedText b.span)
  | c :: _ =>
    if c == '+' then b.afterSign false
    else if c == '-' then b.afterSign true
    else if c == '_' || ('1' ≤ c && c ≤ '9') then b.numberOrDate 0
    else if c == '0' then b.zeroPrefixed 0 false
    else if c == '.' then b.double 0
    else if c == 't' || c == 'T' then b.word ['t', 'r', 'u', 'e'] "invalid boolean" (.boolean true)
    else if c == 'f' || c == 'F' then
      b.word ['f', 'a', 'l', 's', 'e'] "invalid boolean" (.boolean false)
    else if c == 'i' || c == 'I' then
      b.word ['i', 'n', 'f'] "invalid float" (.float (1.0 / 0.0) false)
    else if c == 'n' || c == 'N' then
      b.word ['n', 'a', 'n'] "invalid float" (.float (0.0 / 0.0) false)
    else .error (unquotedText b.span)

end Bare

/-- Decodes a scalar as written: a string of one of the four kinds, or bare text. -/
def decodeScalar (cs : Array Char) (span : Span) : Quoting → Except TomlError Scalar
  | .bare => (Bare.mk span (slice cs span)).decode
  | q => (decodeString cs span q).map Scalar.string

end ModuleGraph.Settings.Toml
