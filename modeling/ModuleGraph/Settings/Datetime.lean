import ModuleGraph.Text.Shortest

/-!
# Dates and times in settings

A settings value may be a date, a time of day, both, or both with an offset from UTC. The
display form writes the date as `YYYY-MM-DD`, a `T` between date and time, the time as
`HH:MM:SS` with the fraction of a second when it is not zero (trailing zeros dropped), and
the offset as `Z` or `±HH:MM`.
-/

namespace ModuleGraph.Settings

/-- A calendar date. -/
structure Date where
  year : Nat
  month : Nat
  day : Nat
  deriving DecidableEq, Repr

/-- A time of day, to the nanosecond. -/
structure Time where
  hour : Nat
  minute : Nat
  second : Nat
  nanosecond : Nat
  deriving DecidableEq, Repr

/-- An offset from UTC: `Z`, or a number of minutes east. -/
inductive Offset where
  | utc
  | minutes (east : Int)
  deriving DecidableEq, Repr

/-- A date, a time, or both, with an optional offset. -/
structure Datetime where
  date : Option Date
  time : Option Time
  offset : Option Offset
  deriving DecidableEq, Repr

/-- A number written with at least `width` digits, zeros in front. -/
def padded (width n : Nat) : String :=
  let ds := Text.digitText n
  String.ofList (List.replicate (width - ds.length) '0') ++ ds

def Date.display (d : Date) : String :=
  padded 4 d.year ++ "-" ++ padded 2 d.month ++ "-" ++ padded 2 d.day

def Time.display (t : Time) : String :=
  let base := padded 2 t.hour ++ ":" ++ padded 2 t.minute ++ ":" ++ padded 2 t.second
  if t.nanosecond = 0 then base
  else
    let frac := (padded 9 t.nanosecond).toList.reverse.dropWhile (· == '0') |>.reverse
    base ++ "." ++ String.ofList frac

def Offset.display : Offset → String
  | .utc => "Z"
  | .minutes east =>
    let sign := if east < 0 then "-" else "+"
    let m := east.natAbs
    sign ++ padded 2 (m / 60) ++ ":" ++ padded 2 (m % 60)

def Datetime.display (d : Datetime) : String :=
  let date := (d.date.map Date.display).getD ""
  let sep := if d.date.isSome && d.time.isSome then "T" else ""
  let time := (d.time.map Time.display).getD ""
  let offset := (d.offset.map Offset.display).getD ""
  date ++ sep ++ time ++ offset

/-- The debug form of an optional part: `None`, or `Some(...)` around the part's form. -/
def optionDebug {α : Type} (f : α → String) : Option α → String
  | none => "None"
  | some a => "Some(" ++ f a ++ ")"

def Date.debug (d : Date) : String :=
  "Date \x7b year: " ++ toString d.year ++ ", month: " ++ toString d.month ++
    ", day: " ++ toString d.day ++ " \x7d"

def Time.debug (t : Time) : String :=
  "Time \x7b hour: " ++ toString t.hour ++ ", minute: " ++ toString t.minute ++
    ", second: " ++ toString t.second ++ ", nanosecond: " ++ toString t.nanosecond ++ " \x7d"

def Offset.debug : Offset → String
  | .utc => "Z"
  | .minutes east => "Custom \x7b minutes: " ++ toString east ++ " \x7d"

/-- The debug form: each part by name, absent parts as `None`. -/
def Datetime.debug (d : Datetime) : String :=
  "Datetime \x7b date: " ++ optionDebug Date.debug d.date ++ ", time: " ++
    optionDebug Time.debug d.time ++ ", offset: " ++ optionDebug Offset.debug d.offset ++ " \x7d"

end ModuleGraph.Settings
