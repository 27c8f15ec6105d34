/-!
# Plain text for a stream that is not a terminal

The error stream of the program is written through a filter that, when the stream is not a
terminal, removes what only a terminal would act on: control characters other than ASCII
whitespace (tab, line feed, form feed, carriage return), the delete character, and whole
escape sequences, which start with ESC and end as the usual terminal state machine says.

The filter reads the UTF-8 bytes of the text with that state machine. Where the machine
sees a byte that shows, the filter starts keeping bytes, and keeps every byte that would
show from the ground state, together with the continuation bytes of characters, until one
would not; then it goes back to skipping, from the ground state.
-/

namespace ModuleGraph.Text

/-- The states of the terminal state machine. -/
inductive VtState where
  | ground
  | escape
  | escapeIntermediate
  | csiEntry
  | csiParam
  | csiIntermediate
  | csiIgnore
  | dcsEntry
  | dcsParam
  | dcsIntermediate
  | dcsIgnore
  | dcsPassthrough
  | sosPmApc
  | osc
  deriving DecidableEq, Repr

/-- What the state machine does with a byte, as far as showing it goes. -/
inductive VtAction where
  /-- Shows the byte. -/
  | print
  /-- Starts a character of several bytes. -/
  | beginChar
  /-- Acts on a control character. -/
  | execute
  /-- Anything else: collecting, dispatching, ignoring. -/
  | other
  deriving DecidableEq, Repr

/-- Whether a byte is in a range. -/
def inRange (b lo hi : Nat) : Bool := lo ≤ b && b ≤ hi

/-- Control characters that a state executes: C0 but the three that act in every state. -/
def isExecuted (b : Nat) : Bool := b ≤ 0x17 || b == 0x19 || inRange b 0x1C 0x1F

/-- What the state machine does with a byte in a state: the next state, if it changes, and
the action. -/
def vtStep (s : VtState) (b : Nat) : Option VtState × VtAction :=
  if b == 0x18 || b == 0x1A then (some .ground, .execute)
  else if b == 0x1B then (some .escape, .other)
  else
    match s with
    | .ground =>
      if isExecuted b || inRange b 0x80 0x8F || inRange b 0x91 0x9A || b == 0x9C then
        (none, .execute)
      else if inRange b 0x20 0x7F then (none, .print)
      else if inRange b 0xC2 0xF4 then (none, .beginChar)
      else (none, .other)
    | .escape =>
      if isExecuted b then (none, .execute)
      else if inRange b 0x20 0x2F then (some .escapeIntermediate, .other)
      else if b == 0x5B then (some .csiEntry, .other)
      else if b == 0x5D then (some .osc, .other)
      else if b == 0x50 then (some .dcsEntry, .other)
      else if b == 0x58 || b == 0x5E || b == 0x5F then (some .sosPmApc, .other)
      else if inRange b 0x30 0x7E then (some .ground, .other)
      else (none, .other)
    | .escapeIntermediate =>
      if isExecuted b then (none, .execute)
      else if inRange b 0x30 0x7E then (some .ground, .other)
      else (none, .other)
    | .csiEntry =>
      if isExecuted b then (none, .execute)
      else if inRange b 0x20 0x2F then (some .csiIntermediate, .other)
      else if inRange b 0x30 0x3F then (some .csiParam, .other)
      else if inRange b 0x40 0x7E then (some .ground, .other)
      else (none, .other)
    | .csiParam =>
      if isExecuted b then (none, .execute)
      else if inRange b 0x3C 0x3F then (some .csiIgnore, .other)
      else if inRange b 0x20 0x2F then (some .csiIntermediate, .other)
      else if inRange b 0x40 0x7E then (some .ground, .other)
      else (none, .other)
    | .csiIntermediate =>
      if isExecuted b then (none, .execute)
      else if inRange b 0x30 0x3F then (some .csiIgnore, .other)
      else if inRange b 0x40 0x7E then (some .ground, .other)
      else (none, .other)
    | .csiIgnore =>
      if isExecuted b then (none, .execute)
      else if inRange b 0x40 0x7E then (some .ground, .other)
      else (none, .other)
    | .dcsEntry =>
      if inRange b 0x20 0x2F then (some .dcsIntermediate, .other)
      else if inRange b 0x30 0x3B then (some .dcsParam, .other)
      else if inRange b 0x3C 0x3F then (some .dcsParam, .other)
      else if inRange b 0x40 0x7E then (some .dcsPassthrough, .other)
      else (none, .other)
    | .dcsParam =>
      if inRange b 0x3C 0x3F then (some .dcsIgnore, .other)
      else if inRange b 0x20 0x2F then (some .dcsIntermediate, .other)
      else if inRange b 0x40 0x7E then (some .dcsPassthrough, .other)
      else (none, .other)
    | .dcsIntermediate =>
      if inRange b 0x30 0x3F then (some .dcsIgnore, .other)
      else if inRange b 0x40 0x7E then (some .dcsPassthrough, .other)
      else (none, .other)
    | .dcsIgnore | .dcsPassthrough | .sosPmApc =>
      if b == 0x9C then (some .ground, .other) else (none, .other)
    | .osc =>
      if b == 0x07 then (some .ground, .other) else (none, .other)

/-- ASCII whitespace: space, tab, line feed, form feed and carriage return. -/
def isAsciiWhitespace (b : Nat) : Bool :=
  b == 0x20 || b == 0x09 || b == 0x0A || b == 0x0C || b == 0x0D

/-- Whether a byte shows, given what the state machine does with it. -/
def shows (action : VtAction) (b : Nat) : Bool :=
  (action == .print && b != 0x7F) || action == .beginChar ||
    (action == .execute && isAsciiWhitespace b)

/-- Whether a byte continues a character of several bytes. -/
def isContinuation (b : Nat) : Bool := inRange b 0x80 0xBF

/-- Filters bytes: `keeping` while inside a run of bytes that show, else skipping from state
`s`. -/
def plainBytes (s : VtState) (keeping : Bool) : List UInt8 → List UInt8
  | [] => []
  | byte :: rest =>
    let b := byte.toNat
    if keeping && (shows (vtStep .ground b).2 b || isContinuation b) then
      byte :: plainBytes .ground true rest
    else
      let s := if keeping then .ground else s
      let (next, action) := vtStep s b
      if shows action b then byte :: plainBytes .ground true rest
      else plainBytes (next.getD s) false rest

/-- The text a stream that is not a terminal receives for `s`. -/
def plain (s : String) : String :=
  let kept := plainBytes .ground false s.toUTF8.toList
  (String.fromUTF8? (ByteArray.mk kept.toArray)).getD s

end ModuleGraph.Text
