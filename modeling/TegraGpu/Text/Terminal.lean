/-!
# Plain text for a terminal that shows no styles

Log records go to a stream that keeps only what a terminal would print.  The stream reads the
UTF-8 bytes of the text with the state machine of DEC terminals: it runs through the escape
sequences (`ESC`, then an intermediate, a final byte, or the bodies of control, operating
system and device control strings) and drops them, with the control characters.

The stream keeps text in runs.  It reads byte by byte, moving the machine, until a byte is
printed in the state reached: a visible ASCII character other than `DEL`, the first byte of a
multi-byte character while no sequence is open, or one of the blanks tab, line feed, form feed
and carriage return.  That character opens a run, and the run goes on while the characters are
ones the ground state prints, whatever state the machine is in: visible ASCII characters other
than `DEL`, the blanks, and multi-byte characters.  A run leaves the machine where it was,
except that a multi-byte character puts it back in its ground state.  The first other character
ends the run and is read from the state the machine is in.  So a blank inside an escape
sequence opens a run, the letters after it in the run are kept although they would have ended
the sequence, and the sequence is still open after the run.

* `Screen` : the states of the machine.
* `Screen.feed` : one byte: the next state, if it changes, and whether the byte is printed.
* `printable` : the characters of a text that are printed.
-/

namespace TegraGpu.Text

/-- Where the terminal's reading of a byte stream stands. -/
inductive Screen where
  | ground
  | escape
  | escapeIntermediate
  | csiEntry
  | csiParam
  | csiIntermediate
  | csiIgnore
  | dcsEntry
  | dcsParam
  | dcsIntermediate
  | dcsPassthrough
  | dcsIgnore
  | oscString
  | sosPmApcString
  deriving DecidableEq

/-- What a byte does: printed, executed as a control, or something else. -/
inductive Effect where
  | print
  | beginWide
  | execute
  | other
  deriving DecidableEq

/-- Whether a byte is a control that is executed where it stands: the C0 controls other than
`CAN`, `SUB` and `ESC`. -/
def isExecuted (b : Nat) : Bool :=
  b ≤ 0x17 || b = 0x19 || (0x1C ≤ b && b ≤ 0x1F)

/-- One byte read in a state: the state after it (none when it does not change) and what the
byte does.  `CAN` and `SUB` end any sequence, and `ESC` starts one, in every state. -/
def Screen.feed (s : Screen) (b : Nat) : Option Screen × Effect :=
  if b = 0x18 || b = 0x1A then (some .ground, .execute)
  else if b = 0x1B then (some .escape, .other)
  else match s with
  | .ground =>
    if isExecuted b then (none, .execute)
    else if 0x20 ≤ b && b ≤ 0x7F then (none, .print)
    else if (0x80 ≤ b && b ≤ 0x8F) || (0x91 ≤ b && b ≤ 0x9A) || b = 0x9C then (none, .execute)
    else if 0xC2 ≤ b && b ≤ 0xF4 then (some .ground, .beginWide)
    else (none, .other)
  | .escape =>
    if isExecuted b then (none, .execute)
    else if 0x20 ≤ b && b ≤ 0x2F then (some .escapeIntermediate, .other)
    else if b = 0x5B then (some .csiEntry, .other)
    else if b = 0x5D then (some .oscString, .other)
    else if b = 0x50 then (some .dcsEntry, .other)
    else if b = 0x58 || b = 0x5E || b = 0x5F then (some .sosPmApcString, .other)
    else if 0x30 ≤ b && b ≤ 0x7E then (some .ground, .other)
    else (none, .other)
  | .escapeIntermediate =>
    if isExecuted b then (none, .execute)
    else if 0x30 ≤ b && b ≤ 0x7E then (some .ground, .other)
    else (none, .other)
  | .csiEntry =>
    if isExecuted b then (none, .execute)
    else if 0x20 ≤ b && b ≤ 0x2F then (some .csiIntermediate, .other)
    else if 0x30 ≤ b && b ≤ 0x3F then (some .csiParam, .other)
    else if 0x40 ≤ b && b ≤ 0x7E then (some .ground, .other)
    else (none, .other)
  | .csiParam =>
    if isExecuted b then (none, .execute)
    else if 0x3C ≤ b && b ≤ 0x3F then (some .csiIgnore, .other)
    else if 0x20 ≤ b && b ≤ 0x2F then (some .csiIntermediate, .other)
    else if 0x40 ≤ b && b ≤ 0x7E then (some .ground, .other)
    else (none, .other)
  | .csiIntermediate =>
    if isExecuted b then (none, .execute)
    else if 0x30 ≤ b && b ≤ 0x3F then (some .csiIgnore, .other)
    else if 0x40 ≤ b && b ≤ 0x7E then (some .ground, .other)
    else (none, .other)
  | .csiIgnore =>
    if isExecuted b then (none, .execute)
    else if 0x40 ≤ b && b ≤ 0x7E then (some .ground, .other)
    else (none, .other)
  | .dcsEntry =>
    if 0x20 ≤ b && b ≤ 0x2F then (some .dcsIntermediate, .other)
    else if 0x30 ≤ b && b ≤ 0x3F then (some .dcsParam, .other)
    else if 0x40 ≤ b && b ≤ 0x7E then (some .dcsPassthrough, .other)
    else (none, .other)
  | .dcsParam =>
    if 0x3C ≤ b && b ≤ 0x3F then (some .dcsIgnore, .other)
    else if 0x20 ≤ b && b ≤ 0x2F then (some .dcsIntermediate, .other)
    else if 0x40 ≤ b && b ≤ 0x7E then (some .dcsPassthrough, .other)
    else (none, .other)
  | .dcsIntermediate =>
    if 0x30 ≤ b && b ≤ 0x3F then (some .dcsIgnore, .other)
    else if 0x40 ≤ b && b ≤ 0x7E then (some .dcsPassthrough, .other)
    else (none, .other)
  | .dcsPassthrough | .dcsIgnore | .sosPmApcString =>
    if b = 0x9C then (some .ground, .other) else (none, .other)
  | .oscString =>
    if b = 0x07 then (some .ground, .other) else (none, .other)

/-- Whether a byte with its effect is printed: visible characters other than `DEL`, the first
byte of a multi-byte character, and the executed blanks. -/
def Effect.shows (e : Effect) (b : Nat) : Bool :=
  match e with
  | .print => b ≠ 0x7F
  | .beginWide => true
  | .execute => b = 0x09 || b = 0x0A || b = 0x0C || b = 0x0D || b = 0x20
  | .other => false

/-- Reads the bytes of a character that is not printed: the state after them. -/
def Screen.skip (s : Screen) : List UInt8 → Screen
  | [] => s
  | b :: bs => ((s.feed b.toNat).1.getD s).skip bs

/-- Reads one character in a state, outside a run: whether it is printed, which opens a run,
and the state after it.  A printed multi-byte character is read whole and leaves the machine in
its ground state; any other character moves it byte by byte. -/
def Screen.read (s : Screen) (c : Char) : Bool × Screen :=
  match (String.singleton c).toUTF8.toList with
  | [] => (false, s)
  | b :: bs =>
    let (next, effect) := s.feed b.toNat
    if effect.shows b.toNat then (true, next.getD s)
    else (false, (next.getD s).skip bs)

/-- Whether a character goes on with a run: a multi-byte character, or one that the ground state
prints. -/
def continuesRun (c : Char) : Bool :=
  0x80 ≤ c.toNat || (Screen.ground.feed c.toNat).2.shows c.toNat

/-- The printed characters of a list, read from a state, inside a run or not.  A character that
goes on with an open run is kept without moving the machine, but for the ground state after a
multi-byte one; any other character is read from the state. -/
def Screen.keep (s : Screen) (run : Bool) : List Char → List Char
  | [] => []
  | c :: cs =>
    if run && continuesRun c then
      c :: (if c.toNat < 0x80 then s else .ground).keep true cs
    else
      let (shown, t) := s.read c
      if shown then c :: t.keep true cs else t.keep false cs

/-- The characters of a text that a terminal prints, read from the ground state. -/
def printable (text : String) : String :=
  String.ofList (Screen.ground.keep false text.toList)

end TegraGpu.Text
