import Alerting.Bytes

/-!
# Control sequences

Some of the bytes that are sent to a terminal are obeyed and not shown: control
characters, and sequences that an escape character begins. What a terminal would show of
some bytes is found by following them one by one, as a terminal does. Blank characters
are shown even where they interrupt a sequence.
-/

namespace Alerting

/-- Where a byte stands among those sent to a terminal. -/
inductive ControlState where
  /-- Outside of sequences. -/
  | ground
  /-- Inside a character, with so many of its bytes to come. -/
  | character (remaining : Nat)
  /-- Behind an escape. -/
  | escape
  /-- In an escape sequence that one more letter ends. -/
  | escapeIntermediate
  /-- In a sequence that changes how or where text is shown. A letter ends it. -/
  | control
  /-- At the beginning of a message to the device. -/
  | deviceEntry
  | deviceParameter
  | deviceIntermediate
  /-- In a text that is not shown. -/
  | message
  /-- In a command to the system around the terminal, such as a title. A bell ends it. -/
  | command
  deriving DecidableEq, Repr

namespace ControlState

/-- Tells whether a byte is between two others, both included. -/
def inRange (first last byte : UInt8) : Bool := first ≤ byte && byte ≤ last

/-- The characters that move on without being obeyed as controls. -/
def isBlank (byte : UInt8) : Bool :=
  byte = 0x09 || byte = 0x0a || byte = 0x0c || byte = 0x0d

/-- How many bytes follow the first byte of a character that has several. -/
def following (byte : UInt8) : Nat :=
  if inRange 0xc2 0xdf byte then 1
  else if inRange 0xe0 0xef byte then 2
  else if inRange 0xf0 0xf4 byte then 3
  else 0

/-- Bytes that are shown outside of sequences. -/
def isShown (byte : UInt8) : Bool :=
  inRange 0x20 0x7e byte || isBlank byte || 0 < following byte

/-- Bytes that end the skipping of a sequence and are shown. -/
def shows : ControlState → UInt8 → Bool
  | .ground, byte => isShown byte
  | .character _, _ => true
  | .escape, byte | .escapeIntermediate, byte | .control, byte => isBlank byte
  | _, _ => false

/-- What a byte behind an escape begins or ends. -/
def afterEscape (byte : UInt8) : ControlState :=
  if byte = 0x5b then .control
  else if byte = 0x5d then .command
  else if byte = 0x50 then .deviceEntry
  else if byte = 0x58 || byte = 0x5e || byte = 0x5f then .message
  else if inRange 0x20 0x2f byte then .escapeIntermediate
  else if inRange 0x30 0x7e byte then .ground
  else .escape

/-- Where the byte after an unshown one stands. -/
def after (state : ControlState) (byte : UInt8) : ControlState :=
  if byte = 0x1b then .escape
  else if byte = 0x18 || byte = 0x1a then .ground
  else match state with
  | .ground | .character _ => .ground
  | .escape => afterEscape byte
  | .escapeIntermediate => if inRange 0x30 0x7e byte then .ground else .escapeIntermediate
  | .control => if inRange 0x40 0x7e byte then .ground else .control
  | .deviceEntry =>
    if byte = 0x3a || inRange 0x40 0x7e byte then .message
    else if inRange 0x20 0x2f byte then .deviceIntermediate
    else if inRange 0x30 0x3f byte then .deviceParameter
    else .deviceEntry
  | .deviceParameter =>
    if byte = 0x3a || inRange 0x3c 0x7e byte then .message
    else if inRange 0x20 0x2f byte then .deviceIntermediate
    else .deviceParameter
  | .deviceIntermediate => if inRange 0x30 0x7e byte then .message else .deviceIntermediate
  | .message => if byte = 0x9c then .ground else .message
  | .command => if byte = 0x07 then .ground else .command

end ControlState

/-- How far the bytes sent to a terminal were followed. -/
structure ControlFilter where
  state : ControlState := .ground
  /-- A sequence is being skipped. One that a blank interrupted rests until a control follows. -/
  skipping : Bool := true
  deriving DecidableEq, Repr

namespace ControlFilter

/-- Follows one byte and tells whether it is shown. -/
def step (filter : ControlFilter) (byte : UInt8) : ControlFilter × Bool :=
  match filter.state with
  | .character remaining =>
    (⟨if remaining ≤ 1 then .ground else .character (remaining - 1), false⟩, true)
  | state =>
    if ControlState.isShown byte && (!filter.skipping || state.shows byte) then
      let following := ControlState.following byte
      (⟨if following = 0 then state else .character following, false⟩, true)
    else (⟨state.after byte, true⟩, false)

/-- The bytes that are shown from here on. -/
def shown (filter : ControlFilter) : Bytes → Bytes
  | [] => []
  | byte :: rest =>
    let (next, isShown) := filter.step byte
    if isShown then byte :: next.shown rest else next.shown rest

end ControlFilter

/-- What a terminal would show, with nothing left that it would obey. -/
def Bytes.withoutControls (bytes : Bytes) : Bytes := ControlFilter.shown {} bytes

end Alerting
