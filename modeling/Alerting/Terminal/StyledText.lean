/-!
# Styled text

Text of which some spans stand out. A terminal is told where a span begins and ends by
control sequences, which take no room.
-/

namespace Alerting

/-- How a span of text stands out. -/
inductive Emphasis where
  | plain
  /-- Words to be typed as they stand. -/
  | literal
  | heading
  deriving DecidableEq, Repr

namespace Emphasis

/-- What tells a terminal that a span begins. -/
def opening : Emphasis → String
  | .plain => ""
  | .literal => "\x1b[1m"
  | .heading => "\x1b[1m\x1b[4m"

/-- What tells a terminal that a span ends. -/
def closing : Emphasis → String
  | .plain => ""
  | _ => "\x1b[0m"

end Emphasis

/-- Text in spans. -/
structure StyledText where
  spans : List (Emphasis × String)
  deriving DecidableEq, Repr

namespace StyledText

instance : Append StyledText where
  append first second := ⟨first.spans ++ second.spans⟩

def plain (text : String) : StyledText := ⟨[(.plain, text)]⟩

def literal (text : String) : StyledText := ⟨[(.literal, text)]⟩

def heading (text : String) : StyledText := ⟨[(.heading, text)]⟩

/-- Texts one after another. -/
def join (texts : List StyledText) : StyledText := ⟨texts.flatMap spans⟩

/-- The number of characters that take room. -/
def width (text : StyledText) : Nat :=
  text.spans.foldl (fun width span => width + span.2.length) 0

/-- The text with the control sequences of its spans. -/
def display (text : StyledText) : String :=
  String.join (text.spans.map fun span => span.1.opening ++ span.2 ++ span.1.closing)

end StyledText

end Alerting
