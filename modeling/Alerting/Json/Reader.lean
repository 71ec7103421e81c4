import Alerting.Json.Basic

/-!
# Reading JSON

A reader for exactly the grammar of RFC 8259: one value, between blanks. Every function
takes the remaining input and returns what it leaves. The fuel only bounds the
recursion; `read` supplies more than any input can use up.
-/

namespace Alerting

namespace Json

/-- Space, tab, line feed and carriage return. -/
def isBlank (byte : UInt8) : Bool :=
  byte == 0x20 || byte == 0x09 || byte == 0x0a || byte == 0x0d

def skipBlanks (input : Bytes) : Bytes := input.dropWhile isBlank

def isHexDigit (byte : UInt8) : Bool := (hexValue? byte).isSome

/--
Reads a string literal up to and including its closing quote. Escapes must be well
formed, but what they spell is not looked at.
-/
def readString : Bytes → Option (Bytes × Bytes)
  | [] => none
  | byte :: rest =>
    if byte = 0x22 then some ([], rest)
    else if byte < 0x20 then none
    else if byte ≠ 0x5c then (readString rest).map fun (tail, left) => (byte :: tail, left)
    else match rest with
      | [] => none
      | letter :: rest =>
        if letter ≠ 0x75 then
          if (shortEscape? letter).isNone then none
          else (readString rest).map fun (tail, left) => (byte :: letter :: tail, left)
        else match rest with
          | d1 :: d2 :: d3 :: d4 :: rest =>
            if [d1, d2, d3, d4].all isHexDigit then
              (readString rest).map fun (tail, left) =>
                (byte :: letter :: d1 :: d2 :: d3 :: d4 :: tail, left)
            else none
          | _ => none

/-- Reads one or more digits. -/
def readDigits (input : Bytes) : Option (Bytes × Bytes) :=
  match input.takeWhile isDigit with
  | [] => none
  | digits => some (digits, input.dropWhile isDigit)

/-- Reads digits without a leading zero, or a lone zero. -/
def readWhole : Bytes → Option (Bytes × Bytes)
  | [] => none
  | byte :: rest => if byte = 0x30 then some ([byte], rest) else readDigits (byte :: rest)

/-- Reads an optional fraction. -/
def readFraction : Bytes → Option (Bytes × Bytes)
  | [] => some ([], [])
  | byte :: rest =>
    if byte = 0x2e then (readDigits rest).map fun (digits, left) => (byte :: digits, left)
    else some ([], byte :: rest)

/-- Reads an optional exponent. -/
def readExponent : Bytes → Option (Bytes × Bytes)
  | [] => some ([], [])
  | byte :: rest =>
    if byte = 0x65 ∨ byte = 0x45 then
      match rest with
      | [] => none
      | sign :: rest =>
        if sign = 0x2b ∨ sign = 0x2d then
          (readDigits rest).map fun (digits, left) => (byte :: sign :: digits, left)
        else (readDigits (sign :: rest)).map fun (digits, left) => (byte :: digits, left)
    else some ([], byte :: rest)

/-- Reads a number without its sign. -/
def readUnsigned (input : Bytes) : Option (Bytes × Bytes) := do
  let (whole, input) ← readWhole input
  let (fraction, input) ← readFraction input
  let (exponent, input) ← readExponent input
  some (whole ++ fraction ++ exponent, input)

/-- Reads a number literal. -/
def readNumber : Bytes → Option (Bytes × Bytes)
  | [] => none
  | byte :: rest =>
    if byte = 0x2d then (readUnsigned rest).map fun (literal, left) => (byte :: literal, left)
    else readUnsigned (byte :: rest)

/-- What follows a fixed word. -/
def readWord : Bytes → Bytes → Option Bytes
  | [], input => some input
  | _, [] => none
  | expected :: word, byte :: rest => if expected = byte then readWord word rest else none

/-- The fixed words and what they denote. -/
def words : List (Bytes × Json) :=
  [(Bytes.ofText "null", .null), (Bytes.ofText "true", .bool true),
    (Bytes.ofText "false", .bool false)]

/-- Reads a value that has no parts. -/
def readScalar (input : Bytes) : Option (Json × Bytes) :=
  match input with
  | [] => none
  | byte :: rest =>
    if byte = 0x22 then (readString rest).map fun (literal, left) => (.string literal, left)
    else
      match words.findSome? fun (word, value) =>
          (readWord word input).map fun left => (value, left) with
      | some found => some found
      | none => (readNumber input).map fun (literal, left) => (.number literal, left)

mutual

/-- Reads one value and the blanks before it. -/
def readValue : Nat → Bytes → Option (Json × Bytes)
  | 0, _ => none
  | fuel + 1, input =>
    match skipBlanks input with
    | [] => none
    | byte :: rest =>
      if byte = 0x5b then
        match skipBlanks rest with
        | [] => none
        | next :: left =>
          if next = 0x5d then some (.array [], left)
          else (readElements fuel (next :: left)).map fun (elements, left) =>
            (.array elements, left)
      else if byte = 0x7b then
        match skipBlanks rest with
        | [] => none
        | next :: left =>
          if next = 0x7d then some (.object [], left)
          else (readMembers fuel (next :: left)).map fun (members, left) =>
            (.object members, left)
      else readScalar (byte :: rest)

/-- Reads one or more elements and the bracket that closes them. -/
def readElements : Nat → Bytes → Option (List Json × Bytes)
  | 0, _ => none
  | fuel + 1, input =>
    match readValue fuel input with
    | none => none
    | some (element, left) =>
      match skipBlanks left with
      | [] => none
      | byte :: rest =>
        if byte = 0x5d then some ([element], rest)
        else if byte = 0x2c then
          (readElements fuel rest).map fun (elements, left) => (element :: elements, left)
        else none

/-- Reads one or more members and the brace that closes them. -/
def readMembers : Nat → Bytes → Option (List (Bytes × Json) × Bytes)
  | 0, _ => none
  | fuel + 1, input =>
    match skipBlanks input with
    | [] => none
    | quote :: rest =>
      if quote ≠ 0x22 then none
      else match readString rest with
        | none => none
        | some (name, left) =>
          match skipBlanks left with
          | [] => none
          | colon :: rest =>
            if colon ≠ 0x3a then none
            else match readValue fuel rest with
              | none => none
              | some (value, left) =>
                match skipBlanks left with
                | [] => none
                | byte :: rest =>
                  if byte = 0x7d then some ([(name, value)], rest)
                  else if byte = 0x2c then
                    (readMembers fuel rest).map fun (members, left) =>
                      ((name, value) :: members, left)
                  else none

end

/-- The value that a document holds. Only blanks may surround it. -/
def read (input : Bytes) : Option Json :=
  match readValue (2 * input.length + 2) input with
  | none => none
  | some (json, left) => if left.all isBlank then some json else none

end Json

end Alerting
