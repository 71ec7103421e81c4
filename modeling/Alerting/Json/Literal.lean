import Alerting.Bytes

/-!
# String and integer literals

Two pairs of functions, one that writes and one that reads. A string literal is the byte
sequence between the quotes: writing escapes the quote, the backslash and the control
characters and nothing else; reading resolves every escape and refuses half of a
surrogate pair. An integer literal is a plain decimal without leading zeros.
-/

namespace Alerting

namespace Json

/-- The byte of a hexadecimal digit, in lower case. -/
def hexDigit (value : Nat) : UInt8 :=
  if value < 10 then UInt8.ofNat (0x30 + value) else UInt8.ofNat (0x57 + value)

/-- The value of a hexadecimal digit in either case. -/
def hexValue? (byte : UInt8) : Option Nat :=
  if 0x30 ≤ byte ∧ byte ≤ 0x39 then some (byte.toNat - 0x30)
  else if 0x61 ≤ byte ∧ byte ≤ 0x66 then some (byte.toNat - 0x57)
  else if 0x41 ≤ byte ∧ byte ≤ 0x46 then some (byte.toNat - 0x37)
  else none

/-- The spelling of one byte inside a string literal. -/
def escapeByte (byte : UInt8) : Bytes :=
  if byte = 0x22 then [0x5c, 0x22]
  else if byte = 0x5c then [0x5c, 0x5c]
  else if byte = 0x08 then [0x5c, 0x62]
  else if byte = 0x09 then [0x5c, 0x74]
  else if byte = 0x0a then [0x5c, 0x6e]
  else if byte = 0x0c then [0x5c, 0x66]
  else if byte = 0x0d then [0x5c, 0x72]
  else if byte < 0x20 then
    [0x5c, 0x75, 0x30, 0x30, hexDigit (byte.toNat / 16), hexDigit (byte.toNat % 16)]
  else [byte]

/-- The string literal of a byte sequence. -/
def escape (bytes : Bytes) : Bytes := bytes.flatMap escapeByte

/-- The byte that a one-letter escape stands for. -/
def shortEscape? (letter : UInt8) : Option UInt8 :=
  if letter = 0x22 then some 0x22
  else if letter = 0x5c then some 0x5c
  else if letter = 0x2f then some 0x2f
  else if letter = 0x62 then some 0x08
  else if letter = 0x66 then some 0x0c
  else if letter = 0x6e then some 0x0a
  else if letter = 0x72 then some 0x0d
  else if letter = 0x74 then some 0x09
  else none

/-- The number that four hexadecimal digits spell. -/
def hexQuad? (first second third fourth : UInt8) : Option Nat := do
  let high := 16 * (← hexValue? first) + (← hexValue? second)
  some (256 * high + 16 * (← hexValue? third) + (← hexValue? fourth))

def isHighSurrogate (unit : Nat) : Bool := 0xd800 ≤ unit && unit < 0xdc00

def isLowSurrogate (unit : Nat) : Bool := 0xdc00 ≤ unit && unit < 0xe000

/-- The UTF-8 bytes of a code point. -/
def codePointBytes (codePoint : Nat) : Bytes := String.utf8EncodeChar (Char.ofNat codePoint)

/-- Resolves the escapes of a string literal. -/
def unescape : Bytes → Option Bytes
  | [] => some []
  | byte :: rest =>
    if byte ≠ 0x5c then (unescape rest).map (byte :: ·)
    else match rest with
      | [] => none
      | letter :: rest =>
        if letter ≠ 0x75 then
          match shortEscape? letter with
          | none => none
          | some plain => (unescape rest).map (plain :: ·)
        else match rest with
          | d1 :: d2 :: d3 :: d4 :: rest =>
            match hexQuad? d1 d2 d3 d4 with
            | none => none
            | some unit =>
              if isLowSurrogate unit then none
              else if isHighSurrogate unit then
                match rest with
                | slash :: mark :: e1 :: e2 :: e3 :: e4 :: rest =>
                  if slash = 0x5c ∧ mark = 0x75 then
                    match hexQuad? e1 e2 e3 e4 with
                    | none => none
                    | some low =>
                      if isLowSurrogate low then
                        (unescape rest).map
                          (codePointBytes (0x10000 + 0x400 * (unit - 0xd800) + (low - 0xdc00))
                            ++ ·)
                      else none
                  else none
                | _ => none
              else (unescape rest).map (codePointBytes unit ++ ·)
          | _ => none

/-- The string literal of a text. -/
def literalOfText (text : String) : Bytes := escape (Bytes.ofText text)

/-- The text that a string literal spells. -/
def literalText? (literal : Bytes) : Option String := (unescape literal).bind Bytes.toText?

def isDigit (byte : UInt8) : Bool := 0x30 ≤ byte && byte ≤ 0x39

/-- The decimal digits of a number, without leading zeros. -/
def decimal (number : Nat) : Bytes :=
  if number < 10 then [hexDigit number]
  else decimal (number / 10) ++ [hexDigit (number % 10)]

/-- The decimal literal of an integer. -/
def integerLiteral : Int → Bytes
  | .ofNat number => decimal number
  | .negSucc number => 0x2d :: decimal (number + 1)

/-- The number that decimal digits spell; leading zeros and an empty sequence are refused. -/
def natural? (literal : Bytes) : Option Nat :=
  if literal.isEmpty || !literal.all isDigit || (literal.length > 1 && literal.head? == some 0x30)
  then none
  else some (literal.foldl (fun total digit => 10 * total + (digit.toNat - 0x30)) 0)

/-- The integer that a literal spells; zero has no sign. -/
def integer? : Bytes → Option Int
  | [] => none
  | byte :: rest =>
    if byte = 0x2d then
      match natural? rest with
      | some (number + 1) => some (.negSucc number)
      | _ => none
    else (natural? (byte :: rest)).map Int.ofNat

end Json

end Alerting
