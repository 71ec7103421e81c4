import Alerting.Json.Basic
import Alerting.Toml.Text

/-!
# Numbers, dates and times of TOML

Integers are signed 64-bit words, written in decimal, or unsigned in base 16, 8 or 2;
single underscores may separate digits. A fraction or an exponent makes a number that no
setting takes, but it must be a finite one or negative. Dates and times are told apart
from numbers and kept as they are spelled.
-/

namespace Alerting

namespace Toml

/-- Reads digits, with single underscores between them; they are left out. -/
def readDigits (isDigit : Char → Bool) : List Char → List Char × List Char
  | [] => ([], [])
  | '_' :: digit :: rest =>
    if isDigit digit then
      let (digits, rest) := readDigits isDigit rest
      (digit :: digits, rest)
    else ([], '_' :: digit :: rest)
  | digit :: rest =>
    if isDigit digit then
      let (digits, rest) := readDigits isDigit rest
      (digit :: digits, rest)
    else ([], digit :: rest)

/-- Reads one or more digits, the first of them without an underscore before it. -/
def readDigits1 (isDigit : Char → Bool) (input : List Char) : Option (List Char × List Char) :=
  match input with
  | [] => none
  | first :: _ => if isDigit first then some (readDigits isDigit input) else none

/-- The number that digits spell in a base. -/
def valueOf (base : Nat) (digits : List Char) : Nat :=
  digits.foldl (fun total digit => base * total + (hexValue? digit).getD 0) 0

/-- Reads a sign; true is minus. -/
def readSign : List Char → Bool × List Char
  | '+' :: rest => (false, rest)
  | '-' :: rest => (true, rest)
  | input => (false, input)

/-- Reads decimal digits without a leading zero, or a lone zero. -/
def readWhole : List Char → Option (List Char × List Char)
  | '0' :: rest => some (['0'], rest)
  | input => readDigits1 Char.isDigit input

/-- An integer in the range of signed 64-bit words. -/
def word? (value : Int) : Option Json :=
  if Int64.minValue.toInt ≤ value ∧ value ≤ Int64.maxValue.toInt then some (.ofInt value)
  else none

/-- Reads an unsigned integer in a base, after what names the base. -/
def readInBase (base : Nat) (input : List Char) : Option (Json × List Char) := do
  let (digits, rest) ←
    readDigits1 (fun character => (hexValue? character).any (· < base)) input
  some (← word? (valueOf base digits), rest)

/-- Reads an integer. -/
def readInteger : List Char → Option (Json × List Char)
  | '0' :: 'x' :: rest => readInBase 16 rest
  | '0' :: 'o' :: rest => readInBase 8 rest
  | '0' :: 'b' :: rest => readInBase 2 rest
  | input => do
    let (isNegative, rest) := readSign input
    let (digits, rest) ← readWhole rest
    let value : Int := valueOf 10 digits
    some (← word? (if isNegative then -value else value), rest)

/-- The least number that rounds to infinity in 64-bit floating point. -/
def floatLimit : Nat := Nat.pow 2 1024 - Nat.pow 2 970

/--
Whether `digits` times the given power of ten rounds to a 64-bit floating-point number,
and not to infinity.
-/
def isFinite (digits : Nat) (exponent : Int) : Bool :=
  let length : Int := (Nat.toDigits 10 digits).length
  if digits = 0 ∨ length + exponent < 300 then true
  else if 320 < length + exponent then false
  else if 0 ≤ exponent then digits * Nat.pow 10 exponent.toNat < floatLimit
  else digits < floatLimit * Nat.pow 10 exponent.natAbs

/-- Reads a fraction, after its point. -/
def readFraction (input : List Char) : Option (List Char × List Char) :=
  match input with
  | '.' :: rest => readDigits1 Char.isDigit rest
  | _ => none

/-- Reads an exponent. -/
def readExponent (input : List Char) : Option (Int × List Char) :=
  match input with
  | 'e' :: rest | 'E' :: rest => do
    let (isNegative, rest) := readSign rest
    let (digits, rest) ← readDigits1 Char.isDigit rest
    let value : Int := valueOf 10 digits
    some (if isNegative then -value else value, rest)
  | _ => none

/-- The characters that a reader went over. -/
def consumed (input rest : List Char) : List Char := input.take (input.length - rest.length)

/-- A number as it is spelled. -/
def spelled (input rest : List Char) : Json :=
  .number (Bytes.ofText (String.ofList (consumed input rest)))

/-- Reads the names of infinity and of what is no number. -/
def readSpecial (input : List Char) : Option (Json × List Char) :=
  match (readSign input).2 with
  | 'i' :: 'n' :: 'f' :: rest => some (spelled input rest, rest)
  | 'n' :: 'a' :: 'n' :: rest => some (spelled input rest, rest)
  | _ => none

/-- Reads a number with a fraction or an exponent. -/
def readFloat (input : List Char) : Option (Json × List Char) := do
  let (isNegative, rest) := readSign input
  let (whole, rest) ← readWhole rest
  let (fraction, afterFraction) := (readFraction rest).getD ([], rest)
  let (exponent, afterExponent) := (readExponent afterFraction).getD (0, afterFraction)
  if afterExponent.length = rest.length then none
  else if isNegative ||
      isFinite (valueOf 10 (whole ++ fraction)) (exponent - fraction.length) then
    some (spelled input afterExponent, afterExponent)
  else none

/-- Reads a number of exactly `count` digits in a range. -/
def readFixed (count least greatest : Nat) (input : List Char) : Option (Nat × List Char) :=
  let digits := input.take count
  let value := valueOf 10 digits
  if digits.length = count ∧ digits.all Char.isDigit ∧ least ≤ value ∧ value ≤ greatest then
    some (value, input.drop count)
  else none

/-- What follows one given character. -/
def readChar (expected : Char) : List Char → Option (List Char)
  | [] => none
  | character :: rest => if character = expected then some rest else none

/-- The days of a month. -/
def daysOf (year month : Nat) : Nat :=
  if month = 2 then
    if year % 4 = 0 ∧ (year % 100 ≠ 0 ∨ year % 400 = 0) then 29 else 28
  else if month = 4 ∨ month = 6 ∨ month = 9 ∨ month = 11 then 30
  else 31

/-- Skips a date. -/
def skipDate (input : List Char) : Option (List Char) := do
  let (year, input) ← readFixed 4 0 9999 input
  let (month, input) ← readFixed 2 1 12 (← readChar '-' input)
  let (_, input) ← readFixed 2 1 (daysOf year month) (← readChar '-' input)
  some input

/-- Skips the fraction of a second, if one begins here. -/
def skipSecondFraction (input : List Char) : List Char :=
  match input with
  | '.' :: digit :: rest => if digit.isDigit then rest.dropWhile Char.isDigit else input
  | _ => input

/-- Skips a time of day. -/
def skipTime (input : List Char) : Option (List Char) := do
  let (_, input) ← readFixed 2 0 23 input
  let (_, input) ← readFixed 2 0 59 (← readChar ':' input)
  let (_, input) ← readFixed 2 0 60 (← readChar ':' input)
  some (skipSecondFraction input)

/-- Skips the distance from universal time, if one begins here. -/
def skipOffset (input : List Char) : List Char :=
  let numeric (rest : List Char) : Option (List Char) := do
    let (_, rest) ← readFixed 2 0 23 rest
    let (_, rest) ← readFixed 2 0 59 (← readChar ':' rest)
    some rest
  match input with
  | 'Z' :: rest | 'z' :: rest => rest
  | '+' :: rest | '-' :: rest => (numeric rest).getD input
  | _ => input

/-- Skips a date with or without a time, or a time. -/
def skipDateTime (input : List Char) : Option (List Char) :=
  match skipDate input with
  | none => skipTime input
  | some rest =>
    match rest with
    | [] => some []
    | delimiter :: time =>
      if delimiter = 'T' ∨ delimiter = 't' ∨ delimiter = ' ' then
        match skipTime time with
        | some rest => some (skipOffset rest)
        | none => some rest
      else some rest

/-- Reads a date, a time, or both: a record with one member that no setting is named by. -/
def readDateTime (input : List Char) : Option (Json × List Char) :=
  (skipDateTime input).map fun rest =>
    (.record [("date-time", .ofText (String.ofList (consumed input rest)))], rest)

/-- Reads whatever begins with a digit or a sign, or a special number. -/
def readNumber (input : List Char) : Option (Json × List Char) :=
  (readDateTime input).or ((readFloat input).or ((readSpecial input).or (readInteger input)))

end Toml

end Alerting
