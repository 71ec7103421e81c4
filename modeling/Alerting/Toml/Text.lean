/-!
# Characters, blanks and strings of TOML

Readers take the remaining characters and return what they found and what they leave. A
reader that stops early leaves something that nothing after it accepts, so an input with
a mistake is refused as a whole wherever the mistake is noticed.
-/

namespace Alerting

namespace Toml

/-- Space and tab. -/
def isBlank (character : Char) : Bool := character == ' ' || character == '\t'

/-- A character that may stand in a comment. -/
def isCommentChar (character : Char) : Bool :=
  character == '\t' || (' ' ≤ character && character ≠ '\x7f')

/-- A character that stands for itself in a string in double quotes. -/
def isBasicChar (character : Char) : Bool :=
  isCommentChar character && character ≠ '"' && character ≠ '\\'

/-- A character that may stand in a string in single quotes. -/
def isLiteralChar (character : Char) : Bool := isCommentChar character && character ≠ '\''

/-- A character of a key without quotes. -/
def isBareKeyChar (character : Char) : Bool :=
  character.isAlphanum || character == '_' || character == '-'

def skipBlanks (input : List Char) : List Char := input.dropWhile isBlank

/-- What follows a line break: a line feed, or a carriage return and a line feed. -/
def readNewline : List Char → Option (List Char)
  | '\n' :: rest => some rest
  | '\r' :: '\n' :: rest => some rest
  | _ => none

/-- Skips blanks and line breaks. -/
def skipBlankLines : List Char → List Char
  | '\r' :: '\n' :: rest => skipBlankLines rest
  | character :: rest =>
    if isBlank character || character == '\n' then skipBlankLines rest else character :: rest
  | [] => []

/-- Skips blanks, line breaks and comments. -/
def skipTrivia (inComment : Bool) : List Char → List Char
  | '\r' :: '\n' :: rest => skipTrivia false rest
  | character :: rest =>
    if inComment && isCommentChar character then skipTrivia true rest
    else if isBlank character || character == '\n' then skipTrivia false rest
    else if character == '#' then skipTrivia true rest
    else character :: rest
  | [] => []

/-- Skips a comment, if one begins here. -/
def skipComment : List Char → List Char
  | '#' :: rest => rest.dropWhile isCommentChar
  | input => input

/-- What follows the rest of a line: blanks, a comment, and a line break or the end. -/
def readLineEnd (input : List Char) : Option (List Char) :=
  match skipComment (skipBlanks input) with
  | [] => some []
  | rest => readNewline rest

/-- The value of a hexadecimal digit. -/
def hexValue? (character : Char) : Option Nat :=
  if character.isDigit then some (character.toNat - 0x30)
  else if 'a' ≤ character ∧ character ≤ 'f' then some (character.toNat - 0x57)
  else if 'A' ≤ character ∧ character ≤ 'F' then some (character.toNat - 0x37)
  else none

/-- The character whose code point is spelled with `count` hexadecimal digits. -/
def readCodePoint (count : Nat) (input : List Char) : Option (Char × List Char) := do
  let digits ← (input.take count).mapM hexValue?
  let codePoint := digits.foldl (fun total digit => 16 * total + digit) 0
  if digits.length = count ∧ codePoint.isValidChar then
    some (Char.ofNat codePoint, input.drop count)
  else none

/-- The character that an escape spells, after its backslash. -/
def readEscape : List Char → Option (Char × List Char)
  | 'b' :: rest => some ('\x08', rest)
  | 't' :: rest => some ('\t', rest)
  | 'n' :: rest => some ('\n', rest)
  | 'f' :: rest => some ('\x0c', rest)
  | 'r' :: rest => some ('\r', rest)
  | '"' :: rest => some ('"', rest)
  | '\\' :: rest => some ('\\', rest)
  | 'u' :: rest => readCodePoint 4 rest
  | 'U' :: rest => readCodePoint 8 rest
  | _ => none

/-- Puts a character before what a reader found. -/
def prependChar (character : Char) (found : Option (List Char × List Char)) :
    Option (List Char × List Char) :=
  found.map fun (text, rest) => (character :: text, rest)

/-- Reads a string in double quotes, after the opening quote. -/
def readBasic : Nat → List Char → Option (List Char × List Char)
  | 0, _ => none
  | _ + 1, [] => none
  | fuel + 1, character :: rest =>
    if character = '"' then some ([], rest)
    else if character = '\\' then
      match readEscape rest with
      | none => none
      | some (plain, rest) => prependChar plain (readBasic fuel rest)
    else if isBasicChar character then prependChar character (readBasic fuel rest)
    else none

/-- Reads a string in single quotes, after the opening quote. -/
def readLiteral (input : List Char) : Option (List Char × List Char) :=
  match input.dropWhile isLiteralChar with
  | '\'' :: rest => some (input.takeWhile isLiteralChar, rest)
  | _ => none

/--
The quotes at the start of the input. Three to five close a string of many lines, which
then ends with the quotes beyond three; fewer stand for themselves.
-/
def closingQuotes? (quote : Char) (input : List Char) : Option (List Char × List Char) :=
  let count := (input.takeWhile (· == quote)).length
  if 3 ≤ count then some (List.replicate (min count 5 - 3) quote, input.drop (min count 5))
  else none

/-- Reads a string of many lines in double quotes, after the opening quotes. -/
def readBasicLines : Nat → List Char → Option (List Char × List Char)
  | 0, _ => none
  | fuel + 1, input =>
    match closingQuotes? '"' input with
    | some closed => some closed
    | none =>
      match input with
      | [] => none
      | character :: rest =>
        if character = '\\' then
          match readNewline (skipBlanks rest) with
          | some rest => readBasicLines fuel (skipBlankLines rest)
          | none =>
            match readEscape rest with
            | none => none
            | some (plain, rest) => prependChar plain (readBasicLines fuel rest)
        else if isBasicChar character || character = '"' then
          prependChar character (readBasicLines fuel rest)
        else
          match readNewline input with
          | some rest => prependChar '\n' (readBasicLines fuel rest)
          | none => none

/-- Reads a string of many lines in single quotes, after the opening quotes. -/
def readLiteralLines : Nat → List Char → Option (List Char × List Char)
  | 0, _ => none
  | fuel + 1, input =>
    match closingQuotes? '\'' input with
    | some closed => some closed
    | none =>
      match input with
      | [] => none
      | character :: rest =>
        if isLiteralChar character || character = '\'' then
          prependChar character (readLiteralLines fuel rest)
        else
          match readNewline input with
          | some rest => prependChar '\n' (readLiteralLines fuel rest)
          | none => none

/-- A line break right after the opening quotes does not count. -/
def skipNewline (input : List Char) : List Char := (readNewline input).getD input

/-- Reads a string on one line, quotes included. -/
def readQuoted : List Char → Option (List Char × List Char)
  | '"' :: rest => readBasic (rest.length + 1) rest
  | '\'' :: rest => readLiteral rest
  | _ => none

/-- Reads a string of any kind. -/
def readString : List Char → Option (List Char × List Char)
  | '"' :: '"' :: '"' :: rest => readBasicLines (rest.length + 1) (skipNewline rest)
  | '\'' :: '\'' :: '\'' :: rest => readLiteralLines (rest.length + 1) (skipNewline rest)
  | input => readQuoted input

/-- Reads one part of a key: in quotes, or without. -/
def readKeyPart (input : List Char) : Option (String × List Char) :=
  match input with
  | '"' :: _ | '\'' :: _ => (readQuoted input).map fun (text, rest) => (String.ofList text, rest)
  | _ =>
    let text := input.takeWhile isBareKeyChar
    if text.isEmpty then none else some (String.ofList text, input.drop text.length)

/-- Reads parts of a key with points between them, and the blanks around them. -/
def readKeyParts : Nat → List Char → Option (List String × List Char)
  | 0, _ => none
  | fuel + 1, input =>
    match readKeyPart (skipBlanks input) with
    | none => none
    | some (part, rest) =>
      match skipBlanks rest with
      | '.' :: rest => (readKeyParts fuel rest).map fun (parts, rest) => (part :: parts, rest)
      | rest => some ([part], rest)

/-- The nesting at which a document is refused. -/
def nestingLimit : Nat := 80

/-- Reads a key. It names a table at every point, and so it may not be too long. -/
def readKey (input : List Char) : Option (List String × List Char) :=
  (readKeyParts (input.length + 1) input).filter fun key => key.1.length < nestingLimit

end Toml

end Alerting
