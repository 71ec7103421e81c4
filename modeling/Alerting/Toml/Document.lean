import Alerting.Bytes
import Alerting.Toml.Number
import Alerting.Toml.Table

/-!
# Documents of TOML

A document is read line by line: a header opens a table, a key with a value adds to the
table opened last. What is read is the JSON value that the document denotes.
-/

namespace Alerting

namespace Toml

/-- A reader of values. -/
abbrev ValueReader := List Char → Option (Json × List Char)

/-- Reads the elements of an array, after a bracket or a comma. -/
def readElements (readOne : ValueReader) : Nat → List Char → Option (List Json × List Char)
  | 0, _ => none
  | fuel + 1, input =>
    match skipTrivia false input with
    | ']' :: rest => some ([], rest)
    | input =>
      match readOne input with
      | none => none
      | some (element, rest) =>
        match skipTrivia false rest with
        | ']' :: rest => some ([element], rest)
        | ',' :: rest =>
          (readElements readOne fuel rest).map fun (elements, rest) =>
            (element :: elements, rest)
        | _ => none

/-- Splits a key into its last part and the path to it. -/
def splitKey (key : List String) : Option (List String × String) :=
  key.getLast?.map fun last => (key.dropLast, last)

/-- Reads a key, the equals sign and the value, and adds them to a table. -/
def readEntry (readOne : ValueReader) (input : List Char)
    (add : List String → String → Json → Option Table) : Option (Table × List Char) := do
  let (key, rest) ← readKey input
  let (value, rest) ← readOne (skipBlanks (← readChar '=' rest))
  let (path, last) ← splitKey key
  some (← add path last value, rest)

/-- Reads the entries of an inline table, after a brace or a comma. -/
def readInlineEntries (readOne : ValueReader) : Nat → Table → List Char →
    Option (Table × List Char)
  | 0, _, _ => none
  | fuel + 1, table, input =>
    match readEntry readOne input table.define with
    | none => none
    | some (table, rest) =>
      match skipBlanks rest with
      | '\x7d' :: rest => some (table, rest)
      | ',' :: rest => readInlineEntries readOne fuel table rest
      | _ => none

/-- Reads an inline table, after its brace. -/
def readInlineTable (readOne : ValueReader) (input : List Char) :
    Option (Json × List Char) :=
  match skipBlanks input with
  | '\x7d' :: rest => some (.object [], rest)
  | _ =>
    (readInlineEntries readOne input.length (.empty .header) input).map
      fun (table, rest) => (table.toJson, rest)

/-- Reads a value without parts. -/
def readScalar (input : List Char) : Option (Json × List Char) :=
  match input with
  | '"' :: _ | '\'' :: _ =>
    (readString input).map fun (text, rest) => (.ofText (String.ofList text), rest)
  | 't' :: 'r' :: 'u' :: 'e' :: rest => some (.bool true, rest)
  | 'f' :: 'a' :: 'l' :: 's' :: 'e' :: rest => some (.bool false, rest)
  | _ => readNumber input

/-- Reads a value with arrays and inline tables nested up to `depth` levels. -/
def readValue : Nat → ValueReader
  | 0, input => readScalar input
  | depth + 1, input =>
    match input with
    | '[' :: rest =>
      (readElements (readValue depth) input.length rest).map fun (elements, rest) =>
        (.array elements, rest)
    | '\x7b' :: rest => readInlineTable (readValue depth) rest
    | _ => readScalar input

/-- A document under construction. -/
structure Document where
  root : Table
  /-- Where the table that was opened last stands. -/
  current : List String

namespace Document

/-- The document without lines. -/
def empty : Document := ⟨.empty .header, []⟩

/-- Adds a value to the table that was opened last. -/
def define (document : Document) (path : List String) (key : String) (value : Json) :
    Option Table :=
  document.root.modify false (fun table => table.define path key value) document.current

/-- Reads a header, after its brackets. -/
def readHeader (document : Document) (isArray : Bool) (input : List Char) :
    Option (Document × List Char) := do
  let (key, rest) ← readKey input
  let rest ← readChar ']' rest
  let rest ← if isArray then readChar ']' rest else some rest
  let (path, last) ← splitKey key
  let root ← if isArray then document.root.openNext? path last else document.root.open? path last
  some (⟨root, key⟩, rest)

/-- Reads one line that is not blank, up to its end. -/
def readLine (document : Document) (input : List Char) : Option (Document × List Char) :=
  match input with
  | '[' :: '[' :: rest => document.readHeader true rest
  | '[' :: rest => document.readHeader false rest
  | '#' :: _ => some (document, input)
  | _ =>
    (readEntry (readValue (nestingLimit - 1)) input document.define).map fun (root, rest) =>
      ({ document with root }, rest)

/-- Reads the lines of a document. -/
def readLines : Nat → Document → List Char → Option Document
  | 0, _, _ => none
  | fuel + 1, document, input =>
    match skipBlanks input with
    | [] => some document
    | input =>
      match readNewline input with
      | some rest => readLines fuel document rest
      | none =>
        match document.readLine input with
        | none => none
        | some (document, rest) =>
          match readLineEnd rest with
          | none => none
          | some rest => readLines fuel document rest

end Document

/-- A byte order mark may stand before a document. -/
def skipByteOrderMark : List Char → List Char
  | '\ufeff' :: rest => rest
  | input => input

/-- The value that a document denotes. -/
def read (text : String) : Option Json :=
  let input := skipByteOrderMark text.toList
  (Document.readLines (input.length + 1) .empty input).map fun document => document.root.toJson

end Toml

end Alerting
