import Alerting.Json.Basic

/-!
# Writing JSON

The compact form has no blanks at all. The indented form puts each element and each
member on a line of its own, two columns further in than its parent; an empty list and
an empty object stay on one line.
-/

namespace Alerting

namespace Json

mutual

/-- The compact form of a value. -/
def print : Json → Bytes
  | .null => Bytes.ofText "null"
  | .bool true => Bytes.ofText "true"
  | .bool false => Bytes.ofText "false"
  | .number literal => literal
  | .string literal => 0x22 :: (literal ++ [0x22])
  | .array elements => 0x5b :: printElements elements
  | .object members => 0x7b :: printMembers members

/-- The elements of a list and the bracket that closes it. -/
def printElements : List Json → Bytes
  | [] => [0x5d]
  | [element] => print element ++ [0x5d]
  | element :: rest => print element ++ 0x2c :: printElements rest

/-- The members of an object and the brace that closes it. -/
def printMembers : List (Bytes × Json) → Bytes
  | [] => [0x7d]
  | [(name, value)] => 0x22 :: (name ++ 0x22 :: 0x3a :: (print value ++ [0x7d]))
  | (name, value) :: rest =>
    0x22 :: (name ++ 0x22 :: 0x3a :: (print value ++ 0x2c :: printMembers rest))

end

/-- A line break and the columns before the next line. -/
def newLine (columns : Nat) : Bytes := 0x0a :: List.replicate columns 0x20

mutual

/-- The indented form of a value that starts in a line indented by `columns`. -/
def printIndented (columns : Nat) : Json → Bytes
  | .array (element :: rest) =>
    0x5b :: (newLine (columns + 2) ++ printIndented (columns + 2) element ++
      indentedElements columns rest)
  | .object ((name, value) :: rest) =>
    0x7b :: (newLine (columns + 2) ++
      0x22 :: (name ++ 0x22 :: 0x3a :: 0x20 :: printIndented (columns + 2) value) ++
        indentedMembers columns rest)
  | .null => print .null
  | .bool value => print (.bool value)
  | .number literal => print (.number literal)
  | .string literal => print (.string literal)
  | .array [] => print (.array [])
  | .object [] => print (.object [])

/-- The elements after the first one. -/
def indentedElements (columns : Nat) : List Json → Bytes
  | [] => newLine columns ++ [0x5d]
  | element :: rest =>
    0x2c :: (newLine (columns + 2) ++ printIndented (columns + 2) element ++
      indentedElements columns rest)

/-- The members after the first one. -/
def indentedMembers (columns : Nat) : List (Bytes × Json) → Bytes
  | [] => newLine columns ++ [0x7d]
  | (name, value) :: rest =>
    0x2c :: (newLine (columns + 2) ++
      0x22 :: (name ++ 0x22 :: 0x3a :: 0x20 :: printIndented (columns + 2) value) ++
        indentedMembers columns rest)

end

/-- The compact form as text. -/
def toText (json : Json) : String := (Bytes.toText? json.print).getD ""

end Json

end Alerting
