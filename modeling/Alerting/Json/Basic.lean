import Alerting.Json.Literal

/-!
# JSON values

A JSON value as it is spelled. Strings, member names and numbers keep the bytes of their
literals, because what a literal must satisfy depends on who reads it: a member that
nobody asks for may hold a number beyond every range or half of a surrogate pair, and a
numeric key is judged by its characters, not by what they spell. Readers of single
values ask for the meaning of a literal.
-/

namespace Alerting

/-- A JSON value with the literals it is spelled with. -/
inductive Json where
  | null
  | bool (value : Bool)
  | number (literal : Bytes)
  | string (literal : Bytes)
  | array (elements : List Json)
  | object (members : List (Bytes × Json))
  deriving Repr, Inhabited

namespace Json

/-- The value that spells a text. -/
def ofText (text : String) : Json := .string (literalOfText text)

def ofInt (value : Int) : Json := .number (integerLiteral value)

def ofNat (value : Nat) : Json := .number (decimal value)

def ofUInt64 (value : UInt64) : Json := ofNat value.toNat

def ofInt64 (value : Int64) : Json := ofInt value.toInt

/-- An absent value is written as `null`. -/
def ofOption {α : Type} (write : α → Json) : Option α → Json
  | none => .null
  | some value => write value

def ofList {α : Type} (write : α → Json) (values : List α) : Json := .array (values.map write)

/-- An object with the given members, in this order. -/
def record (members : List (String × Json)) : Json :=
  .object (members.map fun member => (literalOfText member.1, member.2))

def isNull : Json → Bool
  | .null => true
  | _ => false

def bool? : Json → Option Bool
  | .bool value => some value
  | _ => none

/-- The text that a string spells. -/
def text? : Json → Option String
  | .string literal => literalText? literal
  | _ => none

/-- The integer that a number spells, if it lies in the given range. -/
def integerWithin? (least greatest : Int) : Json → Option Int
  | .number literal => (integer? literal).filter fun value => least ≤ value ∧ value ≤ greatest
  | _ => none

def uint32? (json : Json) : Option UInt32 :=
  (json.integerWithin? 0 (UInt32.size - 1)).map fun value => UInt32.ofNat value.toNat

def uint64? (json : Json) : Option UInt64 :=
  (json.integerWithin? 0 (UInt64.size - 1)).map fun value => UInt64.ofNat value.toNat

def int64? (json : Json) : Option Int64 :=
  (json.integerWithin? Int64.minValue.toInt Int64.maxValue.toInt).map Int64.ofInt

/-- A list, every element of which can be read. -/
def list? {α : Type} (read : Json → Option α) : Json → Option (List α)
  | .array elements => elements.mapM read
  | _ => none

/-- `null` counts as absent. -/
def optional? {α : Type} (read : Json → Option α) : Json → Option (Option α)
  | .null => some none
  | json => (read json).map some

end Json

end Alerting
