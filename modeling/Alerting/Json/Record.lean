import Alerting.Json.Basic

/-!
# Records and alternatives

How a record and a choice between alternatives are read from a value. A record is an
object, or the list of its fields in their order; a member that names no field is
ignored or refused, and a field given twice is refused. The two notations in use, JSON
and TOML, differ in what the value of a bare alternative is and in surplus elements.
-/

namespace Alerting

namespace Json

/-- Where the two notations for records differ. -/
structure Dialect where
  /-- A record written as a list may have elements after its last field. -/
  allowsSurplus : Bool
  /-- The value that stands beside a bare alternative in its object form. -/
  isBare : Json → Bool

namespace Dialect

/-- JSON: no surplus elements, and `null` beside a bare alternative. -/
def json : Dialect := ⟨false, isNull⟩

/-- TOML: surplus elements are ignored, and an empty table or list stands for nothing. -/
def toml : Dialect := ⟨true, fun
  | .object [] => true
  | .array [] => true
  | _ => false⟩

end Dialect

/-- Whether members that name no field are refused. -/
inductive UnknownMembers where
  | ignored
  | refused
  deriving DecidableEq

/-- The only value given for a field; none if there is none, and no answer if there are two. -/
def soleValue? (name : String) (members : List (String × Json)) : Option (Option Json) :=
  match members.filter fun member => member.1 == name with
  | [] => some none
  | [(_, value)] => some (some value)
  | _ => none

/-- The members of an object with their names resolved. -/
def namedMembers? (members : List (Bytes × Json)) : Option (List (String × Json)) :=
  members.mapM fun member => (literalText? member.1).map fun name => (name, member.2)

/-- The values given for the fields of a record, in the order of the fields. -/
def fields? (dialect : Dialect) (unknown : UnknownMembers) (names : List String) :
    Json → Option (List (Option Json))
  | .object members => do
    let named ← namedMembers? members
    if unknown = .refused ∧ named.any fun member => !names.contains member.1 then none
    else names.mapM fun name => soleValue? name named
  | .array elements =>
    if elements.length ≤ names.length then
      some (elements.map some ++ List.replicate (names.length - elements.length) none)
    else if dialect.allowsSurplus then some ((elements.take names.length).map some)
    else none
  | _ => none

/-- A field that must be given. -/
def required {α : Type} (read : Json → Option α) (value : Option Json) : Option α :=
  value.bind read

/-- A field with a value of its own where none is given. -/
def withDefault {α : Type} (default : α) (read : Json → Option α) : Option Json → Option α
  | none => some default
  | some value => read value

/-- A field that may be left out or be `null`. -/
def nullable {α : Type} (read : Json → Option α) : Option Json → Option (Option α) :=
  withDefault none (optional? read)

/-- The name of a bare alternative: a string, or an object with this one member. -/
def bareAlternative? (dialect : Dialect) : Json → Option String
  | .string literal => literalText? literal
  | .object [(name, value)] => if dialect.isBare value then literalText? name else none
  | _ => none

/-- The alternative that a value names. -/
def alternative? {α : Type} (dialect : Dialect) (alternatives : List (String × α))
    (json : Json) : Option α :=
  (bareAlternative? dialect json).bind fun name => alternatives.lookup name

end Json

end Alerting
