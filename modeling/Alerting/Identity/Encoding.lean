import Alerting.Bytes
import Alerting.Tags

/-!
# The identity encoding

The bytes that name an entity: its namespace, its alert, and its tags. Every string
stands after its length, and the tags stand after their number, so no byte of one field
can be read as a byte of another, and no encoding continues another.
-/

namespace Alerting

/-- The key of an alert definition. -/
abbrev AlertId := UInt64

namespace Identity

/-- The eight bytes of a word, lowest first. -/
def word (value : UInt64) : Bytes := Bytes.littleEndian 8 value.toNat

/-- A text after its length in bytes. -/
def field (text : String) : Bytes :=
  let bytes := Bytes.ofText text
  word (UInt64.ofNat bytes.length) ++ bytes

/-- The bytes that name the entity with these tags under an alert of a namespace. -/
def encode (namespaceName : String) (alert : AlertId) (tags : Tags) : Bytes :=
  field namespaceName ++ word alert ++ word (UInt64.ofNat tags.size) ++
    tags.toList.flatMap fun tag => field tag.1 ++ field tag.2

end Identity

end Alerting
