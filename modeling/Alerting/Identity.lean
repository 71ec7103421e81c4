import Alerting.Identity.Encoding
import Alerting.Identity.Digest

/-!
# Entity identities

An entity is known by a 64-bit word, the digest of its identity encoding. Two entities
whose encodings share a digest share one place in a store; this is accepted.
-/

namespace Alerting

/-- The stable identity of an entity. -/
abbrev EntityId := UInt64

/-- The identity of the entity with these tags under an alert of a namespace. -/
def entityId (namespaceName : String) (alert : AlertId) (tags : Tags) : EntityId :=
  Digest.ofBytes (Identity.encode namespaceName alert tags)

/-- The sixteen lower-case hexadecimal digits of an identity. -/
def EntityId.hex (id : EntityId) : String :=
  let digits := Nat.toDigits 16 id.toNat
  String.ofList (List.replicate (16 - digits.length) '0' ++ digits)

end Alerting
