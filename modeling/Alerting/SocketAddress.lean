/-!
# Socket addresses

The address and port that metrics are served at: an IPv4 address in dotted decimals, or
an IPv6 address in brackets, with an optional numeric zone. An address has one shown
form, in which the longest row of zero groups is left out.
-/

namespace Alerting

/-- An IPv4 or IPv6 address with a port. -/
inductive SocketAddress where
  | v4 (octets : List UInt8) (port : UInt16)
  /-- Eight groups, and the zone, which is zero where there is none. -/
  | v6 (groups : List UInt16) (zone : UInt32) (port : UInt16)
  deriving DecidableEq, Repr

namespace SocketAddress

/-- The value of a digit in a base of at most sixteen. -/
def digitValue? (base : Nat) (character : Char) : Option Nat :=
  let value? :=
    if character.isDigit then some (character.toNat - 0x30)
    else if 'a' ≤ character ∧ character ≤ 'f' then some (character.toNat - 0x57)
    else if 'A' ≤ character ∧ character ≤ 'F' then some (character.toNat - 0x37)
    else none
  value?.filter (· < base)

/-- Reads as many digits as there are. -/
def readNumber (base : Nat) (input : List Char) : Option (List Nat × List Char) :=
  let digits := input.takeWhile fun character => (digitValue? base character).isSome
  if digits.isEmpty then none
  else some (digits.filterMap (digitValue? base), input.drop digits.length)

/-- The number that digits spell. -/
def valueOf (base : Nat) (digits : List Nat) : Nat :=
  digits.foldl (fun total digit => base * total + digit) 0

/-- Reads one given character. -/
def readChar (expected : Char) : List Char → Option (List Char)
  | [] => none
  | character :: rest => if character = expected then some rest else none

/-- Reads a number of at most three decimal digits without leading zeros, below 256. -/
def readOctet (input : List Char) : Option (UInt8 × List Char) := do
  let (digits, rest) ← readNumber 10 input
  let value := valueOf 10 digits
  if digits.length > 3 ∨ (digits.length > 1 ∧ digits.head? = some 0) ∨ value > 255 then none
  else some (UInt8.ofNat value, rest)

/-- Reads four octets with points between them. -/
def readV4 (input : List Char) : Option (List UInt8 × List Char) := do
  let (first, input) ← readOctet input
  let (second, input) ← readOctet (← readChar '.' input)
  let (third, input) ← readOctet (← readChar '.' input)
  let (fourth, input) ← readOctet (← readChar '.' input)
  some ([first, second, third, fourth], input)

/-- Reads a group of at most four hexadecimal digits. -/
def readGroup (input : List Char) : Option (UInt16 × List Char) := do
  let (digits, rest) ← readNumber 16 input
  if digits.length > 4 then none else some (UInt16.ofNat (valueOf 16 digits), rest)

/-- The two groups that an IPv4 address fills. -/
def groupsOfV4 (octets : List UInt8) : List UInt16 :=
  match octets with
  | [first, second, third, fourth] =>
    [UInt16.ofNat (256 * first.toNat + second.toNat),
      UInt16.ofNat (256 * third.toNat + fourth.toNat)]
  | _ => []

/--
Reads up to `limit` groups with colons between them and says whether they end with an
embedded IPv4 address, which takes the place of two groups.
-/
def readGroups : Nat → Bool → List Char → List UInt16 × Bool × List Char
  | 0, _, input => ([], false, input)
  | limit + 1, isFirst, input =>
    let after? := if isFirst then some input else readChar ':' input
    match (if limit = 0 then none else after?.bind readV4) with
    | some (octets, rest) => (groupsOfV4 octets, true, rest)
    | none =>
      match after?.bind readGroup with
      | none => ([], false, input)
      | some (group, rest) =>
        let (others, endsInV4, rest) := readGroups limit false rest
        (group :: others, endsInV4, rest)

/-- Reads eight groups, or fewer with a double colon in place of one or more zero groups. -/
def readV6 (input : List Char) : Option (List UInt16 × List Char) := do
  let (front, endsInV4, rest) := readGroups 8 true input
  if front.length = 8 then some (front, rest)
  else if endsInV4 then none
  else do
    let rest ← readChar ':' (← readChar ':' rest)
    let (back, _, rest) := readGroups (7 - front.length) true rest
    some (front ++ List.replicate (8 - front.length - back.length) 0 ++ back, rest)

/-- Reads the port that ends an address. -/
def readPort (input : List Char) : Option UInt16 := do
  let (digits, rest) ← readNumber 10 (← readChar ':' input)
  let value := valueOf 10 digits
  if rest.isEmpty ∧ value < UInt16.size then some (UInt16.ofNat value) else none

/-- Reads an optional zone. -/
def readZone (input : List Char) : Option (UInt32 × List Char) :=
  match readChar '%' input with
  | none => some (0, input)
  | some rest => do
    let (digits, rest) ← readNumber 10 rest
    let value := valueOf 10 digits
    if value < UInt32.size then some (UInt32.ofNat value, rest) else none

/-- The address that a text spells. -/
def ofText? (text : String) : Option SocketAddress :=
  match text.toList with
  | '[' :: input => do
    let (groups, input) ← readV6 input
    let (zone, input) ← readZone input
    some (.v6 groups zone (← readPort (← readChar ']' input)))
  | input => do
    let (octets, input) ← readV4 input
    some (.v4 octets (← readPort input))

/-- Four octets with points between them. -/
def displayV4 (octets : List UInt8) : String :=
  String.intercalate "." (octets.map fun octet => toString octet.toNat)

/-- Groups with colons between them, in lower-case hexadecimal digits. -/
def displayGroups (groups : List UInt16) : String :=
  String.intercalate ":" (groups.map fun group => String.ofList (Nat.toDigits 16 group.toNat))

/-- The start and length of the first longest row of zeros in a list that begins at `start`. -/
def longestZeros (start : Nat) (groups : List UInt16) : Nat × Nat :=
  match groups with
  | [] => (start, 0)
  | _ :: rest =>
    let here := (groups.takeWhile (· == 0)).length
    let later := longestZeros (start + 1) rest
    if later.2 ≤ here then (start, here) else later

/-- The shown form of the eight groups of an IPv6 address. -/
def displayV6 (groups : List UInt16) : String :=
  match groups with
  | [0, 0, 0, 0, 0, 0xffff, high, low] =>
    "::ffff:" ++ displayV4
      [UInt8.ofNat (high.toNat / 256), UInt8.ofNat high.toNat,
        UInt8.ofNat (low.toNat / 256), UInt8.ofNat low.toNat]
  | _ =>
    let (start, length) := longestZeros 0 groups
    if 1 < length then
      displayGroups (groups.take start) ++ "::" ++ displayGroups (groups.drop (start + length))
    else displayGroups groups

/-- The one shown form of an address. -/
def display : SocketAddress → String
  | .v4 octets port => displayV4 octets ++ ":" ++ toString port.toNat
  | .v6 groups zone port =>
    "[" ++ displayV6 groups ++ (if zone = 0 then "" else "%" ++ toString zone.toNat) ++ "]:" ++
      toString port.toNat

end SocketAddress

end Alerting
