/-!
# The 64-bit digest of an identity

XXH3 with 64-bit results and seed 0, for inputs of more than 16 bytes; an identity
encoding has at least 24. Inputs up to 128 and up to 240 bytes are mixed pairwise from
both ends or in order, longer ones in stripes of 64 bytes over eight accumulators.
-/

namespace Alerting

namespace Digest

/-- The fixed key that every part of the input is mixed with. -/
def secret : Array UInt8 := #[
  0xb8, 0xfe, 0x6c, 0x39, 0x23, 0xa4, 0x4b, 0xbe, 0x7c, 0x01, 0x81, 0x2c, 0xf7, 0x21, 0xad, 0x1c,
  0xde, 0xd4, 0x6d, 0xe9, 0x83, 0x90, 0x97, 0xdb, 0x72, 0x40, 0xa4, 0xa4, 0xb7, 0xb3, 0x67, 0x1f,
  0xcb, 0x79, 0xe6, 0x4e, 0xcc, 0xc0, 0xe5, 0x78, 0x82, 0x5a, 0xd0, 0x7d, 0xcc, 0xff, 0x72, 0x21,
  0xb8, 0x08, 0x46, 0x74, 0xf7, 0x43, 0x24, 0x8e, 0xe0, 0x35, 0x90, 0xe6, 0x81, 0x3a, 0x26, 0x4c,
  0x3c, 0x28, 0x52, 0xbb, 0x91, 0xc3, 0x00, 0xcb, 0x88, 0xd0, 0x65, 0x8b, 0x1b, 0x53, 0x2e, 0xa3,
  0x71, 0x64, 0x48, 0x97, 0xa2, 0x0d, 0xf9, 0x4e, 0x38, 0x19, 0xef, 0x46, 0xa9, 0xde, 0xac, 0xd8,
  0xa8, 0xfa, 0x76, 0x3f, 0xe3, 0x9c, 0x34, 0x3f, 0xf9, 0xdc, 0xbb, 0xc7, 0xc7, 0x0b, 0x4f, 0x1d,
  0x8a, 0x51, 0xe0, 0x4b, 0xcd, 0xb4, 0x59, 0x31, 0xc8, 0x9f, 0x7e, 0xc9, 0xd9, 0x78, 0x73, 0x64,
  0xea, 0xc5, 0xac, 0x83, 0x34, 0xd3, 0xeb, 0xc3, 0xc5, 0x81, 0xa0, 0xff, 0xfa, 0x13, 0x63, 0xeb,
  0x17, 0x0d, 0xdd, 0x51, 0xb7, 0xf0, 0xda, 0x49, 0xd3, 0x16, 0x55, 0x26, 0x29, 0xd4, 0x68, 0x9e,
  0x2b, 0x16, 0xbe, 0x58, 0x7d, 0x47, 0xa1, 0xfc, 0x8f, 0xf8, 0xb8, 0xd1, 0x7a, 0xd0, 0x31, 0xce,
  0x45, 0xcb, 0x3a, 0x8f, 0x95, 0x16, 0x04, 0x28, 0xaf, 0xd7, 0xfb, 0xca, 0xbb, 0x4b, 0x40, 0x7e]

def prime32a : UInt64 := 0x9e3779b1
def prime32b : UInt64 := 0x85ebca77
def prime32c : UInt64 := 0xc2b2ae3d
def prime64a : UInt64 := 0x9e3779b185ebca87
def prime64b : UInt64 := 0xc2b2ae3d27d4eb4f
def prime64c : UInt64 := 0x165667b19e3779f9
def prime64d : UInt64 := 0x85ebca77c2b2ae63
def prime64e : UInt64 := 0x27d4eb2f165667c5

/-- The word whose bytes start at `offset`, lowest first. -/
def word (bytes : Array UInt8) (offset : Nat) : UInt64 :=
  (List.range 8).foldl
    (fun total index =>
      total ||| ((bytes.getD (offset + index) 0).toUInt64 <<< (8 * index).toUInt64))
    0

/-- The two halves of the full product of two words, combined bit by bit. -/
def foldProduct (first second : UInt64) : UInt64 :=
  let product := first.toNat * second.toNat
  UInt64.ofNat product ^^^ UInt64.ofNat (product / UInt64.size)

/-- The last step of every digest: spreads each bit over the whole word. -/
def avalanche (total : UInt64) : UInt64 :=
  let mixed := (total ^^^ (total >>> 37)) * 0x165667919e3779f9
  mixed ^^^ (mixed >>> 32)

/-- Sixteen bytes of the input mixed with sixteen bytes of the secret. -/
def mixPair (bytes : Array UInt8) (offset key : Nat) : UInt64 :=
  foldProduct (word bytes offset ^^^ word secret key)
    (word bytes (offset + 8) ^^^ word secret (key + 8))

def sum (words : List UInt64) : UInt64 := words.foldl (· + ·) 0

/-- Inputs of 17 to 128 bytes: pairs of blocks, one from each end. -/
def digestShort (bytes : Array UInt8) : UInt64 :=
  let size := bytes.size
  let pairs := (List.range 4).filter fun index => index = 0 ∨ 32 * index < size
  avalanche <| size.toUInt64 * prime64a + sum (pairs.map fun index =>
    mixPair bytes (16 * index) (32 * index) +
      mixPair bytes (size - 16 * (index + 1)) (32 * index + 16))

/-- Inputs of 129 to 240 bytes: eight blocks, an avalanche, the other blocks, the end. -/
def digestMedium (bytes : Array UInt8) : UInt64 :=
  let size := bytes.size
  let front := sum ((List.range 8).map fun index => mixPair bytes (16 * index) (16 * index))
  let middle := sum ((List.range (size / 16 - 8)).map fun index =>
    mixPair bytes (16 * (index + 8)) (16 * index + 3))
  avalanche <|
    avalanche (size.toUInt64 * prime64a + front) + middle + mixPair bytes (size - 16) 119

/-- The eight accumulators of a long input before its first stripe. -/
def lanes : Array UInt64 :=
  #[prime32c, prime64a, prime64b, prime64c, prime64d, prime32b, prime64e, prime32a]

/-- Takes one stripe of 64 bytes into the accumulators. -/
def addStripe (bytes : Array UInt8) (totals : Array UInt64) (offset key : Nat) :
    Array UInt64 :=
  totals.mapIdx fun lane (total : UInt64) =>
    let mixed : UInt64 := word bytes (offset + 8 * lane) ^^^ word secret (key + 8 * lane)
    let neighbour := if lane % 2 = 0 then lane + 1 else lane - 1
    total + word bytes (offset + 8 * neighbour) + (mixed &&& (0xffffffff : UInt64)) * (mixed >>> 32)

/-- Takes `count` stripes, the secret moving on by eight bytes for each. -/
def addStripes (bytes : Array UInt8) (totals : Array UInt64) (offset count : Nat) :
    Array UInt64 :=
  (List.range count).foldl
    (fun totals index => addStripe bytes totals (offset + 64 * index) (8 * index)) totals

/-- Mixes the accumulators after a full block of sixteen stripes. -/
def scramble (totals : Array UInt64) : Array UInt64 :=
  totals.mapIdx fun lane (total : UInt64) =>
    (total ^^^ (total >>> 47) ^^^ word secret (128 + 8 * lane)) * prime32a

/-- Inputs of more than 240 bytes. The last stripe ends with the input, overlapping if it must. -/
def digestLong (bytes : Array UInt8) : UInt64 :=
  let size := bytes.size
  let blocks := (size - 1) / 1024
  let afterBlocks := (List.range blocks).foldl
    (fun totals block => scramble (addStripes bytes totals (1024 * block) 16)) lanes
  let afterStripes :=
    addStripes bytes afterBlocks (1024 * blocks) ((size - 1 - 1024 * blocks) / 64)
  let totals := addStripe bytes afterStripes (size - 64) 121
  avalanche <| size.toUInt64 * prime64a + sum ((List.range 4).map fun pair =>
    foldProduct (totals.getD (2 * pair) 0 ^^^ word secret (11 + 16 * pair))
      (totals.getD (2 * pair + 1) 0 ^^^ word secret (19 + 16 * pair)))

/-- The digest of a byte sequence. -/
def ofBytes (bytes : List UInt8) : UInt64 :=
  let data := bytes.toArray
  if data.size ≤ 128 then digestShort data
  else if data.size ≤ 240 then digestMedium data
  else digestLong data

end Digest

end Alerting
