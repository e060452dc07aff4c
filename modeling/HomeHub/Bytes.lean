/-!
Byte strings as lists of octets, and little-endian words inside them.
-/

namespace HomeHub

abbrev Bytes := List UInt8

namespace Bytes

/-- A 32-bit word, least significant byte first. -/
def ofWord (w : UInt32) : Bytes :=
  [w.toUInt8, (w >>> 8).toUInt8, (w >>> 16).toUInt8, (w >>> 24).toUInt8]

/-- The 32-bit word that four bytes spell, least significant byte first. -/
def word (a b c d : UInt8) : UInt32 :=
  a.toUInt32 ||| (b.toUInt32 <<< 8) ||| (c.toUInt32 <<< 16) ||| (d.toUInt32 <<< 24)

/-- The number that a byte string spells, most significant byte first. -/
def toNatBE (bs : Bytes) : Nat := bs.foldl (fun n b => n * 256 + b.toNat) 0

/-- The last `count` base-256 digits of a number, most significant first. -/
def ofNatBE : (count : Nat) → Nat → Bytes
  | 0, _ => []
  | k + 1, n => ofNatBE k (n / 256) ++ [UInt8.ofNat (n % 256)]

end Bytes

end HomeHub
