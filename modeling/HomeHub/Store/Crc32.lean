import HomeHub.Bytes

/-!
The cyclic redundancy check CRC-32 of IEEE 802.3, bit by bit: reflected, with the polynomial
`0xEDB88320`, starting from all ones and complemented at the end.
-/

namespace HomeHub.Crc32

def polynomial : UInt32 := 0xEDB88320

/-- One bit: a shift, and the polynomial if a one falls out. -/
def shift (crc : UInt32) : UInt32 := (crc >>> 1) ^^^ (polynomial &&& (0 - (crc &&& 1)))

/-- One byte: eight bits after the byte has been mixed in. -/
def byte (crc : UInt32) (b : UInt8) : UInt32 :=
  let c := crc ^^^ b.toUInt32
  shift (shift (shift (shift (shift (shift (shift (shift c)))))))

/-- The register after some bytes. -/
def register (bs : Bytes) : UInt32 := bs.foldl byte 0xFFFFFFFF

def checksum (bs : Bytes) : UInt32 := ~~~ register bs

end HomeHub.Crc32
