import HomeHub.Bytes

/-!
UTF-8 as a one-pass scan. Overlong forms, surrogates and values past the last code point are
refused, so a byte string has at most one reading.
-/

namespace HomeHub.Utf8

/-- The bytes of one character: one below `0x80`, then two, three or four. -/
def encodeChar (c : Char) : Bytes :=
  let n := c.toNat
  if n < 0x80 then [UInt8.ofNat n]
  else if n < 0x800 then [UInt8.ofNat (0xC0 + n / 64), UInt8.ofNat (0x80 + n % 64)]
  else if n < 0x10000 then
    [UInt8.ofNat (0xE0 + n / 4096), UInt8.ofNat (0x80 + n / 64 % 64), UInt8.ofNat (0x80 + n % 64)]
  else
    [UInt8.ofNat (0xF0 + n / 262144), UInt8.ofNat (0x80 + n / 4096 % 64),
      UInt8.ofNat (0x80 + n / 64 % 64), UInt8.ofNat (0x80 + n % 64)]

def encode (cs : List Char) : Bytes := cs.flatMap encodeChar

/-- The bytes of a string. -/
def ofString (s : String) : Bytes := encode s.toList

/-- Where a scan stands: `owed` continuation bytes are still to come for the character whose
leading bits are `bits`, and which must not be below `floor`. -/
structure Scan where
  owed : Nat
  bits : Nat
  floor : Nat
  /-- Characters read so far, the latest first. -/
  read : List Char

def Scan.start : Scan := ⟨0, 0, 0, []⟩

def Scan.step (s : Scan) (b : UInt8) : Option Scan :=
  let n := b.toNat
  if s.owed = 0 then
    if n < 0x80 then some { s with read := Char.ofNat n :: s.read }
    else if n < 0xC0 then none
    else if n < 0xE0 then some { s with owed := 1, bits := n - 0xC0, floor := 0x80 }
    else if n < 0xF0 then some { s with owed := 2, bits := n - 0xE0, floor := 0x800 }
    else if n < 0xF8 then some { s with owed := 3, bits := n - 0xF0, floor := 0x10000 }
    else none
  else if n < 0x80 ∨ 0xC0 ≤ n then none
  else
    let bits := s.bits * 64 + (n - 0x80)
    if s.owed = 1 then
      if s.floor ≤ bits ∧ bits.isValidChar then
        some { s with owed := 0, read := Char.ofNat bits :: s.read }
      else none
    else some { s with owed := s.owed - 1, bits }

def Scan.run (s : Scan) (bs : Bytes) : Option Scan := bs.foldlM Scan.step s

/-- The characters that a byte string spells. -/
def decode? (bs : Bytes) : Option (List Char) :=
  match Scan.start.run bs with
  | some s => if s.owed = 0 then some s.read.reverse else none
  | none => none

def toString? (bs : Bytes) : Option String := (decode? bs).map String.ofList

end HomeHub.Utf8
