import HomeHub.Bytes
import HomeHub.Text.Decimal
import HomeHub.Text.Hex

/-!
Flash devices, addressed by byte offset. Erasing sets a whole sector to ones, and programming a
page can only clear bits.
-/

namespace HomeHub

namespace Flash

/-- What an erase covers. -/
def sectorSize : Nat := 4096

/-- What a program covers. -/
def pageSize : Nat := 256

/-- Where the durable record is kept unless told otherwise. -/
def targetOffset : Nat := 256 * 1024

/-- The smallest image that holds the target sector. -/
def imageSize : Nat := targetOffset + sectorSize

/-- The value of an erased byte. -/
def erased : UInt8 := 0xFF

/-- The operations that change a device. -/
inductive Operation
  | erase
  | program
  deriving DecidableEq, Repr

def Operation.name : Operation → String
  | .erase => "erase"
  | .program => "program"

end Flash

inductive FlashFault
  | misaligned (operation : Flash.Operation) (offset alignment : Nat)
  | outOfRange (offset length size : Nat)
  /-- A record too long for its page. -/
  | recordTooLong (length limit : Nat)
  /-- The device itself failed. -/
  | broken (operation : Flash.Operation)
  deriving DecidableEq, Repr

def FlashFault.message : FlashFault → String
  | .misaligned op offset alignment =>
    op.name ++ " offset 0x" ++ Hex.ofNat offset ++ " not aligned to 0x" ++ Hex.ofNat alignment
  | .outOfRange offset length size =>
    "range 0x" ++ Hex.ofNat offset ++ "+0x" ++ Hex.ofNat length ++ " outside 0x" ++ Hex.ofNat size
      ++ "-byte image"
  | .recordTooLong length limit =>
    "record payload of " ++ Decimal.text length ++ " bytes exceeds " ++ Decimal.text limit
  | .broken op => op.name ++ " fault"

/-- One page of bytes. -/
structure Page where
  bytes : Bytes
  length_bytes : bytes.length = Flash.pageSize

namespace Flash

/-- The page that a byte string is, if it is as long. -/
def page? (bs : Bytes) : Option Page := if h : bs.length = pageSize then some ⟨bs, h⟩ else none

def checkAligned (operation : Operation) (offset alignment : Nat) : Except FlashFault Unit :=
  if offset % alignment = 0 then .ok () else .error (.misaligned operation offset alignment)

def checkBounds (offset length size : Nat) : Except FlashFault Unit :=
  if offset + length ≤ size then .ok () else .error (.outOfRange offset length size)

/-- `length` bytes of an image. -/
def slice (image : Bytes) (offset length : Nat) : Bytes := (image.drop offset).take length

/-- An image with some bytes of it replaced. -/
def patch (image : Bytes) (offset : Nat) (data : Bytes) : Bytes :=
  image.take offset ++ data ++ image.drop (offset + data.length)

/-- The cells after a page has been programmed over them: bits are only cleared. -/
def clearBits (cells page : Bytes) : Bytes := List.zipWith (· &&& ·) cells page

end Flash

/-- A flash device. An operation that fails changes nothing. -/
class Flash (δ : Type) where
  read : δ → (offset length : Nat) → Except FlashFault Bytes
  /-- Erases the sector at a sector-aligned offset. -/
  erase : δ → (offset : Nat) → Except FlashFault δ
  /-- Programs the page at a page-aligned offset. -/
  program : δ → (offset : Nat) → Page → Except FlashFault δ

end HomeHub
