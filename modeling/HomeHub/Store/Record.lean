import HomeHub.Flash.Device
import HomeHub.Json.Printer
import HomeHub.Store.Crc32

/-!
The durable record and its page in flash:

* bytes 0 to 3, the letters `HWDR`;
* byte 4, the format version, and byte 5, reserved;
* bytes 6 and 7, the payload length, low byte first;
* 244 bytes of payload, padded with zeros;
* bytes 252 to 255, the checksum of all before, low byte first.
-/

namespace HomeHub

namespace Record

/-- The letters `HWDR`. -/
def magic : Bytes := [0x48, 0x57, 0x44, 0x52]

def magicWord : UInt32 := Bytes.word 0x48 0x57 0x44 0x52

def version : UInt8 := 1

def headerLength : Nat := 8

/-- Where the checksum stands. -/
def checksumOffset : Nat := 252

/-- The longest payload. -/
def maxPayload : Nat := checksumOffset - headerLength

end Record

/-- The one blob that survives a restart; what it means is up to the service. -/
structure Record where
  payload : Bytes
  length_le : payload.length ≤ Record.maxPayload

/-- Why a page holds no record. -/
inductive PageFault
  /-- The page is erased. -/
  | blank
  | badMagic (word : UInt32)
  | unsupportedVersion (version : UInt8)
  | badLength (length : Nat)
  | checksumMismatch (stored computed : UInt32)
  deriving DecidableEq, Repr

namespace Record

instance : DecidableEq Record := fun r s =>
  if h : r.payload = s.payload then isTrue (by cases r; cases s; simp_all)
  else isFalse fun e => h (by rw [e])

def empty : Record := ⟨[], Nat.zero_le _⟩

def isEmpty (r : Record) : Bool := r.payload.isEmpty

def new (payload : Bytes) : Except FlashFault Record :=
  if h : payload.length ≤ maxPayload then .ok ⟨payload, h⟩
  else .error (.recordTooLong payload.length maxPayload)

/-- The record of a document's text. -/
def ofJson (v : Json) : Except FlashFault Record := new v.bytes

/-- The page up to the checksum. -/
def body (r : Record) : Bytes :=
  magic ++ [version, 0, UInt8.ofNat r.payload.length, UInt8.ofNat (r.payload.length / 256)]
    ++ r.payload ++ List.replicate (maxPayload - r.payload.length) 0

theorem length_body (r : Record) : r.body.length = checksumOffset := by
  have := r.length_le
  simp only [body, magic, maxPayload, checksumOffset, headerLength] at *
  simp only [List.length_append, List.length_cons, List.length_nil, List.length_replicate]
  omega

def toPage (r : Record) : Page where
  bytes := r.body ++ Bytes.ofWord (Crc32.checksum r.body)
  length_bytes := by simp [length_body, Bytes.ofWord, checksumOffset, Flash.pageSize]

/-- The byte of a page at an index. -/
def byteAt (p : Page) (i : Nat) : UInt8 := p.bytes.getD i 0

/-- The four bytes of a page from an index on, as a word. -/
def wordAt (p : Page) (i : Nat) : UInt32 :=
  Bytes.word (byteAt p i) (byteAt p (i + 1)) (byteAt p (i + 2)) (byteAt p (i + 3))

/-- The payload length that a page states. -/
def statedLength (p : Page) : Nat := (byteAt p 6).toNat + 256 * (byteAt p 7).toNat

theorem length_slice_le (image : Bytes) (offset length : Nat) :
    (Flash.slice image offset length).length ≤ length := by
  simp only [Flash.slice, List.length_take]
  omega

/-- Reads a page. The checks come in the order of the fields, the checksum last. -/
def ofPage (p : Page) : Except PageFault Record :=
  if p.bytes.all (· == Flash.erased) then .error .blank
  else if wordAt p 0 ≠ magicWord then .error (.badMagic (wordAt p 0))
  else if byteAt p 4 ≠ version then .error (.unsupportedVersion (byteAt p 4))
  else if h : statedLength p ≤ maxPayload then
    let stored := wordAt p checksumOffset
    let computed := Crc32.checksum (p.bytes.take checksumOffset)
    if stored ≠ computed then .error (.checksumMismatch stored computed)
    else .ok ⟨Flash.slice p.bytes headerLength (statedLength p),
      Nat.le_trans (length_slice_le ..) h⟩
  else .error (.badLength (statedLength p))

end Record

end HomeHub
