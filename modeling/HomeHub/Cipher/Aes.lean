import HomeHub.Bytes

/-!
The block cipher AES with a 256-bit key: encryption of one block of sixteen bytes.
-/

namespace HomeHub.Aes

/-- Four bytes: a column of a block, or a word of the key schedule. -/
structure Word where
  b0 : UInt8
  b1 : UInt8
  b2 : UInt8
  b3 : UInt8
  deriving DecidableEq, Repr

/-- Four columns. -/
structure Block where
  c0 : Word
  c1 : Word
  c2 : Word
  c3 : Word
  deriving DecidableEq, Repr

def Word.xor (v w : Word) : Word := ⟨v.b0 ^^^ w.b0, v.b1 ^^^ w.b1, v.b2 ^^^ w.b2, v.b3 ^^^ w.b3⟩

def Word.map (f : UInt8 → UInt8) (w : Word) : Word := ⟨f w.b0, f w.b1, f w.b2, f w.b3⟩

def Word.toBytes (w : Word) : Bytes := [w.b0, w.b1, w.b2, w.b3]

def Block.xor (x y : Block) : Block := ⟨x.c0.xor y.c0, x.c1.xor y.c1, x.c2.xor y.c2, x.c3.xor y.c3⟩

def Block.toBytes (x : Block) : Bytes :=
  x.c0.toBytes ++ x.c1.toBytes ++ x.c2.toBytes ++ x.c3.toBytes

/-- The word at the start of a byte string; missing bytes count as zero. -/
def Word.ofBytes (bs : Bytes) : Word := ⟨bs.getD 0 0, bs.getD 1 0, bs.getD 2 0, bs.getD 3 0⟩

def Block.ofBytes (bs : Bytes) : Block :=
  ⟨Word.ofBytes bs, Word.ofBytes (bs.drop 4), Word.ofBytes (bs.drop 8), Word.ofBytes (bs.drop 12)⟩

/-- The substitution of bytes. -/
def substitution : Array UInt8 := #[
  0x63, 0x7c, 0x77, 0x7b, 0xf2, 0x6b, 0x6f, 0xc5, 0x30, 0x01, 0x67, 0x2b, 0xfe, 0xd7, 0xab, 0x76,
  0xca, 0x82, 0xc9, 0x7d, 0xfa, 0x59, 0x47, 0xf0, 0xad, 0xd4, 0xa2, 0xaf, 0x9c, 0xa4, 0x72, 0xc0,
  0xb7, 0xfd, 0x93, 0x26, 0x36, 0x3f, 0xf7, 0xcc, 0x34, 0xa5, 0xe5, 0xf1, 0x71, 0xd8, 0x31, 0x15,
  0x04, 0xc7, 0x23, 0xc3, 0x18, 0x96, 0x05, 0x9a, 0x07, 0x12, 0x80, 0xe2, 0xeb, 0x27, 0xb2, 0x75,
  0x09, 0x83, 0x2c, 0x1a, 0x1b, 0x6e, 0x5a, 0xa0, 0x52, 0x3b, 0xd6, 0xb3, 0x29, 0xe3, 0x2f, 0x84,
  0x53, 0xd1, 0x00, 0xed, 0x20, 0xfc, 0xb1, 0x5b, 0x6a, 0xcb, 0xbe, 0x39, 0x4a, 0x4c, 0x58, 0xcf,
  0xd0, 0xef, 0xaa, 0xfb, 0x43, 0x4d, 0x33, 0x85, 0x45, 0xf9, 0x02, 0x7f, 0x50, 0x3c, 0x9f, 0xa8,
  0x51, 0xa3, 0x40, 0x8f, 0x92, 0x9d, 0x38, 0xf5, 0xbc, 0xb6, 0xda, 0x21, 0x10, 0xff, 0xf3, 0xd2,
  0xcd, 0x0c, 0x13, 0xec, 0x5f, 0x97, 0x44, 0x17, 0xc4, 0xa7, 0x7e, 0x3d, 0x64, 0x5d, 0x19, 0x73,
  0x60, 0x81, 0x4f, 0xdc, 0x22, 0x2a, 0x90, 0x88, 0x46, 0xee, 0xb8, 0x14, 0xde, 0x5e, 0x0b, 0xdb,
  0xe0, 0x32, 0x3a, 0x0a, 0x49, 0x06, 0x24, 0x5c, 0xc2, 0xd3, 0xac, 0x62, 0x91, 0x95, 0xe4, 0x79,
  0xe7, 0xc8, 0x37, 0x6d, 0x8d, 0xd5, 0x4e, 0xa9, 0x6c, 0x56, 0xf4, 0xea, 0x65, 0x7a, 0xae, 0x08,
  0xba, 0x78, 0x25, 0x2e, 0x1c, 0xa6, 0xb4, 0xc6, 0xe8, 0xdd, 0x74, 0x1f, 0x4b, 0xbd, 0x8b, 0x8a,
  0x70, 0x3e, 0xb5, 0x66, 0x48, 0x03, 0xf6, 0x0e, 0x61, 0x35, 0x57, 0xb9, 0x86, 0xc1, 0x1d, 0x9e,
  0xe1, 0xf8, 0x98, 0x11, 0x69, 0xd9, 0x8e, 0x94, 0x9b, 0x1e, 0x87, 0xe9, 0xce, 0x55, 0x28, 0xdf,
  0x8c, 0xa1, 0x89, 0x0d, 0xbf, 0xe6, 0x42, 0x68, 0x41, 0x99, 0x2d, 0x0f, 0xb0, 0x54, 0xbb, 0x16]

def substitute (b : UInt8) : UInt8 := substitution.getD b.toNat 0

/-- Twice a byte in the field of 256 elements. -/
def double (b : UInt8) : UInt8 := (b <<< 1) ^^^ (if b < 0x80 then 0 else 0x1B)

/-- Three times a byte. -/
def triple (b : UInt8) : UInt8 := double b ^^^ b

def mixColumn (w : Word) : Word :=
  ⟨double w.b0 ^^^ triple w.b1 ^^^ w.b2 ^^^ w.b3,
   w.b0 ^^^ double w.b1 ^^^ triple w.b2 ^^^ w.b3,
   w.b0 ^^^ w.b1 ^^^ double w.b2 ^^^ triple w.b3,
   triple w.b0 ^^^ w.b1 ^^^ w.b2 ^^^ double w.b3⟩

def mixColumns (x : Block) : Block :=
  ⟨mixColumn x.c0, mixColumn x.c1, mixColumn x.c2, mixColumn x.c3⟩

def subBytes (x : Block) : Block :=
  ⟨x.c0.map substitute, x.c1.map substitute, x.c2.map substitute, x.c3.map substitute⟩

/-- Row `r` moves `r` columns to the left. -/
def shiftRows (x : Block) : Block :=
  ⟨⟨x.c0.b0, x.c1.b1, x.c2.b2, x.c3.b3⟩, ⟨x.c1.b0, x.c2.b1, x.c3.b2, x.c0.b3⟩,
   ⟨x.c2.b0, x.c3.b1, x.c0.b2, x.c1.b3⟩, ⟨x.c3.b0, x.c0.b1, x.c1.b2, x.c2.b3⟩⟩

def rotate (w : Word) : Word := ⟨w.b1, w.b2, w.b3, w.b0⟩

/-- The next two round keys, from the last two. -/
def nextKeys (constant : UInt8) (x y : Block) : Block × Block :=
  let c0 := x.c0.xor (((rotate y.c3).map substitute).xor ⟨constant, 0, 0, 0⟩)
  let c1 := x.c1.xor c0
  let c2 := x.c2.xor c1
  let c3 := x.c3.xor c2
  let d0 := y.c0.xor (c3.map substitute)
  let d1 := y.c1.xor d0
  let d2 := y.c2.xor d1
  let d3 := y.c3.xor d2
  (⟨c0, c1, c2, c3⟩, ⟨d0, d1, d2, d3⟩)

/-- The round keys from two of them on, two for every constant. -/
def schedule : (constants : List UInt8) → Block → Block → List Block
  | [], x, y => [x, y]
  | c :: cs, x, y => let (x', y') := nextKeys c x y; x :: y :: schedule cs x' y'

/-- The fifteen round keys of a key of thirty-two bytes. -/
def roundKeys (key : Bytes) : List Block :=
  (schedule [1, 2, 4, 8, 16, 32, 64] (Block.ofBytes key) (Block.ofBytes (key.drop 16))).take 15

/-- The rounds after the first key has been added; the last one does not mix columns. -/
def rounds : List Block → Block → Block
  | [], x => x
  | [k], x => (shiftRows (subBytes x)).xor k
  | k :: ks, x => rounds ks ((mixColumns (shiftRows (subBytes x))).xor k)

def encrypt : (keys : List Block) → Block → Block
  | [], x => x
  | k :: ks, x => rounds ks (x.xor k)

end HomeHub.Aes
