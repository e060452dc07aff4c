import HomeHub.Cipher.Counter
import HomeHub.Text.Base64
import HomeHub.Text.Blank
import HomeHub.Text.Decimal
import HomeHub.Text.Quoted
import HomeHub.Text.Utf8

/-!
The optional payload cipher. With a key, a payload travels as the base64 of a fresh nonce followed
by the payload in counter mode; without one, payloads travel as they are.
-/

namespace HomeHub

/-- Why a text is no key. -/
inductive KeyFault
  | notHex (why : Hex.Fault)
  | wrongLength (length : Nat)
  deriving DecidableEq, Repr

inductive CipherFault
  | invalidEncoding
  /-- The decoded bytes are shorter than a nonce. -/
  | truncated (length : Nat)
  | invalidKey (why : KeyFault)
  deriving DecidableEq, Repr

/-- A byte that is no digit is shown as the Latin-1 character of that code. -/
def Hex.Fault.message : Hex.Fault → String
  | .oddLength => "Odd number of digits"
  | .badDigit byte index =>
    "Invalid character " ++ Text.quotedLetter (Char.ofNat byte.toNat) ++ " at position "
      ++ Decimal.text index

def KeyFault.message : KeyFault → String
  | .notHex why => why.message
  | .wrongLength n => "expected 32 bytes, got " ++ Decimal.text n

def CipherFault.message : CipherFault → String
  | .invalidEncoding => "invalid base64 encoding"
  | .truncated n => "ciphertext shorter than nonce (" ++ Decimal.text n ++ " bytes)"
  | .invalidKey why => "invalid key material: " ++ why.message

namespace Cipher

def keyLength : Nat := 32
def nonceLength : Nat := 16

end Cipher

/-- A 256-bit key. -/
structure Key where
  bytes : Bytes
  length_bytes : bytes.length = Cipher.keyLength

/-- The initial counter block of one message. -/
structure Nonce where
  bytes : Bytes
  length_bytes : bytes.length = Cipher.nonceLength

@[simp] theorem Bytes.length_ofNatBE (count n : Nat) : (Bytes.ofNatBE count n).length = count := by
  induction count generalizing n with
  | zero => rfl
  | succ k ih => simp [Bytes.ofNatBE, ih]

/-- The nonce that a number spells, modulo `2 ^ 128`. -/
def Nonce.ofNat (n : Nat) : Nonce := ⟨Bytes.ofNatBE Cipher.nonceLength n, by simp⟩

structure Cipher where
  key : Option Key

namespace Cipher

def disabled : Cipher := ⟨none⟩

def isEnabled (c : Cipher) : Bool := c.key.isSome

/-- Reads a key of 64 hexadecimal digits; blanks around it do not count. -/
def ofHex (text : String) : Except CipherFault Cipher :=
  match Hex.decode (Utf8.ofString (Text.trim text)) with
  | .error why => .error (.invalidKey (.notHex why))
  | .ok bytes =>
    if h : bytes.length = keyLength then .ok ⟨some ⟨bytes, h⟩⟩
    else .error (.invalidKey (.wrongLength bytes.length))

/-- The sealed form of a payload under a nonce. -/
def sealWith (c : Cipher) (nonce : Nonce) (plain : Bytes) : Bytes :=
  match c.key with
  | none => plain
  | some key => Base64.encode (nonce.bytes ++ Counter.apply key.bytes nonce.bytes plain)

/-- The payload of a sealed form. -/
def openSealed (c : Cipher) (sealed : Bytes) : Except CipherFault Bytes :=
  match c.key with
  | none => .ok sealed
  | some key =>
    match Base64.decode? sealed with
    | none => .error .invalidEncoding
    | some bytes =>
      if bytes.length < nonceLength then .error (.truncated bytes.length)
      else .ok (Counter.apply key.bytes (bytes.take nonceLength) (bytes.drop nonceLength))

end Cipher

end HomeHub
