import HomeHub.Text.Decimal

/-!
Frames on the wire: the decimal byte length of the payload, a semicolon, then the payload.
-/

namespace HomeHub.Frame

/-- The semicolon between length and payload. -/
def delimiter : UInt8 := 59

/-- The longest accepted length, in digits. -/
def maxHeaderDigits : Nat := 10

/-- The number of decimal digits, by counting the divisions by ten. -/
def decimalDigits (n : Nat) : Nat := if n < 10 then 1 else decimalDigits (n / 10) + 1

/-- The length of the header, delimiter included, of a payload of `n` bytes. -/
def headerLength (n : Nat) : Nat := decimalDigits n + 1

/-- The length of the frame of a payload of `n` bytes. -/
def frameLength (n : Nat) : Nat := headerLength n + n

def encode (payload : Bytes) : Bytes := Decimal.bytes payload.length ++ delimiter :: payload

def isDigit (b : UInt8) : Bool := 48 ≤ b && b ≤ 57

/-- Reads the span before a delimiter as a length: one to ten plain digits, leading zeros
allowed. -/
def parseLength (header : Bytes) : Option Nat :=
  if header.isEmpty || maxHeaderDigits < header.length || !header.all isDigit then none
  else some (Decimal.ofDigits (header.map fun b => b.toNat - 48))

end HomeHub.Frame
