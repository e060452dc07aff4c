import HomeHub.Bytes

/-!
Hexadecimal text. Writing uses lower case; reading takes both cases and looks at the length first.
-/

namespace HomeHub.Hex

def digitChar (n : Nat) : Char :=
  if n < 10 then Char.ofNat (48 + n) else Char.ofNat (87 + n)

/-- The hexadecimal digits of a number, most significant first; zero has one digit. -/
def digits (n : Nat) : List Nat :=
  if n < 16 then [n] else digits (n / 16) ++ [n % 16]

/-- A number in hexadecimal, without padding. -/
def ofNat (n : Nat) : String := String.ofList ((digits n).map digitChar)

/-- Two digits per byte. -/
def encode (bs : Bytes) : String :=
  String.ofList (bs.flatMap fun b => [digitChar (b.toNat / 16), digitChar (b.toNat % 16)])

/-- The value of a hexadecimal digit given as an ASCII byte. -/
def digit? (b : UInt8) : Option Nat :=
  let n := b.toNat
  if 48 ≤ n ∧ n ≤ 57 then some (n - 48)
  else if 65 ≤ n ∧ n ≤ 70 then some (n - 55)
  else if 97 ≤ n ∧ n ≤ 102 then some (n - 87)
  else none

/-- Why a text is not hexadecimal. -/
inductive Fault
  | oddLength
  /-- The first byte that is no digit, and where it stands. -/
  | badDigit (byte : UInt8) (index : Nat)
  deriving DecidableEq, Repr

/-- The digit at `index`. -/
def digitAt (b : UInt8) (index : Nat) : Except Fault Nat :=
  match digit? b with
  | some d => .ok d
  | none => .error (.badDigit b index)

/-- Reads digit pairs; the first of them stands at `index`. -/
def pairs : Bytes → (index : Nat) → Except Fault Bytes
  | hi :: lo :: rest, index => do
    let h ← digitAt hi index
    let l ← digitAt lo (index + 1)
    let bs ← pairs rest (index + 2)
    return UInt8.ofNat (16 * h + l) :: bs
  | _, _ => .ok []

/-- The bytes that a hexadecimal text spells. -/
def decode (text : Bytes) : Except Fault Bytes :=
  if text.length % 2 = 1 then .error .oddLength else pairs text 0

end HomeHub.Hex
