import HomeHub.Bytes

/-!
Base64 with the standard alphabet and padding. Reading is canonical: the padding is required, no
blanks are allowed and the bits that the padding stands for are zero.
-/

namespace HomeHub.Base64

/-- The letter of a six-bit value. -/
def letter (v : Nat) : UInt8 :=
  if v < 26 then UInt8.ofNat (65 + v)
  else if v < 52 then UInt8.ofNat (71 + v)
  else if v < 62 then UInt8.ofNat (v - 4)
  else if v = 62 then 43
  else 47

/-- The six-bit value of a letter. -/
def value? (b : UInt8) : Option Nat :=
  let n := b.toNat
  if 65 ≤ n ∧ n ≤ 90 then some (n - 65)
  else if 97 ≤ n ∧ n ≤ 122 then some (n - 71)
  else if 48 ≤ n ∧ n ≤ 57 then some (n + 4)
  else if n = 43 then some 62
  else if n = 47 then some 63
  else none

/-- The padding sign. -/
def pad : UInt8 := 61

/-- Four letters for every three bytes, the last group padded. -/
def encode : Bytes → Bytes
  | [] => []
  | [a] => [letter (a.toNat / 4), letter (a.toNat % 4 * 16), pad, pad]
  | [a, b] =>
    [letter (a.toNat / 4), letter (a.toNat % 4 * 16 + b.toNat / 16), letter (b.toNat % 16 * 4), pad]
  | a :: b :: c :: rest =>
    letter (a.toNat / 4) :: letter (a.toNat % 4 * 16 + b.toNat / 16)
      :: letter (b.toNat % 16 * 4 + c.toNat / 64) :: letter (c.toNat % 64) :: encode rest

/-- Three bytes from a full group of four letters. -/
def full? (a b c d : UInt8) : Option Bytes := do
  let a ← value? a
  let b ← value? b
  let c ← value? c
  let d ← value? d
  return [UInt8.ofNat (a * 4 + b / 16), UInt8.ofNat (b % 16 * 16 + c / 4),
    UInt8.ofNat (c % 4 * 64 + d)]

/-- The bytes of the last group, which may be padded. -/
def last? (a b c d : UInt8) : Option Bytes :=
  if d = pad then
    if c = pad then do
      let a ← value? a
      let b ← value? b
      if b % 16 = 0 then return [UInt8.ofNat (a * 4 + b / 16)] else none
    else do
      let a ← value? a
      let b ← value? b
      let c ← value? c
      if c % 4 = 0 then
        return [UInt8.ofNat (a * 4 + b / 16), UInt8.ofNat (b % 16 * 16 + c / 4)]
      else none
  else full? a b c d

/-- The bytes that a canonical base64 text spells. -/
def decode? : Bytes → Option Bytes
  | [] => some []
  | [a, b, c, d] => last? a b c d
  | a :: b :: c :: d :: rest => do
    let group ← full? a b c d
    let bytes ← decode? rest
    return group ++ bytes
  | _ => none

end HomeHub.Base64
