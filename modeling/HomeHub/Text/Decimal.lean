import HomeHub.Bytes

/-!
Decimal numerals of natural numbers, without leading zeros.
-/

namespace HomeHub.Decimal

/-- The decimal digits of a number, most significant first; zero has one digit. -/
def digits (n : Nat) : List Nat :=
  if n < 10 then [n] else digits (n / 10) ++ [n % 10]

/-- The number that a row of digits spells. -/
def ofDigits (ds : List Nat) : Nat := ds.foldl (fun n d => n * 10 + d) 0

def digitChar (d : Nat) : Char := Char.ofNat (48 + d)

/-- The value of a decimal digit. -/
def digit? (c : Char) : Option Nat :=
  if '0' ≤ c ∧ c ≤ '9' then some (c.toNat - 48) else none

def chars (n : Nat) : List Char := (digits n).map digitChar

def text (n : Nat) : String := String.ofList (chars n)

/-- The numeral as ASCII bytes. -/
def bytes (n : Nat) : Bytes := (digits n).map fun d => UInt8.ofNat (48 + d)

/-- The numeral of an integer, with a minus sign below zero. -/
def intText : Int → String
  | .ofNat n => text n
  | .negSucc n => "-" ++ text (n + 1)

end HomeHub.Decimal
