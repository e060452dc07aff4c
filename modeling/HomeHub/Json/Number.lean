import HomeHub.Json.Basic
import HomeHub.Text.Decimal
import HomeHub.Numeric.Shortest

/-!
Numbers in JSON text. An integer that fits 64 bits is exact. Any other number is read as a
significand of at most 64 bits and a power of ten, and is the significand rounded to binary64 and
then scaled, so that a long numeral may be off by a unit in the last place; one that is too large
is refused.
-/

namespace HomeHub.Json

/-- The digits at the start of a text, and the rest. -/
def spanDigits : List Char → List Nat × List Char
  | [] => ([], [])
  | c :: rest =>
    match Decimal.digit? c with
    | some d => let (ds, r) := spanDigits rest; (d :: ds, r)
    | none => ([], c :: rest)

/-- A numeral in parts; `fraction` and `exponent` are absent if their mark is. -/
structure Numeral where
  negative : Bool
  whole : List Nat
  fraction : Option (List Nat)
  /-- The sign of the exponent and its digits. -/
  exponent : Option (Bool × List Nat)
  deriving DecidableEq, Repr

/-- The digits after a decimal point, of which there is at least one. -/
def fractionPart : List Char → Option (Option (List Nat) × List Char)
  | '.' :: rest =>
    match spanDigits rest with
    | ([], _) => none
    | (ds, r) => some (some ds, r)
  | s => some (none, s)

def exponentSign : List Char → Bool × List Char
  | '+' :: rest => (false, rest)
  | '-' :: rest => (true, rest)
  | s => (false, s)

/-- The sign and digits after an exponent mark, with at least one digit. -/
def exponentPart : List Char → Option (Option (Bool × List Nat) × List Char)
  | [] => some (none, [])
  | c :: rest =>
    if c = 'e' ∨ c = 'E' then
      let (negative, r) := exponentSign rest
      match spanDigits r with
      | ([], _) => none
      | (ds, r) => some (some (negative, ds), r)
    else some (none, c :: rest)

/-- The digits of an integer, without a leading zero. -/
def wholePart (s : List Char) : Option (List Nat × List Char) :=
  match spanDigits s with
  | ([], _) => none
  | (0 :: _ :: _, _) => none
  | (ds, r) => some (ds, r)

/-- Splits a number off the start of a text. -/
def numeral (s : List Char) : Option (Numeral × List Char) := do
  let (negative, s) := match s with
    | '-' :: rest => (true, rest)
    | s => (false, s)
  let (whole, s) ← wholePart s
  let (fraction, s) ← fractionPart s
  let (exponent, s) ← exponentPart s
  return (⟨negative, whole, fraction, exponent⟩, s)

/-- A decimal number whose significand fits 64 bits. `full` says that a digit no longer fitted. -/
structure Scaled where
  significand : Nat
  exponent : Int
  full : Bool

/-- A digit that does not fit only raises the power of ten, and so do all after it. -/
def Scaled.whole (s : Scaled) (d : Nat) : Scaled :=
  if s.full ∨ Nat.pow 2 64 ≤ s.significand * 10 + d then
    { s with exponent := s.exponent + 1, full := true }
  else { s with significand := s.significand * 10 + d }

/-- A digit of the fraction that does not fit is dropped, and so are all after it. -/
def Scaled.fraction (s : Scaled) (d : Nat) : Scaled :=
  if s.full ∨ Nat.pow 2 64 ≤ s.significand * 10 + d then { s with full := true }
  else { s with significand := s.significand * 10 + d, exponent := s.exponent - 1 }

/-- The significand and the power of ten before an exponent is looked at. -/
def Numeral.scaled (n : Numeral) : Scaled :=
  let w := n.whole.foldl Scaled.whole ⟨0, 0, false⟩
  match n.fraction with
  | none => w
  | some ds => ds.foldl Scaled.fraction { w with full := false }

/-- The power of ten nearest to the exact one, up to `10 ^ 308`. -/
def powerOfTen (k : Nat) : Binary64 := Binary64.ofNat (Nat.pow 10 k)

/-- `x * 10 ^ e`, by one rounded step of at most `10 ^ 308` after the other; `none` if it is too
large. -/
def scaleByTen (x : Binary64) (e : Int) : Option Binary64 :=
  if 0 ≤ e then
    if e ≤ 308 then
      let y := x.mul (powerOfTen e.toNat)
      if y.isInfinite then none else some y
    else if x.isZero then some x
    else none
  else if -308 ≤ e then some (x.div (powerOfTen (-e).toNat))
  else if x.isZero then some x
  else scaleByTen (x.div (powerOfTen 308)) (e + 308)
termination_by (-e).toNat
decreasing_by omega

/-- The largest exponent that is evaluated. -/
def exponentLimit : Nat := Nat.pow 2 31 - 1

/-- The magnitude of a numeral with a fraction or an exponent. -/
def Numeral.magnitude (n : Numeral) : Option Binary64 :=
  let s := n.scaled
  match n.exponent with
  | none => scaleByTen (Binary64.ofNat s.significand) s.exponent
  | some (negative, ds) =>
    let e := Decimal.ofDigits ds
    if exponentLimit < e then
      if s.significand ≠ 0 ∧ !negative then none else some Binary64.zero
    else
      scaleByTen (Binary64.ofNat s.significand)
        (if negative then s.exponent - e else s.exponent + e)

/-- The number that a numeral stands for. Minus zero is a binary64 number. -/
def Numeral.value (n : Numeral) : Option Number :=
  let s := n.scaled
  if n.fraction.isNone ∧ n.exponent.isNone ∧ !s.full then
    if n.negative then
      if h : 0 < s.significand ∧ s.significand ≤ Nat.pow 2 63 then
        some (.negative ⟨s.significand - 1, by omega⟩)
      else some (.real (Binary64.ofNat s.significand).neg)
    else some (.natural (UInt64.ofNat s.significand))
  else
    n.magnitude.map fun x => .real (if n.negative then x.neg else x)

/-- Reads a number at the start of a text. -/
def readNumber (s : List Char) : Option (Number × List Char) := do
  let (n, rest) ← numeral s
  let v ← n.value
  return (v, rest)

/-- The text of a number. NaN and the infinities are written as null. -/
def Number.chars : Number → List Char
  | .natural n => Decimal.chars n.toNat
  | .negative n => '-' :: Decimal.chars (n.val + 1)
  | .real x => if x.isFinite then Shortest.chars x else ['n', 'u', 'l', 'l']

end HomeHub.Json
