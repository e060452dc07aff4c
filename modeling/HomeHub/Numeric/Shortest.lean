import HomeHub.Numeric.Binary64
import HomeHub.Text.Decimal

/-!
The shortest decimal text of a binary64 number: the fewest digits that read back as the same
number, and among those the nearest to it.
-/

namespace HomeHub.Shortest

/-- The decimal number `digits * 10 ^ exponent`. -/
structure Decimal where
  digits : Nat
  exponent : Int
  deriving DecidableEq, Repr

/-- The reals that round to one magnitude, in halves of a unit. The ends belong to them if
`closed` holds. -/
structure Interval where
  low : Nat
  centre : Nat
  high : Nat
  closed : Bool

def Interval.of (m : Nat) : Interval where
  low := Binary64.units (m - 1) + Binary64.units m
  centre := 2 * Binary64.units m
  high := Binary64.units m + Binary64.units (m + 1)
  closed := m % 2 == 0

/-- Halves of a unit in one. -/
def one : Nat := Nat.pow 2 1075

/-- `n * 10 ^ k` and `v` halves of a unit, brought to one denominator. -/
def commonScale (n : Nat) (k : Int) (v : Nat) : Nat × Nat :=
  match k with
  | .ofNat k => (n * Nat.pow 10 k * one, v)
  | .negSucc k => (n * one, v * Nat.pow 10 (k + 1))

/-- Whether `n * 10 ^ k` lies in the interval. -/
def Interval.contains (i : Interval) (n : Nat) (k : Int) : Bool :=
  let (x, low) := commonScale n k i.low
  let high := (commonScale n k i.high).2
  if i.closed then low ≤ x && x ≤ high else low < x && x < high

/-- The multiple of `10 ^ k` at or below the centre, as its factor. -/
def Interval.below (i : Interval) (k : Int) : Nat :=
  let (step, v) := commonScale 1 k i.centre
  v / step

/-- The smaller `j` with `v * 10 ^ j` at least one, tried upwards from `j`. -/
def fractionExponent (v : Nat) : (fuel : Nat) → (j : Nat) → Nat
  | 0, j => j
  | fuel + 1, j => if one ≤ v * Nat.pow 10 j then j else fractionExponent v fuel (j + 1)

/-- The decimal exponent of the leading digit of `v` halves of a unit. -/
def leadingExponent (v : Nat) : Int :=
  if one ≤ v then ((HomeHub.Decimal.digits (v / one)).length : Int) - 1
  else -(fractionExponent v 330 1 : Int)

/-- Of `n` and `n + 1` times `10 ^ k` the one nearer to the centre, a tie to the even one. -/
def Interval.nearer (i : Interval) (n : Nat) (k : Int) : Nat :=
  let (x, v) := commonScale n k i.centre
  let (y, _) := commonScale (n + 1) k i.centre
  if v - x < y - v then n
  else if y - v < v - x then n + 1
  else if n % 2 = 0 then n else n + 1

/-- The best multiple of `10 ^ k` in the interval. -/
def Interval.onGrid (i : Interval) (k : Int) : Option Nat :=
  let n := i.below k
  match i.contains n k, i.contains (n + 1) k with
  | true, true => some (i.nearer n k)
  | true, false => some n
  | false, true => some (n + 1)
  | false, false => none

/-- Tries `count` grids from `10 ^ k` downwards; the last one is rounded to if all fail. -/
def Interval.search (i : Interval) : (count : Nat) → (k : Int) → Decimal
  | 0, k => ⟨i.nearer (i.below k) k, k⟩
  | count + 1, k =>
    match i.onGrid k with
    | some n => ⟨n, k⟩
    | none => i.search count (k - 1)

/-- Moves trailing zeros of the digits into the exponent. -/
def Decimal.strip : (fuel : Nat) → Decimal → Decimal
  | 0, d => d
  | fuel + 1, d =>
    if d.digits ≠ 0 ∧ d.digits % 10 = 0 then Decimal.strip fuel ⟨d.digits / 10, d.exponent + 1⟩
    else d

/-- The shortest decimal of a finite magnitude other than zero. -/
def shortest (m : Nat) : Decimal :=
  let i := Interval.of m
  (i.search 16 (leadingExponent i.centre)).strip 20

/-- Numbers from `10 ^ -5` up to `10 ^ 16` are written out, always with a fraction; others have one
digit before the point and a signed exponent. -/
def layout (d : Decimal) : List Char :=
  let ds := HomeHub.Decimal.chars d.digits
  let lead : Int := d.exponent + ds.length - 1
  if 0 ≤ d.exponent ∧ lead ≤ 15 then
    ds ++ List.replicate d.exponent.toNat '0' ++ ['.', '0']
  else if 0 ≤ lead ∧ lead ≤ 15 then
    ds.take (lead.toNat + 1) ++ '.' :: ds.drop (lead.toNat + 1)
  else if -5 ≤ lead ∧ lead < 0 then
    '0' :: '.' :: List.replicate (-lead - 1).toNat '0' ++ ds
  else
    let mantissa := match ds with
      | [d] => [d]
      | d :: rest => d :: '.' :: rest
      | [] => []
    let sign := if lead < 0 then '-' else '+'
    mantissa ++ 'e' :: sign :: HomeHub.Decimal.chars lead.natAbs

/-- The text of a finite number. -/
def chars (x : Binary64) : List Char :=
  let body := if x.isZero then ['0', '.', '0'] else layout (shortest x.magnitude)
  if x.negative then '-' :: body else body

end HomeHub.Shortest
