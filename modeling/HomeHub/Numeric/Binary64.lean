/-!
Binary64 numbers. A number is its sign and its magnitude, where the magnitudes number the
non-negative values upwards from zero through the subnormals and the binades to infinity, so that
numbers compare as integers do. Every finite value is a whole number of units of `2 ^ -1074`, and
each operation rounds its exact result to the nearest value, a tie to the even one.
-/

namespace HomeHub

structure Binary64 where
  negative : Bool
  /-- The position among the non-negative values; past `Binary64.infinite` stands NaN. -/
  magnitude : Nat
  deriving DecidableEq, Repr

namespace Binary64

/-- Values in one binade. -/
def binade : Nat := Nat.pow 2 52

/-- The magnitude of infinity. -/
def infinite : Nat := 2047 * binade

def nan : Binary64 := ⟨false, infinite + 1⟩
def inf : Binary64 := ⟨false, infinite⟩
def zero : Binary64 := ⟨false, 0⟩

def isNaN (x : Binary64) : Bool := decide (infinite < x.magnitude)
def isInfinite (x : Binary64) : Bool := x.magnitude == infinite
def isFinite (x : Binary64) : Bool := decide (x.magnitude < infinite)
def isZero (x : Binary64) : Bool := x.magnitude == 0

def neg (x : Binary64) : Binary64 := { x with negative := !x.negative }

/-- The place of a number in the order of all numbers; both zeros share one place. -/
def place (x : Binary64) : Int := if x.negative then -(x.magnitude : Int) else x.magnitude

/-- NaN is below nothing and above nothing. -/
def lt (x y : Binary64) : Bool := !x.isNaN && !y.isNaN && decide (x.place < y.place)

/-- Equality of numbers: the zeros are equal, and NaN differs from itself. -/
def same (x y : Binary64) : Bool := !x.isNaN && !y.isNaN && x.place == y.place

/-- The whole significand of a magnitude. -/
def significand (m : Nat) : Nat := if m < binade then m else binade + m % binade

/-- The binades above the lowest one that a magnitude lies in. -/
def scale (m : Nat) : Nat := m / binade - 1

/-- A magnitude in units of `2 ^ -1074`. -/
def units (m : Nat) : Nat := significand m * Nat.pow 2 (scale m)

/-- The quotient rounded to the nearest whole number, a tie to the even one. -/
def roundedDiv (a b : Nat) : Nat :=
  let q := a / b
  let r := a % b
  if 2 * r < b ∨ (2 * r = b ∧ q % 2 = 0) then q else q + 1

/-- The magnitude nearest to `a / b` units. -/
def nearest (a b : Nat) : Nat :=
  let e := (a / b).log2 - 52
  min infinite (e * binade + roundedDiv a (b * Nat.pow 2 e))

/-- The number nearest to `a / b`. -/
def ofRatio (negative : Bool) (a b : Nat) : Binary64 :=
  ⟨negative, nearest (a * Nat.pow 2 1074) b⟩

def ofNat (n : Nat) : Binary64 := ofRatio false n 1

def ofInt : Int → Binary64
  | .ofNat n => ofNat n
  | .negSucc n => ofRatio true (n + 1) 1

/-- A finite number in units of `2 ^ -1074`, signed. -/
def signedUnits (x : Binary64) : Int :=
  if x.negative then -(units x.magnitude : Int) else units x.magnitude

/-- A sum of zero is negative only if both terms are. -/
def add (x y : Binary64) : Binary64 :=
  if x.isNaN || y.isNaN then nan
  else if x.isInfinite then
    if y.isInfinite && x.negative != y.negative then nan else x
  else if y.isInfinite then y
  else
    let s := x.signedUnits + y.signedUnits
    if s = 0 then ⟨x.negative && y.negative, 0⟩ else ⟨decide (s < 0), nearest s.natAbs 1⟩

def mul (x y : Binary64) : Binary64 :=
  let negative := x.negative != y.negative
  if x.isNaN || y.isNaN then nan
  else if x.isInfinite || y.isInfinite then
    if x.isZero || y.isZero then nan else ⟨negative, infinite⟩
  else ⟨negative, nearest (units x.magnitude * units y.magnitude) (Nat.pow 2 1074)⟩

def div (x y : Binary64) : Binary64 :=
  let negative := x.negative != y.negative
  if x.isNaN || y.isNaN then nan
  else if x.isInfinite then if y.isInfinite then nan else ⟨negative, infinite⟩
  else if y.isInfinite then ⟨negative, 0⟩
  else if y.isZero then if x.isZero then nan else ⟨negative, infinite⟩
  else ⟨negative, nearest (units x.magnitude * Nat.pow 2 1074) (units y.magnitude)⟩

end Binary64

end HomeHub
