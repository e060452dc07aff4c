import HomeHub.Text.Decimal
import HomeHub.Text.Reader
import HomeHub.Toml.Basic

/-!
Numbers, dates and times in TOML. Integers fit 64 bits with a sign; a float that is too large is
refused; a date must exist in the calendar.
-/

namespace HomeHub.Toml

def isDigit (c : Char) : Bool := '0' ≤ c && c ≤ '9'

/-- Digits with single underscores between them; the underscores are left out. The digit before
has been read. -/
def moreDigits (digit : Char → Bool) : List Char → List Char × List Char
  | [] => ([], [])
  | c :: rest =>
    if c = '_' then
      match rest with
      | d :: rest' =>
        if digit d then let (ds, r) := moreDigits digit rest'; (d :: ds, r) else ([], c :: rest)
      | [] => ([], c :: rest)
    else if digit c then let (ds, r) := moreDigits digit rest; (c :: ds, r)
    else ([], c :: rest)

def readDigits (digit : Char → Bool) : Reader (List Char)
  | c :: rest =>
    if digit c then let (ds, r) := moreDigits digit rest; some (c :: ds, r) else none
  | [] => none

def readSign : List Char → Bool × List Char
  | '+' :: rest => (false, rest)
  | '-' :: rest => (true, rest)
  | s => (false, s)

/-- Decimal digits without a leading zero. -/
def readWhole : Reader (List Char)
  | '0' :: rest => some (['0'], rest)
  | s => readDigits isDigit s

/-- The number that digits spell in a base. -/
def digitsValue (base : Nat) (ds : List Char) : Nat :=
  ds.foldl (fun n c => n * base + (Reader.hexDigit? c).getD 0) 0

def inRange (i : Int) : Option Toml :=
  if -(Nat.pow 2 63 : Int) ≤ i ∧ i < (Nat.pow 2 63 : Int) then some (.integer i) else none

/-- The digits of an integer in the base that its letter stands for. -/
def readBased (base : Nat) : Reader Toml := fun s => do
  let digit (c : Char) := match Reader.hexDigit? c with
    | some d => decide (d < base)
    | none => false
  let (ds, rest) ← readDigits digit s
  let v ← inRange (digitsValue base ds)
  return (v, rest)

def readInteger : Reader Toml
  | '0' :: 'x' :: rest => readBased 16 rest
  | '0' :: 'o' :: rest => readBased 8 rest
  | '0' :: 'b' :: rest => readBased 2 rest
  | s => do
    let (negative, s) := readSign s
    let (ds, rest) ← readWhole s
    let n : Int := digitsValue 10 ds
    let v ← inRange (if negative then -n else n)
    return (v, rest)

/-- The number nearest to `n * 10 ^ e`. Exponents far out of range need no exact power. -/
def scaled (negative : Bool) (n : Nat) (e : Int) : Binary64 :=
  let size : Int := (Decimal.digits n).length + e
  if n = 0 ∨ size < -400 then ⟨negative, 0⟩
  else if 400 < size then ⟨negative, Binary64.infinite⟩
  else if 0 ≤ e then Binary64.ofRatio negative (n * Nat.pow 10 e.toNat) 1
  else Binary64.ofRatio negative n (Nat.pow 10 (-e).toNat)

def readFraction : List Char → Option (List Char) × List Char
  | '.' :: rest =>
    match readDigits isDigit rest with
    | some (ds, r) => (some ds, r)
    | none => (none, '.' :: rest)
  | s => (none, s)

def readExponent (s : List Char) : Option Int × List Char :=
  match s with
  | [] => (none, [])
  | c :: rest =>
    if c = 'e' ∨ c = 'E' then
      let (negative, r) := readSign rest
      match readDigits isDigit r with
      | some (ds, r) =>
        let n : Int := digitsValue 10 ds
        (some (if negative then -n else n), r)
      | none => (none, s)
    else (none, s)

/-- A float has a fraction, an exponent or both, or is a word. A number above all floats is refused;
one below all of them is the negative infinity. -/
def readFloat : Reader Toml := fun s => do
  let (negative, s) := readSign s
  match s with
  | 'i' :: 'n' :: 'f' :: rest => return (.float ⟨negative, Binary64.infinite⟩, rest)
  | 'n' :: 'a' :: 'n' :: rest => return (.float Binary64.nan, rest)
  | s => do
    let (whole, s) ← readWhole s
    let (fraction, s) := readFraction s
    let (exponent, s) := readExponent s
    if fraction.isNone ∧ exponent.isNone then none
    else
      let places := fraction.getD []
      let x := scaled negative (digitsValue 10 (whole ++ places))
        (exponent.getD 0 - (places.length : Int))
      if x.isInfinite ∧ !x.negative then none else return (.float x, s)

/-- Exactly `count` digits, as a number. -/
def readFixed (count : Nat) : Reader Nat := fun s =>
  let ds := s.take count
  if ds.length = count ∧ ds.all isDigit then some (digitsValue 10 ds, s.drop count) else none

def readMark (c : Char) : Reader Unit
  | d :: rest => if c = d then some ((), rest) else none
  | [] => none

def isLeap (year : Nat) : Bool := year % 4 == 0 && (year % 100 != 0 || year % 400 == 0)

def daysIn (year month : Nat) : Nat :=
  if month = 2 then if isLeap year then 29 else 28
  else if month = 4 ∨ month = 6 ∨ month = 9 ∨ month = 11 then 30
  else 31

def readDate : Reader Unit := fun s => do
  let (year, s) ← readFixed 4 s
  let (_, s) ← readMark '-' s
  let (month, s) ← readFixed 2 s
  let (_, s) ← readMark '-' s
  let (day, s) ← readFixed 2 s
  if 1 ≤ month ∧ month ≤ 12 ∧ 1 ≤ day ∧ day ≤ daysIn year month then return ((), s) else none

def readTime : Reader Unit := fun s => do
  let (hour, s) ← readFixed 2 s
  let (_, s) ← readMark ':' s
  let (minute, s) ← readFixed 2 s
  let (_, s) ← readMark ':' s
  let (second, s) ← readFixed 2 s
  if hour ≤ 23 ∧ minute ≤ 59 ∧ second ≤ 60 then
    match s with
    | '.' :: rest =>
      let ds := rest.takeWhile isDigit
      if ds.isEmpty then none else return ((), rest.dropWhile isDigit)
    | s => return ((), s)
  else none

def readOffset : Reader Unit
  | 'Z' :: rest => some ((), rest)
  | 'z' :: rest => some ((), rest)
  | c :: s => do
    if c = '+' ∨ c = '-' then
      let (hour, s) ← readFixed 2 s
      let (_, s) ← readMark ':' s
      let (minute, s) ← readFixed 2 s
      if hour ≤ 23 ∧ minute ≤ 59 then return ((), s) else none
    else none
  | [] => none

/-- The rest after a time with or without an offset, set off from its date. -/
def afterDate (s : List Char) : List Char :=
  match s with
  | [] => []
  | c :: rest =>
    if c = 'T' ∨ c = 't' ∨ c = ' ' then
      match readTime rest with
      | some (_, r) =>
        match readOffset r with
        | some (_, r) => r
        | none => r
      | none => s
    else s

/-- A date, a time or both, kept as they are written. -/
def readDatetime : Reader Toml := fun s =>
  let written (rest : List Char) := Toml.datetime (String.ofList (s.take (s.length - rest.length)))
  match readDate s with
  | some (_, r) => let r := afterDate r; some (written r, r)
  | none =>
    match readTime s with
    | some (_, r) => some (written r, r)
    | none => none

/-- A date or time, a float or an integer. -/
def readNumeric : Reader Toml := fun s =>
  match readDatetime s with
  | some r => some r
  | none =>
    match readFloat s with
    | some r => some r
    | none => readInteger s

end HomeHub.Toml
