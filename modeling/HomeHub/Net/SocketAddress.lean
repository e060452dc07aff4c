import HomeHub.Text.Decimal
import HomeHub.Text.Hex
import HomeHub.Text.Reader

/-!
Internet socket addresses and their text. Version 4 is four decimal octets; version 6 is eight
groups in brackets, of which one run of zeros may be left out, and whose last two may be written as
octets. The port follows a colon.
-/

namespace HomeHub

inductive SocketAddress
  | v4 (octets : List Nat) (port : Nat)
  /-- Eight groups of sixteen bits; scope zero means none. -/
  | v6 (groups : List Nat) (scope port : Nat)
  deriving DecidableEq, Repr

namespace SocketAddress

def readMark (c : Char) : Reader Unit
  | d :: rest => if c = d then some ((), rest) else none
  | [] => none

def spanDigits (digit : Char → Option Nat) : List Char → List Nat × List Char
  | [] => ([], [])
  | c :: rest =>
    match digit c with
    | some d => let (ds, r) := spanDigits digit rest; (d :: ds, r)
    | none => ([], c :: rest)

/-- One to three decimal digits without a leading zero, at most 255. -/
def readOctet : Reader Nat := fun s =>
  match spanDigits Decimal.digit? s with
  | ([], _) => none
  | (0 :: _ :: _, _) => none
  | (ds, rest) =>
    if ds.length ≤ 3 ∧ Decimal.ofDigits ds ≤ 255 then some (Decimal.ofDigits ds, rest) else none

/-- Any number of decimal digits, at most `limit`. -/
def readNumber (limit : Nat) : Reader Nat := fun s =>
  match spanDigits Decimal.digit? s with
  | ([], _) => none
  | (ds, rest) => if Decimal.ofDigits ds ≤ limit then some (Decimal.ofDigits ds, rest) else none

/-- One to four hexadecimal digits. -/
def readGroup : Reader Nat := fun s =>
  match spanDigits Reader.hexDigit? s with
  | ([], _) => none
  | (ds, rest) =>
    if ds.length ≤ 4 then some (ds.foldl (fun n d => n * 16 + d) 0, rest) else none

def readOctets : Reader (List Nat) := fun s => do
  let (a, s) ← readOctet s
  let (_, s) ← readMark '.' s
  let (b, s) ← readOctet s
  let (_, s) ← readMark '.' s
  let (c, s) ← readOctet s
  let (_, s) ← readMark '.' s
  let (d, s) ← readOctet s
  return ([a, b, c, d], s)

def readPort : Reader Nat := fun s => do
  let (_, s) ← readMark ':' s
  readNumber 65535 s

def readV4 : Reader SocketAddress := fun s => do
  let (octets, s) ← readOctets s
  let (port, s) ← readPort s
  return (.v4 octets port, s)

/-- A reader after a colon, except for the first of a row. -/
def separated {α : Type} (first : Bool) (item : Reader α) : Reader α := fun s =>
  if first then item s else (readMark ':' s).bind fun r => item r.2

/-- The two groups that four octets make. -/
def groupsOfOctets : List Nat → List Nat
  | [a, b, c, d] => [a * 256 + b, c * 256 + d]
  | _ => []

/-- At most `limit` groups. The flag says that they end in octets, which need room for two. -/
def readGroups (first : Bool) : (limit : Nat) → List Char → (List Nat × Bool) × List Char
  | 0, s => (([], false), s)
  | limit + 1, s =>
    let octets := if limit = 0 then none else separated first readOctets s
    match octets with
    | some (os, rest) => ((groupsOfOctets os, true), rest)
    | none =>
      match separated first readGroup s with
      | some (g, rest) =>
        let ((gs, flag), r) := readGroups false limit rest
        ((g :: gs, flag), r)
      | none => (([], false), s)

/-- Eight groups, or fewer with a double colon in place of the zeros. -/
def readAddress6 : Reader (List Nat) := fun s =>
  let ((front, octets), s) := readGroups true 8 s
  if front.length = 8 then some (front, s)
  else if octets then none
  else do
    let (_, s) ← readMark ':' s
    let (_, s) ← readMark ':' s
    let ((back, _), s) := readGroups true (7 - front.length) s
    return (front ++ List.replicate (8 - front.length - back.length) 0 ++ back, s)

/-- A scope after a percent sign. A sign without a number is left standing. -/
def readScope (s : List Char) : Nat × List Char :=
  match (readMark '%' s).bind fun r => readNumber (Nat.pow 2 32 - 1) r.2 with
  | some r => r
  | none => (0, s)

def readV6 : Reader SocketAddress := fun s => do
  let (_, s) ← readMark '[' s
  let (groups, s) ← readAddress6 s
  let (scope, s) := readScope s
  let (_, s) ← readMark ']' s
  let (port, s) ← readPort s
  return (.v6 groups scope port, s)

/-- The address that a whole text spells. -/
def ofString? (text : String) : Option SocketAddress :=
  let s := text.toList
  match readV4 s with
  | some (a, rest) => if rest.isEmpty then some a else none
  | none =>
    match readV6 s with
    | some (a, rest) => if rest.isEmpty then some a else none
    | none => none

def octetsText (octets : List Nat) : String := ".".intercalate (octets.map Decimal.text)

def groupsText (groups : List Nat) : String := ":".intercalate (groups.map Hex.ofNat)

/-- The length of the run of zeros at the start. -/
def zeroRun (groups : List Nat) : Nat := (groups.takeWhile (· == 0)).length

/-- The first of the longest runs of zeros, as its start and length, from the position `start`
on. -/
def longestRun : (start : Nat) → List Nat → Nat × Nat
  | _, [] => (0, 0)
  | start, g :: rest =>
    let here := zeroRun (g :: rest)
    let later := longestRun (start + 1) rest
    if later.2 ≤ here then (start, here) else later

/-- Addresses that stand for version 4 end in octets; in others the longest run of at least two
zero groups is left out. -/
def address6Text (groups : List Nat) : String :=
  match groups with
  | [0, 0, 0, 0, 0, 0xFFFF, x, y] =>
    "::ffff:" ++ octetsText [x / 256, x % 256, y / 256, y % 256]
  | _ =>
    let (start, length) := longestRun 0 groups
    if 2 ≤ length then
      groupsText (groups.take start) ++ "::" ++ groupsText (groups.drop (start + length))
    else groupsText groups

def text : SocketAddress → String
  | .v4 octets port => octetsText octets ++ ":" ++ Decimal.text port
  | .v6 groups scope port =>
    let zone := if scope = 0 then "" else "%" ++ Decimal.text scope
    "[" ++ address6Text groups ++ zone ++ "]:" ++ Decimal.text port

end SocketAddress

end HomeHub
