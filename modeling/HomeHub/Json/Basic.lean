import HomeHub.Numeric.Binary64

/-!
JSON documents. An object is its members in writing order; a document is canonical when every
object has its keys in strictly ascending order, which is how documents are read.
-/

namespace HomeHub

/-- A number: an integer that fits 64 bits, or a binary64 number. -/
inductive Json.Number
  | natural (n : UInt64)
  /-- The integer `-(n + 1)`. -/
  | negative (n : Fin (Nat.pow 2 63))
  | real (x : Binary64)
  deriving DecidableEq, Repr

inductive Json
  | null
  | bool (b : Bool)
  | number (n : Json.Number)
  | string (s : String)
  | array (items : List Json)
  | object (members : List (String × Json))
  deriving Repr

namespace Json

instance : Inhabited Json := ⟨null⟩

/-- The number nearest to an integer, exact if it fits 64 bits. -/
def Number.ofInt : Int → Number
  | .ofNat n => if n < Nat.pow 2 64 then .natural (UInt64.ofNat n) else .real (Binary64.ofNat n)
  | .negSucc n =>
    if h : n < Nat.pow 2 63 then .negative ⟨n, h⟩ else .real (Binary64.ofInt (.negSucc n))

def Number.toBinary64 : Number → Binary64
  | .natural n => Binary64.ofNat n.toNat
  | .negative n => Binary64.ofInt (.negSucc n.val)
  | .real x => x

def ofNat (n : Nat) : Json := .number (Number.ofInt n)
def ofInt (i : Int) : Json := .number (Number.ofInt i)

/-- A number as a document; NaN and the infinities have no JSON form and become null. -/
def ofBinary64 (x : Binary64) : Json := if x.isFinite then .number (.real x) else .null

/-- Puts a member into an ascending list of members, replacing one of the same key. -/
def insert (key : String) (value : Json) : List (String × Json) → List (String × Json)
  | [] => [(key, value)]
  | (k, v) :: rest =>
    if key < k then (key, value) :: (k, v) :: rest
    else if key = k then (key, value) :: rest
    else (k, v) :: insert key value rest

/-- The ascending members that a list in any order amounts to; of one key the last counts. -/
def sorted (members : List (String × Json)) : List (String × Json) :=
  members.foldl (fun acc m => insert m.1 m.2 acc) []

/-- The value of the first member with this key. -/
def member? (key : String) (members : List (String × Json)) : Option Json :=
  (members.find? fun m => m.1 == key).map (·.2)

/-- The member of an object. -/
def get? (key : String) : Json → Option Json
  | .object members => member? key members
  | _ => none

mutual

/-- How deep arrays and objects are nested. -/
def depth : Json → Nat
  | .array items => depthItems items + 1
  | .object members => depthMembers members + 1
  | _ => 0

def depthItems : List Json → Nat
  | [] => 0
  | v :: rest => max (depth v) (depthItems rest)

def depthMembers : List (String × Json) → Nat
  | [] => 0
  | (_, v) :: rest => max (depth v) (depthMembers rest)

end

end Json

end HomeHub
