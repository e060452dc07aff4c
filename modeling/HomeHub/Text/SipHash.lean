import HomeHub.Bytes

/-!
The keyed hash SipHash with one compression round and three finalisation rounds.
-/

namespace HomeHub.SipHash

structure State where
  v0 : UInt64
  v1 : UInt64
  v2 : UInt64
  v3 : UInt64
  deriving DecidableEq, Repr

def rotate (x : UInt64) (n : UInt64) : UInt64 := (x <<< n) ||| (x >>> (64 - n))

def State.init (k0 k1 : UInt64) : State :=
  ⟨k0 ^^^ 0x736f6d6570736575, k1 ^^^ 0x646f72616e646f6d, k0 ^^^ 0x6c7967656e657261,
    k1 ^^^ 0x7465646279746573⟩

def State.round (s : State) : State :=
  let v0 := s.v0 + s.v1
  let v1 := rotate s.v1 13 ^^^ v0
  let v0 := rotate v0 32
  let v2 := s.v2 + s.v3
  let v3 := rotate s.v3 16 ^^^ v2
  let v0 := v0 + v3
  let v3 := rotate v3 21 ^^^ v0
  let v2 := v2 + v1
  let v1 := rotate v1 17 ^^^ v2
  let v2 := rotate v2 32
  ⟨v0, v1, v2, v3⟩

/-- Takes in one word of the message. -/
def State.absorb (s : State) (m : UInt64) : State :=
  let s := { s with v3 := s.v3 ^^^ m }.round
  { s with v0 := s.v0 ^^^ m }

/-- Up to eight bytes as a word, least significant byte first. -/
def word (bs : Bytes) : UInt64 := bs.foldr (fun b w => (w <<< 8) ||| b.toUInt64) 0

/-- Whole words, and the last one, which is filled up with the message length. -/
def absorbAll (length : Nat) : (fuel : Nat) → State → Bytes → State
  | 0, s, _ => s
  | fuel + 1, s, bs =>
    if bs.length < 8 then s.absorb (word bs ||| (UInt64.ofNat length <<< 56))
    else absorbAll length fuel (s.absorb (word (bs.take 8))) (bs.drop 8)

def hash (k0 k1 : UInt64) (message : Bytes) : UInt64 :=
  let s := absorbAll message.length (message.length + 1) (State.init k0 k1) message
  let s := { s with v2 := s.v2 ^^^ 0xFF }.round.round.round
  s.v0 ^^^ s.v1 ^^^ s.v2 ^^^ s.v3

end HomeHub.SipHash
