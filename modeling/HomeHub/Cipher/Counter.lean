import HomeHub.Cipher.Aes

/-!
Counter mode: the key stream is the encryption of successive counter blocks, where the counter is
the whole block as a big-endian number and wraps around. Applying the key stream twice gives the
data back.
-/

namespace HomeHub.Counter

/-- The `i`-th block of the key stream from a first counter block on. -/
def streamBlock (keys : List Aes.Block) (first : Nat) (i : Nat) : Bytes :=
  (Aes.encrypt keys (Aes.Block.ofBytes (Bytes.ofNatBE 16 (first + i)))).toBytes

/-- The first `n` bytes of the key stream. -/
def stream (key nonce : Bytes) (n : Nat) : Bytes :=
  let keys := Aes.roundKeys key
  let first := nonce.toNatBE
  ((List.range ((n + 15) / 16)).flatMap (streamBlock keys first)).take n

/-- The data combined with the key stream. -/
def apply (key nonce data : Bytes) : Bytes :=
  List.zipWith (· ^^^ ·) data (stream key nonce data.length)

end HomeHub.Counter
