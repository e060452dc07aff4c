import HomeHub.Cipher

/-!
Sources of nonces. A source is an endless sequence, of which a sender uses one nonce after the
other.
-/

namespace HomeHub

/-- The `n`-th nonce of a source, counted from zero. -/
abbrev NonceSource := Nat → Nonce

namespace NonceSource

/-- The encryption of the numbers from zero on. The cipher permutes its blocks, so `2 ^ 128` nonces
pass before one comes again. -/
def keyed (key : Key) : NonceSource := fun n =>
  ⟨Counter.streamBlock (Aes.roundKeys key.bytes) n 0, rfl⟩

end NonceSource

end HomeHub
