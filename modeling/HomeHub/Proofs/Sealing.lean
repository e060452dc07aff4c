import Mathlib.Algebra.Group.Nat.Defs
import HomeHub.Cipher
import HomeHub.Proofs.Base64Laws

/-!
Opening is the inverse of sealing. The key stream of a nonce does not depend on the payload, so
combining with it twice gives the payload back; and the nonce stands in front. What opens is
therefore what some nonce seals, and everything else is refused for its text or for its length.
-/

namespace HomeHub

lemma Bytes.ofNatBE_mod (count n : Nat) : ofNatBE count (n % 256 ^ count) = ofNatBE count n := by
  induction count generalizing n with
  | zero => rfl
  | succ k ih =>
    have hmod : n % 256 ^ (k + 1) % 256 = n % 256 :=
      Nat.mod_mod_of_dvd n (Nat.dvd_mul_left 256 (256 ^ k))
    have hdiv : n % 256 ^ (k + 1) / 256 = n / 256 % 256 ^ k := Nat.mod_mul_left_div_self n 256 _
    rw [ofNatBE, ofNatBE, hmod, hdiv, ih]

namespace Counter

/-! ### The key stream -/

lemma length_flatMap_range {f : Nat → Bytes} {size : Nat} (hf : ∀ j, (f j).length = size)
    (count : Nat) : ((List.range count).flatMap f).length = size * count := by
  induction count with
  | zero => rfl
  | succ k ih =>
    rw [List.range_succ, List.flatMap_append, List.length_append, ih, List.flatMap_singleton, hf,
      Nat.mul_succ]

lemma getElem?_flatMap_range {f : Nat → Bytes} {size : Nat} (hf : ∀ j, (f j).length = size)
    {i count : Nat} (h : i < size * count) :
    ((List.range count).flatMap f)[i]? = (f (i / size))[i % size]? := by
  induction count with
  | zero => simp at h
  | succ k ih =>
    rw [List.range_succ, List.flatMap_append, List.flatMap_singleton]
    have hlen := length_flatMap_range hf k
    rcases Nat.lt_or_ge i (size * k) with hlt | hge
    · rw [List.getElem?_append_left (by rw [hlen]; exact hlt), ih hlt]
    · rw [Nat.mul_succ] at h
      have hdiv : i / size = k := Nat.div_eq_of_lt_le (by rw [Nat.mul_comm]; exact hge) (by
        rw [Nat.succ_mul, Nat.mul_comm]
        exact h)
      have hmod : i % size = i - size * k := by rw [← hdiv, Nat.mod_eq_sub_mul_div]
      rw [List.getElem?_append_right (by rw [hlen]; exact hge), hlen, hdiv, hmod]

lemma length_streamBlock (keys : List Aes.Block) (first i : Nat) :
    (streamBlock keys first i).length = 16 := rfl

lemma length_stream (key nonce : Bytes) (n : Nat) : (stream key nonce n).length = n := by
  rw [stream, List.length_take, length_flatMap_range (length_streamBlock _ _)]
  omega

/-- The byte at a place of the key stream: the counter block is the nonce as a number plus the
number of the block, modulo `2 ^ 128`. -/
def streamByte (key : Key) (nonce : Nonce) (i : Nat) : UInt8 :=
  let counter := (nonce.bytes.toNatBE + i / 16) % 2 ^ 128
  let block := Aes.encrypt (Aes.roundKeys key.bytes) (.ofBytes (Bytes.ofNatBE 16 counter))
  block.toBytes.getD (i % 16) 0

/-- After the last nonce the counter starts again with the first. -/
example (key : Key) : streamByte key (.ofNat (2 ^ 128 - 1)) 16 = streamByte key (.ofNat 0) 0 := rfl

lemma getElem?_stream (key : Key) (nonce : Nonce) {n i : Nat} (h : i < n) :
    (stream key.bytes nonce.bytes n)[i]? = some (streamByte key nonce i) := by
  have hlen : i % 16 < 16 := Nat.mod_lt i (by decide)
  have hpow : 256 ^ 16 = 2 ^ 128 := by decide
  rw [stream, List.getElem?_take_of_lt h,
    getElem?_flatMap_range (length_streamBlock _ _) (by omega), streamBlock, ← Bytes.ofNatBE_mod,
    hpow, List.getElem?_eq_getElem hlen]
  have hbyte (block : Aes.Block) : block.toBytes.getD (i % 16) 0 = block.toBytes[i % 16] := by
    rw [List.getD_eq_getElem?_getD, List.getElem?_eq_getElem hlen, Option.getD_some]
  rw [streamByte, hbyte]

lemma length_apply (key nonce data : Bytes) : (apply key nonce data).length = data.length := by
  rw [apply, List.length_zipWith, length_stream, Nat.min_self]

lemma apply_eq (key : Key) (nonce : Nonce) (data : Bytes) :
    apply key.bytes nonce.bytes data = data.mapIdx fun i b => b ^^^ streamByte key nonce i := by
  refine List.ext_getElem? fun i => ?_
  rw [apply, List.getElem?_zipWith, List.getElem?_mapIdx]
  rcases Nat.lt_or_ge i data.length with h | h
  · rw [getElem?_stream key nonce h, List.getElem?_eq_getElem h]
    rfl
  · rw [List.getElem?_eq_none h]
    rfl

lemma apply_apply (key : Key) (nonce : Nonce) (data : Bytes) :
    apply key.bytes nonce.bytes (apply key.bytes nonce.bytes data) = data := by
  refine List.ext_getElem? fun i => ?_
  rw [apply_eq, apply_eq, List.getElem?_mapIdx, List.getElem?_mapIdx, Option.map_map]
  have hxor : ((fun b => b ^^^ streamByte key nonce i) ∘ fun b => b ^^^ streamByte key nonce i) =
      id := by
    funext b
    rw [Function.comp_apply, UInt8.xor_assoc, UInt8.xor_self, UInt8.xor_zero, id]
  rw [hxor, Option.map_id, id]

end Counter

namespace Cipher

/-- The cipher with a key. -/
def ofKey (key : Key) : Cipher := ⟨some key⟩

variable {key : Key} {nonce : Nonce} {plain s bytes : Bytes}

lemma sealWith_ofKey : (ofKey key).sealWith nonce plain =
    Base64.encode (nonce.bytes ++ Counter.apply key.bytes nonce.bytes plain) := rfl

/-! ### What a text opens to -/

lemma openSealed_of_not_canonical (h : ¬ Base64.Canonical s) :
    (ofKey key).openSealed s = .error .invalidEncoding := by
  simp only [openSealed, ofKey, Base64.decode?_eq_none_iff.mpr h]

lemma openSealed_encode_short (h : bytes.length < nonceLength) :
    (ofKey key).openSealed (Base64.encode bytes) = .error (.truncated bytes.length) := by
  simp only [openSealed, ofKey, Base64.decode?_encode, if_pos h]

lemma openSealed_sealWith :
    (ofKey key).openSealed ((ofKey key).sealWith nonce plain) = .ok plain := by
  have hlen :
      ¬ (nonce.bytes ++ Counter.apply key.bytes nonce.bytes plain).length < nonceLength := by
    rw [List.length_append, nonce.length_bytes]
    exact Nat.not_lt.mpr (Nat.le_add_right _ _)
  simp only [openSealed, ofKey, sealWith, Base64.decode?_encode, if_neg hlen,
    List.take_left' nonce.length_bytes, List.drop_left' nonce.length_bytes, Counter.apply_apply]

lemma exists_sealWith_eq (h : nonceLength ≤ bytes.length) :
    ∃ nonce plain, (ofKey key).sealWith nonce plain = Base64.encode bytes := by
  let nonce : Nonce := ⟨bytes.take nonceLength, by simp [h]⟩
  refine ⟨nonce, Counter.apply key.bytes nonce.bytes (bytes.drop nonceLength), ?_⟩
  rw [sealWith_ofKey, Counter.apply_apply, List.take_append_drop]

lemma text_cases (key : Key) (s : Bytes) : ¬ Base64.Canonical s ∨
    (∃ bytes, Base64.encode bytes = s ∧ bytes.length < nonceLength) ∨
    ∃ nonce plain, (ofKey key).sealWith nonce plain = s := by
  by_cases hs : Base64.Canonical s
  · obtain ⟨bytes, rfl⟩ := Base64.canonical_iff.mp hs
    rcases Nat.lt_or_ge bytes.length nonceLength with hlt | hge
    · exact .inr (.inl ⟨bytes, rfl, hlt⟩)
    · exact .inr (.inr (exists_sealWith_eq hge))
  · exact .inl hs

lemma openSealed_eq_ok_iff :
    (ofKey key).openSealed s = .ok plain ↔ ∃ nonce, (ofKey key).sealWith nonce plain = s := by
  constructor
  · intro h
    rcases text_cases key s with hs | ⟨bytes, rfl, hlt⟩ | ⟨nonce, other, rfl⟩
    · rw [openSealed_of_not_canonical hs] at h
      cases h
    · rw [openSealed_encode_short hlt] at h
      cases h
    · rw [openSealed_sealWith] at h
      rw [Except.ok.inj h]
      exact ⟨nonce, rfl⟩
  · rintro ⟨nonce, rfl⟩
    exact openSealed_sealWith

lemma openSealed_eq_invalid_iff :
    (ofKey key).openSealed s = .error .invalidEncoding ↔ ¬ Base64.Canonical s := by
  refine ⟨fun h => ?_, openSealed_of_not_canonical⟩
  rcases text_cases key s with hs | ⟨bytes, rfl, hlt⟩ | ⟨nonce, other, rfl⟩
  · exact hs
  · rw [openSealed_encode_short hlt] at h
    cases h
  · rw [openSealed_sealWith] at h
    cases h

lemma openSealed_eq_truncated_iff {n : Nat} :
    (ofKey key).openSealed s = .error (.truncated n) ↔
      ∃ bytes, Base64.encode bytes = s ∧ bytes.length = n ∧ n < nonceLength := by
  constructor
  · intro h
    rcases text_cases key s with hs | ⟨bytes, rfl, hlt⟩ | ⟨nonce, other, rfl⟩
    · rw [openSealed_of_not_canonical hs] at h
      cases h
    · rw [openSealed_encode_short hlt] at h
      obtain rfl := CipherFault.truncated.inj (Except.error.inj h)
      exact ⟨bytes, rfl, rfl, hlt⟩
    · rw [openSealed_sealWith] at h
      cases h
  · rintro ⟨bytes, rfl, rfl, hlt⟩
    exact openSealed_encode_short hlt

/-! ### Sealed payloads -/

lemma eq_of_sealWith_eq {other : Nonce} {plain' : Bytes}
    (h : (ofKey key).sealWith nonce plain = (ofKey key).sealWith other plain') :
    nonce = other ∧ plain = plain' := by
  have happend := Base64.encode_injective h
  have hbytes : nonce.bytes = other.bytes :=
    (List.append_inj happend (nonce.length_bytes.trans other.length_bytes.symm)).1
  have hopen : (ofKey key).openSealed ((ofKey key).sealWith nonce plain) = .ok plain :=
    openSealed_sealWith
  rw [h, openSealed_sealWith] at hopen
  refine ⟨?_, (Except.ok.inj hopen).symm⟩
  cases nonce
  cases other
  simpa using hbytes

lemma length_sealWith : ((ofKey key).sealWith nonce plain).length =
    4 * ((nonceLength + plain.length + 2) / 3) := by
  rw [sealWith_ofKey, Base64.length_encode, List.length_append, nonce.length_bytes,
    Counter.length_apply]

/-- **Opening is the inverse of sealing.** A text opens to what some nonce seals to it; all others
are refused, as no base64 or as shorter than a nonce. A sealed payload is the nonce and the payload
combined with the key stream, in base64, which fixes its length; and no text is sealed in two ways.
-/
theorem openSealed_inverse (key : Key) :
    (∀ s plain, (ofKey key).openSealed s = .ok plain ↔
      ∃ nonce, (ofKey key).sealWith nonce plain = s) ∧
    (∀ s, (ofKey key).openSealed s = .error .invalidEncoding ↔ ¬ Base64.Canonical s) ∧
    (∀ s n, (ofKey key).openSealed s = .error (.truncated n) ↔
      ∃ bytes, Base64.encode bytes = s ∧ bytes.length = n ∧ n < nonceLength) ∧
    (∀ nonce plain, (ofKey key).openSealed ((ofKey key).sealWith nonce plain) = .ok plain) ∧
    Function.Injective (fun x : Nonce × Bytes => (ofKey key).sealWith x.1 x.2) ∧
    ∀ nonce plain, (ofKey key).sealWith nonce plain = Base64.encode
        (nonce.bytes ++ plain.mapIdx fun i b => b ^^^ Counter.streamByte key nonce i) ∧
      ((ofKey key).sealWith nonce plain).length = 4 * ((nonceLength + plain.length + 2) / 3) := by
  refine ⟨fun s plain => openSealed_eq_ok_iff, fun s => openSealed_eq_invalid_iff,
    fun s n => openSealed_eq_truncated_iff, fun nonce plain => openSealed_sealWith,
    fun _ _ h => Prod.ext (eq_of_sealWith_eq h).1 (eq_of_sealWith_eq h).2,
    fun nonce plain => ⟨?_, length_sealWith⟩⟩
  rw [sealWith_ofKey, Counter.apply_eq]

end Cipher

end HomeHub
