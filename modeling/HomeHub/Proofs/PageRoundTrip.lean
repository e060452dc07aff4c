import Mathlib.Data.List.GetD
import HomeHub.Store

/-!
The page of a record holds that record and no other: what is read from it, through the magic
letters, the stated length and the checksum, is the payload that was written.
-/

namespace HomeHub

/-! ### Words -/

lemma getLsbD_byte (w : BitVec 32) (k : Nat) {i : Nat} (hi : i < 32) :
    (BitVec.setWidth 32 (BitVec.setWidth 8 (w >>> k)) <<< k).getLsbD i =
      (decide (k ≤ i ∧ i < k + 8) && w.getLsbD i) := by
  simp only [BitVec.getLsbD_shiftLeft, BitVec.getLsbD_setWidth, BitVec.getLsbD_ushiftRight, hi]
  by_cases hk : k ≤ i
  · have h1 : k + (i - k) = i := by omega
    have h2 : i - k < 32 := by omega
    have h3 : i - k < 8 ↔ i < k + 8 := by omega
    simp [hk, h1, h2, h3]
  · have : i < k := by omega
    simp [hk, this]

lemma word_bytes (w : UInt32) :
    Bytes.word w.toUInt8 (w >>> 8).toUInt8 (w >>> 16).toUInt8 (w >>> 24).toUInt8 = w := by
  apply UInt32.toBitVec_inj.mp
  apply BitVec.eq_of_getLsbD_eq
  intro i hi
  have h0 := getLsbD_byte w.toBitVec 0 hi
  have h8 := getLsbD_byte w.toBitVec 8 hi
  have h16 := getLsbD_byte w.toBitVec 16 hi
  have h24 := getLsbD_byte w.toBitVec 24 hi
  simp only [BitVec.shiftLeft_zero, BitVec.ushiftRight_zero] at h0
  calc _ = (decide (0 ≤ i ∧ i < 0 + 8) && w.toBitVec.getLsbD i ||
        decide (8 ≤ i ∧ i < 8 + 8) && w.toBitVec.getLsbD i ||
        decide (16 ≤ i ∧ i < 16 + 8) && w.toBitVec.getLsbD i ||
        decide (24 ≤ i ∧ i < 24 + 8) && w.toBitVec.getLsbD i) := by
          rw [← h0, ← h8, ← h16, ← h24]
          simp only [Bytes.word, UInt32.toBitVec_or, BitVec.getLsbD_or]
          rfl
    _ = w.toBitVec.getLsbD i := by
      -- each bit lies in one of the four bytes
      cases w.toBitVec.getLsbD i
      · simp
      · simp
        omega

/-! ### Pages -/

namespace Record

lemma bytes_toPage (r : Record) : ∃ rest, r.toPage.bytes =
    [0x48, 0x57, 0x44, 0x52, version, 0, UInt8.ofNat r.payload.length,
      UInt8.ofNat (r.payload.length / 256)] ++ (r.payload ++ rest) := by
  refine ⟨List.replicate (maxPayload - r.payload.length) 0 ++
    Bytes.ofWord (Crc32.checksum r.body), ?_⟩
  simp [toPage, body, magic]

lemma statedLength_toPage (r : Record) : statedLength r.toPage = r.payload.length := by
  have hlen := r.length_le
  simp only [maxPayload, checksumOffset, headerLength] at hlen
  obtain ⟨rest, h⟩ := bytes_toPage r
  have hhigh : r.payload.length / 256 = 0 := by omega
  simp only [statedLength, byteAt, h, hhigh]
  simp
  omega

lemma take_toPage (r : Record) : r.toPage.bytes.take checksumOffset = r.body :=
  List.take_left' (length_body r)

lemma checksum_toPage (r : Record) :
    wordAt r.toPage checksumOffset = Crc32.checksum r.body := by
  have hget (i : Nat) : byteAt r.toPage (checksumOffset + i) =
      (Bytes.ofWord (Crc32.checksum r.body)).getD i 0 := by
    have hlen := length_body r
    simp only [byteAt, toPage]
    rw [List.getD_append_right _ _ _ _ (by omega), hlen, Nat.add_sub_cancel_left]
  have h0 := hget 0
  have h1 := hget 1
  have h2 := hget 2
  have h3 := hget 3
  rw [Nat.add_zero] at h0
  rw [wordAt, h0, h1, h2, h3]
  exact word_bytes _

theorem ofPage_toPage (r : Record) : ofPage r.toPage = .ok r := by
  obtain ⟨rest, h⟩ := bytes_toPage r
  have hblank : r.toPage.bytes.all (· == Flash.erased) = false := by
    rw [h]
    rfl
  have hmagic : wordAt r.toPage 0 = magicWord := by
    simp only [wordAt, byteAt, h]
    rfl
  have hversion : byteAt r.toPage 4 = version := by
    simp only [byteAt, h]
    rfl
  have hlen : statedLength r.toPage ≤ maxPayload := by
    rw [statedLength_toPage]
    exact r.length_le
  have hsum : wordAt r.toPage checksumOffset =
      Crc32.checksum (r.toPage.bytes.take checksumOffset) := by
    rw [checksum_toPage, take_toPage]
  have hpayload : Flash.slice r.toPage.bytes headerLength (statedLength r.toPage) = r.payload := by
    rw [statedLength_toPage, Flash.slice, h]
    exact List.take_left' rfl
  unfold ofPage
  simp [hblank, hmagic, hversion, hlen, ← hsum, hpayload]

end Record

lemma Store.loaded_toPage (r : Record) : Store.loaded r.toPage = r := by
  unfold Store.loaded
  rw [Record.ofPage_toPage]

end HomeHub
