import HomeHub.Proofs.PageCorruption

/-!
Which pages are the pages of records.

A page that reads as a record consists of the fields of that record, one after the other, but for
two that the reader looks at only through the checksum: the reserved byte, and the padding behind
the payload. If these are zero, nothing is left in which the page can differ from that of the
record.
-/

namespace HomeHub

/-! ### Words -/

namespace Crc32

variable {a b c d : UInt8}

lemma bitAt_word {i : Nat} (hi : i < 32) :
    bitAt [a, b, c, d] i = (Bytes.word a b c d).toBitVec.getLsbD i := by
  rw [← word_bits, getLsbD_word, getD_bits]
  simp [hi]

lemma bytes_of_word {a' b' c' d' : UInt8} (h : Bytes.word a b c d = Bytes.word a' b' c' d') :
    [a, b, c, d] = [a', b', c', d'] := by
  refine eq_of_bitAt rfl fun k => ?_
  rcases Nat.lt_or_ge k 32 with hk | hk
  · rw [bitAt_word hk, bitAt_word hk, h]
  · have hout (x y z w : UInt8) : bitAt [x, y, z, w] k = false := by
      rw [bitAt, List.getD_eq_default _ _ (by simp; omega)]
      simp
    rw [hout, hout]

lemma ofWord_word : Bytes.ofWord (Bytes.word a b c d) = [a, b, c, d] :=
  bytes_of_word (word_bytes _)

end Crc32

/-! ### Fields -/

lemma Flash.slice_add (image : Bytes) (offset m n : Nat) :
    slice image offset (m + n) = slice image offset m ++ slice image (offset + m) n := by
  rw [slice, slice, slice, List.take_add, List.drop_drop]

namespace Record

variable {p : Page} {r : Record}

lemma slice_eq_map (p : Page) {i n : Nat} (h : i + n ≤ Flash.pageSize) :
    Flash.slice p.bytes i n = (List.range n).map fun k => byteAt p (i + k) := by
  have hlen := p.length_bytes
  refine List.ext_getElem ?_ fun k hk _ => ?_
  · rw [Flash.length_slice (by omega), List.length_map, List.length_range]
  · rw [Flash.length_slice (by omega)] at hk
    simp only [Flash.slice, List.getElem_take, List.getElem_drop, List.getElem_map,
      List.getElem_range, byteAt]
    rw [List.getD_eq_getElem _ _ (by omega)]

lemma slice_word (p : Page) {i : Nat} (h : i + 4 ≤ Flash.pageSize) :
    Flash.slice p.bytes i 4 = Bytes.ofWord (wordAt p i) := by
  rw [slice_eq_map p h, wordAt, Crc32.ofWord_word]
  rfl

/-- The fields of a record, with what the reader passes over. -/
def fields (r : Record) (reserved : UInt8) (padding : Bytes) : Bytes :=
  magic ++ [version, reserved, UInt8.ofNat r.payload.length, UInt8.ofNat (r.payload.length / 256)]
    ++ r.payload ++ padding

/-- The padding of the page of a record. -/
def padding (p : Page) (r : Record) : Bytes :=
  Flash.slice p.bytes (headerLength + r.payload.length) (maxPayload - r.payload.length)

lemma take_eq_fields (h : Reads p r) :
    p.bytes.take checksumOffset = fields r (byteAt p 5) (padding p r) := by
  have hlen := r.length_le
  simp only [maxPayload, checksumOffset, headerLength] at hlen
  have hmagic : Flash.slice p.bytes 0 4 = magic := by
    rw [slice_word p (by decide), h.magic]
    rfl
  have hlow : byteAt p 6 = UInt8.ofNat r.payload.length := by
    rw [← h.length, statedLength]
    exact UInt8.toNat_inj.mp (by simp)
  have hhigh : byteAt p 7 = UInt8.ofNat (r.payload.length / 256) := by
    have hword := h.length
    have hb := (byteAt p 6).toNat_lt
    rw [statedLength] at hword
    exact UInt8.toNat_inj.mp (by simp; omega)
  have hheader : Flash.slice p.bytes 4 4 = [version, byteAt p 5, UInt8.ofNat r.payload.length,
      UInt8.ofNat (r.payload.length / 256)] := by
    rw [slice_eq_map p (by decide), ← h.version, ← hlow, ← hhigh]
    rfl
  have hpayload : Flash.slice p.bytes headerLength r.payload.length = r.payload := by
    rw [← h.length]
    exact h.payload
  calc p.bytes.take checksumOffset
      = Flash.slice p.bytes 0 (4 + (4 + (r.payload.length + (maxPayload - r.payload.length)))) := by
        rw [Flash.slice, List.drop_zero]
        congr 1
        simp only [maxPayload, checksumOffset, headerLength]
        omega
    _ = magic ++ ([version, byteAt p 5, UInt8.ofNat r.payload.length,
          UInt8.ofNat (r.payload.length / 256)] ++ (r.payload ++ padding p r)) := by
        rw [Flash.slice_add, Flash.slice_add, Flash.slice_add, hmagic, hheader]
        exact congrArg (fun payload => magic ++ (_ ++ (payload ++ padding p r))) hpayload
    _ = fields r (byteAt p 5) (padding p r) := by simp only [fields, List.append_assoc]

lemma bytes_eq_fields (h : Reads p r) : p.bytes =
    fields r (byteAt p 5) (padding p r) ++
      Bytes.ofWord (Crc32.checksum (fields r (byteAt p 5) (padding p r))) := by
  have hdrop : p.bytes.drop checksumOffset = Bytes.ofWord (wordAt p checksumOffset) := by
    rw [← slice_word p (by decide), Flash.slice, List.take_of_length_le]
    rw [List.length_drop, p.length_bytes]
    decide
  rw [← take_eq_fields h, ← h.checked, ← hdrop, List.take_append_drop]

/-! ### The result -/

/-- All bytes of a page from one place up to another are zero. -/
def Unused (p : Page) (first next : Nat) : Prop :=
  ∀ i, first ≤ i → i < next → byteAt p i = 0

lemma padding_eq_replicate_iff : padding p r = List.replicate (maxPayload - r.payload.length) 0 ↔
    Unused p (headerLength + r.payload.length) checksumOffset := by
  have hlen := r.length_le
  simp only [maxPayload, checksumOffset, headerLength] at hlen
  have hlast (k : Nat) : k < maxPayload - r.payload.length ↔
      headerLength + r.payload.length + k < checksumOffset := by
    simp only [maxPayload, checksumOffset, headerLength]
    omega
  have hfits : headerLength + r.payload.length + (maxPayload - r.payload.length) ≤
      Flash.pageSize := by
    simp only [maxPayload, checksumOffset, headerLength, Flash.pageSize]
    omega
  rw [padding, slice_eq_map p hfits, List.eq_replicate_iff]
  simp only [List.length_map, List.length_range, true_and, List.forall_mem_map, List.mem_range,
    hlast]
  constructor
  · intro h i hfirst hnext
    obtain ⟨k, rfl⟩ := Nat.exists_eq_add_of_le hfirst
    exact h k hnext
  · intro h k hk
    exact h _ (Nat.le_add_right ..) hk

lemma fields_inj {a b : UInt8} {xs ys : Bytes} :
    fields r a xs = fields r b ys ↔ a = b ∧ xs = ys := by
  simp [fields]

lemma unused_toPage (r : Record) : byteAt r.toPage 5 = 0 ∧
    Unused r.toPage (headerLength + r.payload.length) checksumOffset := by
  have hfields : fields r 0 (List.replicate (maxPayload - r.payload.length) 0) =
      fields r (byteAt r.toPage 5) (padding r.toPage r) :=
    (take_toPage r).symm.trans (take_eq_fields (reads_of_ofPage (ofPage_toPage r)))
  obtain ⟨hreserved, hpadding⟩ := fields_inj.mp hfields
  exact ⟨hreserved.symm, padding_eq_replicate_iff.mp hpadding.symm⟩

/-- **The page of a record is a faithful code.** It reads as that record and never looks erased, so
no two records have the same page. A page is the page of a record if it reads as that record and
nothing is written where nothing belongs. -/
theorem faithful_toPage : (∀ r, ofPage r.toPage = .ok r) ∧ Function.Injective toPage ∧
    (∀ r : Record, r.toPage.bytes ≠ List.replicate Flash.pageSize Flash.erased) ∧
    ∀ (r : Record) (p : Page), r.toPage = p ↔ ofPage p = .ok r ∧ byteAt p 5 = 0 ∧
      Unused p (headerLength + r.payload.length) checksumOffset := by
  refine ⟨ofPage_toPage, fun r s h => ?_, fun r h => ?_, fun r p => ⟨?_, ?_⟩⟩
  · have hread := ofPage_toPage r
    rw [h, ofPage_toPage s] at hread
    exact (Except.ok.inj hread).symm
  · obtain ⟨rest, hbytes⟩ := bytes_toPage r
    rw [hbytes] at h
    cases (List.cons.inj h).1
  · rintro rfl
    exact ⟨ofPage_toPage r, unused_toPage r⟩
  · rintro ⟨hread, hreserved, hunused⟩
    have hbytes := bytes_eq_fields (reads_of_ofPage hread)
    rw [hreserved, padding_eq_replicate_iff.mpr hunused] at hbytes
    cases p
    simp only at hbytes
    subst hbytes
    rfl

end Record

end HomeHub
