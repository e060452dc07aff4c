import HomeHub.Proofs.Bursts
import HomeHub.Proofs.FlashLaws
import HomeHub.Proofs.PageRoundTrip

/-!
A page that has been corrupted holds no record.

A page that reads as a record is checked: the checksum it states is that of the bytes before it. All
checked pages leave the same in the register, checksum included, so two of them do not differ by a
burst, wherever it lies.
-/

namespace HomeHub.Record

/-- The checksum that a page states is that of the bytes before it. -/
def Checked (p : Page) : Prop :=
  wordAt p checksumOffset = Crc32.checksum (p.bytes.take checksumOffset)

lemma checked_toPage (r : Record) : Checked r.toPage := by
  rw [Checked, checksum_toPage, take_toPage]

/-- The fields of a record, as a page that reads as that record has them. -/
structure Reads (p : Page) (r : Record) : Prop where
  magic : wordAt p 0 = magicWord
  version : byteAt p 4 = version
  length : statedLength p = r.payload.length
  payload : Flash.slice p.bytes headerLength (statedLength p) = r.payload
  checked : Checked p

lemma reads_of_ofPage {p : Page} {r : Record} (h : ofPage p = .ok r) : Reads p r := by
  unfold ofPage at h
  split at h
  · cases h
  split at h
  · cases h
  rename_i hmagic
  split at h
  · cases h
  rename_i hversion
  split at h
  · rename_i hlen
    simp only at h
    split at h
    · cases h
    rename_i hchecked
    obtain rfl := Except.ok.inj h
    have hfits : headerLength + statedLength p ≤ p.bytes.length := by
      rw [p.length_bytes]
      simp only [maxPayload, checksumOffset, headerLength, Flash.pageSize] at hlen ⊢
      omega
    exact ⟨not_not.mp hmagic, not_not.mp hversion, (Flash.length_slice hfits).symm, rfl,
      not_not.mp hchecked⟩
  · cases h

lemma checked_of_ofPage {p : Page} {r : Record} (h : ofPage p = .ok r) : Checked p :=
  (reads_of_ofPage h).checked

lemma bytes_split (p : Page) : ∃ a b c d,
    p.bytes = p.bytes.take checksumOffset ++ [a, b, c, d] ∧
      wordAt p checksumOffset = Bytes.word a b c d := by
  have hfour : (p.bytes.drop checksumOffset).length = 4 := by
    rw [List.length_drop, p.length_bytes]
    rfl
  have hget (i : Nat) : byteAt p (checksumOffset + i) =
      (p.bytes.drop checksumOffset).getD i 0 := by
    simp [byteAt, List.getD]
  have h0 := hget 0
  rw [Nat.add_zero] at h0
  rcases hrest : p.bytes.drop checksumOffset with
    _ | ⟨a, _ | ⟨b, _ | ⟨c, _ | ⟨d, _ | ⟨e, rest⟩⟩⟩⟩⟩ <;> simp [hrest] at hfour
  refine ⟨a, b, c, d, ?_, ?_⟩
  · rw [← hrest, List.take_append_drop]
  · rw [wordAt, h0, hget 1, hget 2, hget 3, hrest]
    rfl

/-- With its checksum behind it, whatever was checked leaves the same in the register. -/
lemma register_of_checked {p : Page} (h : Checked p) :
    Crc32.register p.bytes = Crc32.shift^[32] 0xFFFFFFFF := by
  obtain ⟨a, b, c, d, hbytes, hword⟩ := bytes_split p
  set front := p.bytes.take checksumOffset
  have hlen : (Crc32.bits [a, b, c, d]).length = 32 := Crc32.length_bits _
  calc Crc32.register p.bytes
      = Crc32.feed (Crc32.register front) (Crc32.bits [a, b, c, d]) := by
        rw [hbytes, Crc32.register, List.foldl_append, Crc32.foldl_byte]
        rfl
    _ = Crc32.shift^[32] (Crc32.register front ^^^ ~~~Crc32.register front) := by
        rw [Crc32.feed_eq (by omega), hlen, Crc32.word_bits, ← hword, h, Crc32.checksum]
    _ = Crc32.shift^[32] 0xFFFFFFFF := by rw [Crc32.xor_not]

/-- **Corrupted pages are detected.** A page that differs from that of a record, but only within 32
consecutive bits, is refused. -/
theorem ofPage_of_burst (r : Record) (p : Page) (w : Nat) (hne : p ≠ r.toPage)
    (hburst : ∀ k, Crc32.bitAt p.bytes k ≠ Crc32.bitAt r.toPage.bytes k → w ≤ k ∧ k < w + 32) :
    ∃ why, ofPage p = .error why := by
  cases h : ofPage p with
  | error why => exact ⟨why, rfl⟩
  | ok s =>
    have hregister : Crc32.register p.bytes = Crc32.register r.toPage.bytes := by
      rw [register_of_checked (checked_of_ofPage h), register_of_checked (checked_toPage r)]
    have hlen : p.bytes.length = r.toPage.bytes.length := by
      rw [p.length_bytes, r.toPage.length_bytes]
    have hbytes := Crc32.eq_of_register hlen hburst hregister
    refine absurd ?_ hne
    cases p
    simp only at hbytes
    subst hbytes
    rfl

/-- The page of the empty record with the highest bit of its padding and the lowest of its checksum
turned over. -/
def straddled : Page where
  bytes := (empty.toPage.bytes.modify 251 (· ^^^ 0x80)).modify 252 (· ^^^ 0x01)
  length_bytes := by simp [empty.toPage.length_bytes]

theorem ofPage_of_burst_straddled : straddled ≠ empty.toPage ∧
    (∀ k, Crc32.bitAt straddled.bytes k ≠ Crc32.bitAt empty.toPage.bytes k →
      2000 ≤ k ∧ k < 2032) ∧
    ∃ why, ofPage straddled = .error why := by
  have hne : straddled ≠ empty.toPage := by
    intro h
    have hbyte := congrArg (byteAt · 251) h
    revert hbyte
    decide +kernel
  have hburst : ∀ k, Crc32.bitAt straddled.bytes k ≠ Crc32.bitAt empty.toPage.bytes k →
      2000 ≤ k ∧ k < 2032 := by
    intro k hk
    by_contra hout
    -- outside of the two bytes nothing is turned over
    have h1 : 251 ≠ k / 8 := by omega
    have h2 : 252 ≠ k / 8 := by omega
    refine hk ?_
    simp [Crc32.bitAt, straddled, List.getD, h1, h2]
  exact ⟨hne, hburst, ofPage_of_burst empty straddled 2000 hne hburst⟩

end HomeHub.Record
