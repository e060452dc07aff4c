import Mathlib.Data.List.Basic
import Mathlib.Data.List.Induction
import Mathlib.Data.Nat.Digits.Defs
import HomeHub.Proofs.HeaderLaws

/-!
Headers as texts. What stands before the first semicolon of a frame is the decimal numeral of the
length of its payload, and a span is read as a length just if it is such a numeral, of up to ten
digits and with any number of zeros in front.
-/

namespace HomeHub

lemma Decimal.ofDigits_eq (ds : List Nat) : ofDigits ds = Nat.ofDigits 10 ds.reverse := by
  induction ds using List.reverseRecOn with
  | nil => rfl
  | append_singleton ds d ih =>
    have hsnoc : ofDigits (ds ++ [d]) = ofDigits ds * 10 + d := by
      rw [ofDigits, List.foldl_append]
      rfl
    rw [hsnoc, ih, List.reverse_append, List.reverse_singleton, List.singleton_append,
      Nat.ofDigits_cons]
    omega

namespace Frame

variable {header : Bytes} {n : Nat}

/-- The values of a row of ASCII digits. -/
def values (header : Bytes) : List Nat := header.map fun b => b.toNat - '0'.toNat

/-- A row of one to ten ASCII digits, and the number that it is in decimal. -/
structure Spells (header : Bytes) (n : Nat) : Prop where
  nonempty : 1 ≤ header.length
  short : header.length ≤ 10
  digits : ∀ b ∈ header, '0'.toNat ≤ b.toNat ∧ b.toNat ≤ '9'.toNat
  value : Nat.ofDigits 10 (values header).reverse = n

lemma isDigit_iff {b : UInt8} : isDigit b = true ↔ '0'.toNat ≤ b.toNat ∧ b.toNat ≤ '9'.toNat := by
  simp only [isDigit, Bool.and_eq_true, decide_eq_true_eq, UInt8.le_iff_toNat_le]
  rfl

lemma parseLength_eq_some_iff : parseLength header = some n ↔ Spells header n := by
  have hvalue : Decimal.ofDigits (header.map fun b => b.toNat - 48) =
      Nat.ofDigits 10 (values header).reverse := Decimal.ofDigits_eq _
  have hall : header.all isDigit = true ↔
      ∀ b ∈ header, '0'.toNat ≤ b.toNat ∧ b.toNat ≤ '9'.toNat := by
    simp only [List.all_eq_true, isDigit_iff]
  constructor
  · intro h
    rw [parseLength] at h
    split at h
    · cases h
    · rename_i hcond
      simp only [Bool.or_eq_true, not_or, decide_eq_true_eq, Nat.not_lt, Bool.not_eq_true,
        Bool.not_eq_false', List.isEmpty_eq_false_iff] at hcond
      obtain ⟨⟨hne, hshort⟩, hdigits⟩ := hcond
      exact ⟨List.length_pos_iff.mpr hne, hshort, hall.mp hdigits,
        hvalue.symm.trans (Option.some.inj h)⟩
  · rintro ⟨hpos, hshort, hdigits, rfl⟩
    have hne : header.isEmpty = false := by
      rw [List.isEmpty_eq_false_iff]
      exact List.ne_nil_of_length_pos hpos
    have hlong : decide (maxHeaderDigits < header.length) = false :=
      decide_eq_false (Nat.not_lt.mpr hshort)
    rw [parseLength, hne, hlong, hall.mpr hdigits, hvalue]
    rfl

lemma Spells.lt (h : Spells header n) : n < 2 ^ 64 := by
  have hdigits : ∀ d ∈ (values header).reverse, d < 10 := by
    intro d hd
    obtain ⟨b, hb, rfl⟩ := List.mem_map.mp (List.mem_reverse.mp hd)
    have hle : b.toNat ≤ 57 := (h.digits b hb).2
    show b.toNat - 48 < 10
    omega
  have hlength : (values header).reverse.length ≤ 10 := by
    rw [List.length_reverse, values, List.length_map]
    exact h.short
  calc n
      = Nat.ofDigits 10 (values header).reverse := h.value.symm
    _ < 10 ^ (values header).reverse.length :=
        Nat.ofDigits_lt_base_pow_length (by decide) hdigits
    _ ≤ 10 ^ 10 := Nat.pow_le_pow_right (by decide) hlength
    _ < 2 ^ 64 := by decide

/-- What the header of a frame says of its payload. -/
structure Announces (payload : Bytes) : Prop where
  length : (encode payload).length = frameLength payload.length
  /-- The first semicolon ends the header. -/
  first : (encode payload).idxOf? delimiter = some (headerLength payload.length - 1)
  read : parseLength ((encode payload).take (headerLength payload.length - 1)) =
    if payload.length < 10 ^ 10 then some payload.length else none

lemma announces (payload : Bytes) : Announces payload := by
  set header := numeral (Decimal.digits payload.length) with hheader
  have hdigits : ∀ d ∈ Decimal.digits payload.length, d < 10 := fun _ => Decimal.lt_of_mem_digits
  have hend : header.length = headerLength payload.length - 1 := by
    rw [hheader, length_numeral, length_digits]
    rfl
  have hframe : encode payload = header ++ delimiter :: payload := encode_eq payload
  refine ⟨length_encode payload, ?_, ?_⟩
  · have hfirst : (header ++ delimiter :: payload).idxOf delimiter = header.length := by
      rw [List.idxOf_append_of_notMem (delimiter_notMem_numeral hdigits), List.idxOf_cons_self]
      rfl
    rw [hframe, ← hend]
    exact List.findIdx?_eq_some_iff_findIdx_eq.mpr ⟨by simp, hfirst⟩
  · rw [hframe, ← hend, List.take_left]
    by_cases hlt : payload.length < 10 ^ 10
    · rw [if_pos hlt, hheader, parseLength_numeral hdigits (Decimal.length_digits_pos _)
        (Decimal.length_digits_le (by decide) hlt), Decimal.ofDigits_digits]
    · have hlong : 10 < header.length := by
        rw [hheader, length_numeral]
        exact Decimal.lt_length_digits (Nat.le_of_not_lt hlt)
      rw [if_neg hlt, Option.eq_none_iff_forall_ne_some]
      intro n hn
      exact absurd (parseLength_eq_some_iff.mp hn).short (Nat.not_le.mpr hlong)

/-- **Headers and lengths agree.** In front of any payload stands its length, which is read back as
far as it has at most ten digits; and no other span is read as a length than a numeral of up to ten
digits, as the number it is, which always fits into a word. -/
theorem headers_agree (payload header : Bytes) (n : Nat) :
    Announces payload ∧ (parseLength header = some n ↔ Spells header n) ∧
      (Spells header n → n < 2 ^ 64) :=
  ⟨announces payload, parseLength_eq_some_iff, Spells.lt⟩

end Frame

end HomeHub
