import HomeHub.Proofs.DecimalLaws
import HomeHub.Protocol.Frame

/-!
The header of a frame: what is written in front of a payload is read back as its length, as is every
other numeral of up to ten digits.
-/

namespace HomeHub.Frame

/-- A row of digits as it is written in a header, leading zeros included. -/
def numeral (ds : List Nat) : Bytes := ds.map fun d => UInt8.ofNat (48 + d)

lemma encode_eq (payload : Bytes) :
    encode payload = numeral (Decimal.digits payload.length) ++ delimiter :: payload := rfl

lemma toNat_digit {d : Nat} (h : d < 10) : (UInt8.ofNat (48 + d)).toNat = 48 + d := by
  rw [UInt8.toNat_ofNat']
  omega

@[simp] lemma length_numeral (ds : List Nat) : (numeral ds).length = ds.length := List.length_map _

variable {ds : List Nat} (hds : ∀ d ∈ ds, d < 10)

include hds

lemma isDigit_of_mem_numeral {b : UInt8} (h : b ∈ numeral ds) : isDigit b = true := by
  obtain ⟨d, hd, rfl⟩ := List.mem_map.mp h
  have hlt := hds d hd
  have hval := toNat_digit hlt
  simp only [isDigit, Bool.and_eq_true, decide_eq_true_eq, UInt8.le_iff_toNat_le, hval]
  exact ⟨Nat.le_add_right 48 d, by show 48 + d ≤ 57; omega⟩

lemma delimiter_notMem_numeral : delimiter ∉ numeral ds := by
  intro h
  have := isDigit_of_mem_numeral hds h
  revert this
  decide

lemma values_numeral : (numeral ds).map (fun b => b.toNat - 48) = ds := by
  rw [numeral, List.map_map, List.map_congr_left (g := id), List.map_id]
  intro d hd
  rw [Function.comp_apply, toNat_digit (hds d hd), Nat.add_sub_cancel_left]
  rfl

/-- A numeral of up to ten digits is read as its number. -/
theorem parseLength_numeral (hpos : 0 < ds.length) (hlen : ds.length ≤ 10) :
    parseLength (numeral ds) = some (Decimal.ofDigits ds) := by
  have hne : (numeral ds).isEmpty = false := by
    rw [List.isEmpty_eq_false_iff, ← List.length_pos_iff, length_numeral]
    exact hpos
  have hall : (numeral ds).all isDigit = true :=
    List.all_eq_true.mpr fun b hb => isDigit_of_mem_numeral hds hb
  have hshort : decide (maxHeaderDigits < (numeral ds).length) = false := by
    rw [length_numeral, maxHeaderDigits, decide_eq_false_iff_not]
    omega
  rw [parseLength, hne, hall, hshort, values_numeral hds]
  rfl

omit hds

lemma length_digits (n : Nat) : (Decimal.digits n).length = decimalDigits n := by
  fun_induction Decimal.digits n with
  | case1 n hn =>
    rw [decimalDigits, if_pos hn]
    rfl
  | case2 n hn ih =>
    rw [decimalDigits, if_neg hn, ← ih, List.length_append]
    rfl

lemma length_encode (payload : Bytes) : (encode payload).length = frameLength payload.length := by
  rw [encode_eq, List.length_append, length_numeral, length_digits, frameLength, headerLength,
    List.length_cons]
  omega

end HomeHub.Frame
