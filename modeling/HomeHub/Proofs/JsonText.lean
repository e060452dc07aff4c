import HomeHub.Json.Printer
import HomeHub.Json.Skim
import HomeHub.Proofs.DecimalLaws
import HomeHub.Proofs.JsonReading
import HomeHub.Proofs.Utf8Laws

/-!
Reading back JSON text as it is printed: string literals and integers. A text in ASCII is the same
text byte by byte.
-/

namespace HomeHub

/-! ### ASCII -/

def IsAscii (cs : List Char) : Prop := ∀ c ∈ cs, c.toNat < 0x80

instance (cs : List Char) : Decidable (IsAscii cs) := List.decidableBAll _ cs

lemma isAscii_append {cs ds : List Char} : IsAscii (cs ++ ds) ↔ IsAscii cs ∧ IsAscii ds :=
  List.forall_mem_append

namespace Utf8

lemma encode_ascii {cs : List Char} (h : IsAscii cs) :
    encode cs = cs.map fun c => UInt8.ofNat c.toNat := by
  induction cs with
  | nil => rfl
  | cons c cs ih =>
    obtain ⟨hc, hcs⟩ := List.forall_mem_cons.mp h
    rw [List.map_cons, ← ih hcs]
    simp [encode, encodeChar, hc]

end Utf8

namespace Json

lemma latin1_encode {cs : List Char} (h : IsAscii cs) : latin1 (Utf8.encode cs) = cs := by
  rw [Utf8.encode_ascii h]
  induction cs with
  | nil => rfl
  | cons c cs ih =>
    obtain ⟨hc, hcs⟩ := List.forall_mem_cons.mp h
    have hrest := ih hcs
    rw [latin1] at hrest ⊢
    rw [List.map_cons, List.map_cons, hrest, Utf8.toNat_byte (by omega), Char.ofNat_toNat]

/-! ### String literals -/

lemma hexDigit?_digitChar {n : Nat} (h : n < 16) : Reader.hexDigit? (Hex.digitChar n) = some n := by
  revert n
  decide

lemma readUnicode_control {c : Char} (h : c.toNat < 0x20) (rest : List Char) :
    readUnicode ('0' :: '0' :: Hex.digitChar (c.toNat / 16) :: Hex.digitChar (c.toNat % 16) ::
      rest) = some (c, rest) := by
  have hzero : Reader.hexDigit? '0' = some 0 := by decide
  have hhigh := hexDigit?_digitChar (n := c.toNat / 16) (by omega)
  have hlow := hexDigit?_digitChar (n := c.toNat % 16) (by omega)
  have hcode : c.toNat / 16 * 16 + c.toNat % 16 = c.toNat := by omega
  simp only [readUnicode, Reader.hex, hzero, hhigh, hlow, Option.bind_eq_bind, Option.bind_some,
    Nat.zero_mul, Nat.zero_add, hcode]
  rw [if_neg (by omega), if_neg (by omega), Char.ofNat_toNat]
  rfl

lemma readStringTail_escapeChar (acc : List Char) (c : Char) (rest : List Char) :
    readStringTail acc (escapeChar c ++ rest) = readStringTail (c :: acc) rest := by
  have hcode {n : Nat} (h : c.toNat = n) : Char.ofNat n = c := by rw [← h, Char.ofNat_toNat]
  unfold escapeChar
  split
  · subst c
    exact readStringTail_escape acc (by simp [readEscape])
  split
  · subst c
    exact readStringTail_escape acc (by simp [readEscape])
  split
  · rename_i h
    exact readStringTail_escape acc (by simp [readEscape, ← hcode h])
  split
  · rename_i h
    exact readStringTail_escape acc (by simp [readEscape, ← hcode h])
  split
  · rename_i h
    exact readStringTail_escape acc (by simp [readEscape, ← hcode h])
  split
  · rename_i h
    exact readStringTail_escape acc (by simp [readEscape, ← hcode h])
  split
  · rename_i h
    exact readStringTail_escape acc (by simp [readEscape, ← hcode h])
  split
  · rename_i h
    refine readStringTail_escape acc ?_
    simpa [readEscape] using readUnicode_control h rest
  · rename_i hquote hslash _ _ _ _ _ hcontrol
    rw [List.singleton_append, readStringTail, if_neg hquote, if_neg hslash, if_neg hcontrol]

lemma readStringTail_flatMap (acc cs rest : List Char) :
    readStringTail acc (cs.flatMap escapeChar ++ '"' :: rest) =
      some (String.ofList (acc.reverse ++ cs), rest) := by
  induction cs generalizing acc with
  | nil =>
    rw [List.flatMap_nil, List.nil_append, readStringTail]
    simp
  | cons c cs ih =>
    rw [List.flatMap_cons, List.append_assoc, readStringTail_escapeChar, ih]
    simp

/-- **A string is read back from its literal.** -/
theorem readString_stringChars (s : String) (rest : List Char) :
    readString (stringChars s ++ rest) = some (s, rest) := by
  have h := readStringTail_flatMap [] s.toList rest
  simpa [stringChars, readString, String.ofList_toList] using h

lemma skipSpace_stringChars (s : String) (rest : List Char) :
    skipSpace (stringChars s ++ rest) = stringChars s ++ rest :=
  skipSpace_of_not_isSpace (by decide) _

/-- A key in ASCII is read back from its literal. -/
theorem readKey_stringChars {key : String} (h : IsAscii (stringChars key)) (rest : List Char) :
    readKey (stringChars key ++ rest) = some (key, rest) := by
  have htake : (stringChars key ++ rest).take ((stringChars key ++ rest).length - rest.length) =
      stringChars key := by
    rw [List.length_append, Nat.add_sub_cancel, List.take_left]
  rw [readKey, readString_stringChars]
  simp only [Option.bind_eq_bind, Option.bind_some, htake, ← Utf8.encode_ascii h,
    Utf8.decode?_encode]
  rfl

/-! ### Numbers -/

open Decimal (digits digitChar ofDigits)

lemma spanDigits_map {ds : List Nat} {t : List Char} (hds : ∀ d ∈ ds, d < 10)
    (ht : ∀ c, t.head? = some c → Decimal.digit? c = none) :
    spanDigits (ds.map digitChar ++ t) = (ds, t) := by
  induction ds with
  | nil => exact spanDigits_eq_nil ht
  | cons d ds ih =>
    rw [List.forall_mem_cons] at hds
    simp [spanDigits, Decimal.digit?_digitChar hds.1, ih hds.2]

lemma foldl_whole (ds : List Nat) (n : Nat) (e : Int)
    (h : ds.foldl (fun n d => n * 10 + d) n < 2 ^ 64) :
    ds.foldl Scaled.whole ⟨n, e, false⟩ =
      ⟨ds.foldl (fun n d => n * 10 + d) n, e, false⟩ := by
  induction ds generalizing n with
  | nil => rfl
  | cons d ds ih =>
    have hle := Decimal.le_foldl ds (n * 10 + d)
    have hstep : Scaled.whole ⟨n, e, false⟩ d = ⟨n * 10 + d, e, false⟩ :=
      if_neg (by simpa using Nat.lt_of_le_of_lt hle h)
    rw [List.foldl_cons, List.foldl_cons, hstep]
    exact ih _ h

lemma wholePart_chars (n : Nat) : wholePart (Decimal.chars n) = some (digits n, []) := by
  have hspan : spanDigits (Decimal.chars n) = (digits n, []) := by
    have hall : spanDigits ((digits n).map digitChar ++ []) = (digits n, []) :=
      spanDigits_map (fun _ => Decimal.lt_of_mem_digits) fun _ hc => nomatch hc
    rwa [List.append_nil] at hall
  have hne : digits n ≠ [] := List.ne_nil_of_length_pos (Decimal.length_digits_pos n)
  have hzero : ∀ d ds, digits n ≠ 0 :: d :: ds := by
    intro d ds h
    rcases Nat.eq_zero_or_pos n with rfl | hn
    · rw [Decimal.digits, if_pos (by decide)] at h
      cases h
    · have := Decimal.head?_digits_ne hn
      rw [h] at this
      exact this rfl
  rw [wholePart, hspan]
  split
  · rename_i h
    exact absurd (Prod.mk.inj h).1 hne
  · rename_i h
    exact absurd (Prod.mk.inj h).1 (hzero _ _)
  · rename_i h
    rw [h]

lemma unsigned_chars (negative : Bool) (n : Nat) :
    unsigned negative (Decimal.chars n) = some (⟨negative, digits n, none, none⟩, []) := by
  simp [unsigned, wholePart_chars, fractionPart, exponentPart]

lemma scaled_digits (negative : Bool) {n : Nat} (h : n < 2 ^ 64) :
    (⟨negative, digits n, none, none⟩ : Numeral).scaled = ⟨n, 0, false⟩ := by
  have hdigits : (digits n).foldl (fun n d => n * 10 + d) 0 = n := Decimal.ofDigits_digits n
  rw [Numeral.scaled, foldl_whole _ _ _ (by rwa [hdigits]), hdigits]

lemma numeral_chars (n : Nat) :
    numeral (Decimal.chars n) = some (⟨false, digits n, none, none⟩, []) := by
  obtain ⟨d, ds, hds⟩ :=
    List.exists_cons_of_ne_nil (List.ne_nil_of_length_pos (Decimal.length_digits_pos n))
  have hd : d < 10 := Decimal.lt_of_mem_digits (hds ▸ List.mem_cons_self ..)
  have hchars : Decimal.chars n = digitChar d :: ds.map digitChar := by
    rw [Decimal.chars, hds, List.map_cons]
  rw [hchars, numeral_of_ne (Decimal.digitChar_ne_minus hd), ← hchars, unsigned_chars]

/-- **An integer is read back from its numeral.** -/
theorem readNumber_natural (n : UInt64) :
    readNumber (Number.natural n).chars = some (.natural n, []) := by
  rw [Number.chars, readNumber, numeral_chars]
  simp [Numeral.value, scaled_digits false n.toNat_lt]

/-- So is one below zero. -/
theorem readNumber_negative (n : Fin (Nat.pow 2 63)) :
    readNumber (Number.negative n).chars = some (.negative n, []) := by
  have hlt : n.val < 2 ^ 63 := n.isLt
  have hscaled := scaled_digits true (show n.val + 1 < 2 ^ 64 by omega)
  have hrange : 0 < n.val + 1 ∧ n.val + 1 ≤ Nat.pow 2 63 := ⟨Nat.succ_pos _, n.isLt⟩
  rw [Number.chars, readNumber, numeral_minus, unsigned_chars]
  simp [Numeral.value, hscaled, hrange]

end Json

end HomeHub
