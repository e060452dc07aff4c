import Mathlib.Tactic.ByContra
import Mathlib.Tactic.Lemma
import Mathlib.Tactic.SplitIfs
import HomeHub.Proofs.Checks
import HomeHub.Text.Blank
import HomeHub.Text.Hex
import HomeHub.Text.Utf8

/-!
Hexadecimal texts. A text is read just if it is a row of pairs of digits, in either case, and then
as the bytes that these spell; a character that takes more than one byte is in no such text. What
is written, and what is put in lower case, is read as before.
-/

namespace HomeHub.Hex

/-- The digits as they are written, by their values. -/
def lowerDigits : List Char :=
  ['0', '1', '2', '3', '4', '5', '6', '7', '8', '9', 'a', 'b', 'c', 'd', 'e', 'f']

/-- The value of a digit, in upper or in lower case. -/
def value? (c : Char) : Option Nat := lowerDigits.idxOf? c.toLower

/-- A row of pairs of digits, and the bytes that they spell. -/
inductive Spells : List Char → Bytes → Prop
  | nil : Spells [] []
  | cons {hi lo : Char} {h l : Nat} {cs : List Char} {bs : Bytes} :
      value? hi = some h → value? lo = some l → Spells cs bs →
        Spells (hi :: lo :: cs) (UInt8.ofNat (16 * h + l) :: bs)

variable {c : Char} {cs : List Char} {bs text : Bytes} {n i : Nat}

/-! ### Digits -/

lemma ascii_laws (hc : c.toNat < 128) :
    digit? (UInt8.ofNat c.toNat) = value? c ∧ value? c.toLower = value? c ∧
      ((value? c).isSome = true → Text.isBlank c = false) := by
  have hall : ∀ n < 128, digit? (UInt8.ofNat (Char.ofNat n).toNat) = value? (Char.ofNat n) ∧
      value? (Char.ofNat n).toLower = value? (Char.ofNat n) ∧
      ((value? (Char.ofNat n)).isSome = true → Text.isBlank (Char.ofNat n) = false) := by
    decide +kernel
  have h := hall c.toNat hc
  rwa [Char.ofNat_toNat] at h

lemma mem_lowerDigits_of_value? (h : value? c = some n) : c.toLower ∈ lowerDigits := by
  by_contra hnone
  rw [value?, List.idxOf?_eq_none_iff.mpr hnone] at h
  cases h

lemma lt_of_value? (h : value? c = some n) : c.toNat < 128 := by
  have hall : ∀ d ∈ lowerDigits, d.toNat < 128 := by simp [lowerDigits]
  have hlower := hall _ (mem_lowerDigits_of_value? h)
  unfold Char.toLower at hlower
  split at hlower
  · rename_i hupper
    have hle : c.toNat ≤ 90 := hupper.2
    omega
  · exact hlower

lemma digit?_ofNat (hc : c.toNat < 128) : digit? (UInt8.ofNat c.toNat) = value? c :=
  (ascii_laws hc).1

lemma value?_toLower (h : value? c = some n) : value? c.toLower = some n :=
  (ascii_laws (lt_of_value? h)).2.1.trans h

lemma not_isBlank (h : value? c = some n) : Text.isBlank c = false :=
  (ascii_laws (lt_of_value? h)).2.2 (by rw [h, Option.isSome_some])

lemma digitChar_laws (h : n < 16) : value? (digitChar n) = some n ∧ digitChar n ∈ lowerDigits := by
  have hall : ∀ n < 16, value? (digitChar n) = some n ∧ digitChar n ∈ lowerDigits := by
    decide +kernel
  exact hall n h

/-! ### Texts -/

lemma digitAt_eq_ok {b : UInt8} : digitAt b i = .ok n ↔ digit? b = some n := by
  rcases h : digit? b with _ | d <;> simp [digitAt, h]

lemma pairs_eq_ok {hi lo : UInt8} : pairs (hi :: lo :: text) i = .ok bs ↔
    ∃ h, digit? hi = some h ∧ ∃ l, digit? lo = some l ∧
      ∃ rest, pairs text (i + 2) = .ok rest ∧ UInt8.ofNat (16 * h + l) :: rest = bs := by
  simp only [pairs, bind_eq_ok, digitAt_eq_ok, pure, Except.pure, Except.ok.injEq]

lemma digit?_of_pairs : ∀ {text bs : Bytes} {i : Nat}, text.length % 2 = 0 →
    pairs text i = .ok bs → ∀ b ∈ text, digit? b ≠ none
  | [], _, _, _, _ => nofun
  | [_], _, _, hodd, _ => by simp at hodd
  | hi :: lo :: text, bs, i, heven, h => by
    obtain ⟨d, hhi, e, hlo, rest, hrest, -⟩ := pairs_eq_ok.mp h
    rw [List.forall_mem_cons, List.forall_mem_cons, hhi, hlo]
    have heven' : text.length % 2 = 0 := by
      simp only [List.length_cons] at heven
      omega
    exact ⟨nofun, nofun, digit?_of_pairs heven' hrest⟩

lemma encode_of_ascii (h : ∀ c ∈ cs, c.toNat < 128) :
    Utf8.encode cs = cs.map fun c => UInt8.ofNat c.toNat := by
  induction cs with
  | nil => rfl
  | cons c cs ih =>
    rw [List.forall_mem_cons] at h
    rw [Utf8.encode, List.flatMap_cons, ← Utf8.encode, ih h.2, Utf8.encodeChar, if_pos h.1]
    rfl

/-- A character that takes several bytes ends in one that is no digit. -/
lemma lt_of_digits (h : ∀ b ∈ Utf8.encode cs, digit? b ≠ none) (hc : c ∈ cs) :
    c.toNat < 128 := by
  by_contra hwide
  have hlast : UInt8.ofNat (0x80 + c.toNat % 64) ∈ Utf8.encodeChar c := by
    unfold Utf8.encodeChar
    dsimp only
    split_ifs <;> simp
  refine h _ (List.mem_flatMap.mpr ⟨c, hc, hlast⟩) ?_
  have hval : (UInt8.ofNat (0x80 + c.toNat % 64)).toNat = 0x80 + c.toNat % 64 := by
    rw [UInt8.toNat_ofNat']
    omega
  simp only [digit?, hval]
  rw [if_neg (by omega), if_neg (by omega), if_neg (by omega)]

lemma pairs_of_ascii : ∀ {cs : List Char} {bs : Bytes} {i : Nat}, (∀ c ∈ cs, c.toNat < 128) →
    cs.length % 2 = 0 → (pairs (cs.map fun c => UInt8.ofNat c.toNat) i = .ok bs ↔ Spells cs bs)
  | [], bs, i, _, _ => by
    constructor
    · intro h
      obtain rfl : [] = bs := Except.ok.inj h
      exact .nil
    · rintro ⟨⟩
      rfl
  | [_], _, _, _, hodd => by simp at hodd
  | hi :: lo :: cs, bs, i, hascii, heven => by
    have heven' : cs.length % 2 = 0 := by
      simp only [List.length_cons] at heven
      omega
    obtain ⟨hhi, hlo, hcs⟩ : hi.toNat < 128 ∧ lo.toNat < 128 ∧ ∀ c ∈ cs, c.toNat < 128 := by
      simpa using hascii
    rw [List.map_cons, List.map_cons, pairs_eq_ok, digit?_ofNat hhi, digit?_ofNat hlo]
    constructor
    · rintro ⟨h, hh, l, hl, rest, hrest, rfl⟩
      exact .cons hh hl ((pairs_of_ascii hcs heven').mp hrest)
    · rintro (_ | ⟨hh, hl, hrest⟩)
      exact ⟨_, hh, _, hl, _, (pairs_of_ascii hcs heven').mpr hrest, rfl⟩

namespace Spells

lemma length_even (h : Spells cs bs) : cs.length = 2 * bs.length := by
  induction h with
  | nil => rfl
  | cons _ _ _ ih =>
    simp only [List.length_cons, ih]
    omega

lemma exists_value (h : Spells cs bs) (hc : c ∈ cs) : ∃ n, value? c = some n := by
  induction h with
  | nil => cases hc
  | cons hh hl _ ih =>
    rcases List.mem_cons.mp hc with rfl | hc
    · exact ⟨_, hh⟩
    · rcases List.mem_cons.mp hc with rfl | hc
      · exact ⟨_, hl⟩
      · exact ih hc

lemma toLower (h : Spells cs bs) : Spells (cs.map Char.toLower) bs := by
  induction h with
  | nil => exact .nil
  | cons hh hl _ ih => exact .cons (value?_toLower hh) (value?_toLower hl) ih

end Spells

/-- A text is read just if it is a row of pairs of digits, as what they spell. -/
theorem decode_eq_ok_iff {s : String} :
    decode (Utf8.ofString s) = .ok bs ↔ Spells s.toList bs := by
  unfold decode Utf8.ofString
  constructor
  · intro h
    split at h
    · cases h
    · rename_i heven
      have heven' : (Utf8.encode s.toList).length % 2 = 0 := by omega
      have hascii (c : Char) (hc : c ∈ s.toList) : c.toNat < 128 :=
        lt_of_digits (digit?_of_pairs heven' h) hc
      rw [encode_of_ascii hascii] at h heven'
      rw [List.length_map] at heven'
      exact (pairs_of_ascii hascii heven').mp h
  · intro h
    have hascii (c : Char) (hc : c ∈ s.toList) : c.toNat < 128 :=
      (h.exists_value hc).elim fun _ => lt_of_value?
    have hlength := h.length_even
    rw [encode_of_ascii hascii, List.length_map, if_neg (by omega)]
    exact (pairs_of_ascii hascii (by omega)).mpr h

/-! ### What is written -/

lemma toList_encode (bs : Bytes) : (encode bs).toList =
    bs.flatMap fun b => [digitChar (b.toNat / 16), digitChar (b.toNat % 16)] :=
  String.toList_ofList

lemma spells_encode (bs : Bytes) : Spells (encode bs).toList bs := by
  rw [toList_encode]
  induction bs with
  | nil => exact .nil
  | cons b bs ih =>
    have hb : b.toNat < 256 := b.toNat_lt
    have hbyte : UInt8.ofNat (16 * (b.toNat / 16) + b.toNat % 16) = b := by
      rw [Nat.div_add_mod, UInt8.ofNat_toNat]
    have h := Spells.cons (digitChar_laws (show b.toNat / 16 < 16 by omega)).1
      (digitChar_laws (show b.toNat % 16 < 16 by omega)).1 ih
    rwa [hbyte] at h

lemma mem_lowerDigits_of_encode (hc : c ∈ (encode bs).toList) : c ∈ lowerDigits := by
  rw [toList_encode, List.mem_flatMap] at hc
  obtain ⟨b, -, hc⟩ := hc
  have hb : b.toNat < 256 := b.toNat_lt
  rw [List.mem_cons, List.mem_singleton] at hc
  rcases hc with rfl | rfl <;> exact (digitChar_laws (by omega)).2

end HomeHub.Hex
