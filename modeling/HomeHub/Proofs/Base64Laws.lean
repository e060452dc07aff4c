import Mathlib.Tactic.Lemma
import HomeHub.Text.Base64
import HomeHub.Text.Utf8

/-!
What base64 text spells. Reading accepts exactly the canonical texts, and gives the bytes whose text
each of them is; so every byte string has one text, and no two have the same.
-/

namespace HomeHub.Base64

/-! ### Letters -/

/-- The letters, in the order of their values. -/
def alphabet : Bytes :=
  Utf8.ofString "ABCDEFGHIJKLMNOPQRSTUVWXYZabcdefghijklmnopqrstuvwxyz0123456789+/"

variable {b : UInt8} {v : Nat}

lemma value?_eq_some_iff : value? b = some v ↔ alphabet[v]? = some b := by
  have hread : ∀ n < 256, ∀ w ∈ value? (UInt8.ofNat n), alphabet[w]? = some (UInt8.ofNat n) := by
    decide +kernel
  have hwritten : ∀ w < 64, ∀ c ∈ alphabet[w]?, value? c = some w := by decide +kernel
  constructor
  · intro h
    have := hread b.toNat b.toNat_lt v
    rw [UInt8.ofNat_toNat] at this
    exact this h
  · intro h
    exact hwritten v (List.getElem?_eq_some_iff.mp h).1 b h

lemma getElem?_alphabet (h : v < 64) : alphabet[v]? = some (letter v) := by
  have hall : ∀ w < 64, alphabet[w]? = some (letter w) := by decide +kernel
  exact hall v h

lemma value?_letter (h : v < 64) : value? (letter v) = some v :=
  value?_eq_some_iff.mpr (getElem?_alphabet h)

lemma lt_of_value? (h : value? b = some v) : v < 64 :=
  (List.getElem?_eq_some_iff.mp (value?_eq_some_iff.mp h)).1

lemma letter_of_value? (h : value? b = some v) : letter v = b :=
  Option.some.inj ((getElem?_alphabet (lt_of_value? h)).symm.trans (value?_eq_some_iff.mp h))

lemma letter_ne_pad (h : v < 64) : letter v ≠ pad := by
  intro hpad
  have := value?_letter h
  rw [hpad] at this
  cases this

/-! ### Groups -/

section Groups

variable {a b c : UInt8} {v w x y : Nat}

lemma ofNat_eq {n : Nat} (h : n = a.toNat) : UInt8.ofNat n = a := by
  rw [h, UInt8.ofNat_toNat]

lemma full?_letters (a b c : UInt8) :
    full? (letter (a.toNat / 4)) (letter (a.toNat % 4 * 16 + b.toNat / 16))
      (letter (b.toNat % 16 * 4 + c.toNat / 64)) (letter (c.toNat % 64)) = some [a, b, c] := by
  have ha := a.toNat_lt
  have hb := b.toNat_lt
  have hc := c.toNat_lt
  simp only [full?, value?_letter (show a.toNat / 4 < 64 by omega),
    value?_letter (show a.toNat % 4 * 16 + b.toNat / 16 < 64 by omega),
    value?_letter (show b.toNat % 16 * 4 + c.toNat / 64 < 64 by omega),
    value?_letter (show c.toNat % 64 < 64 by omega), Option.bind_eq_bind, Option.bind_some]
  rw [ofNat_eq (a := a) (by omega), ofNat_eq (a := b) (by omega), ofNat_eq (a := c) (by omega)]
  rfl

lemma last?_one (a : UInt8) :
    last? (letter (a.toNat / 4)) (letter (a.toNat % 4 * 16)) pad pad = some [a] := by
  have ha := a.toNat_lt
  have hzero : a.toNat % 4 * 16 % 16 = 0 := by omega
  simp only [last?, if_true, value?_letter (show a.toNat / 4 < 64 by omega),
    value?_letter (show a.toNat % 4 * 16 < 64 by omega), Option.bind_eq_bind, Option.bind_some,
    hzero]
  rw [ofNat_eq (a := a) (by omega)]
  rfl

lemma last?_two (a b : UInt8) :
    last? (letter (a.toNat / 4)) (letter (a.toNat % 4 * 16 + b.toNat / 16))
      (letter (b.toNat % 16 * 4)) pad = some [a, b] := by
  have ha := a.toNat_lt
  have hb := b.toNat_lt
  have hzero : b.toNat % 16 * 4 % 4 = 0 := by omega
  simp only [last?, if_true, letter_ne_pad (show b.toNat % 16 * 4 < 64 by omega), if_false,
    value?_letter (show a.toNat / 4 < 64 by omega),
    value?_letter (show a.toNat % 4 * 16 + b.toNat / 16 < 64 by omega),
    value?_letter (show b.toNat % 16 * 4 < 64 by omega), Option.bind_eq_bind, Option.bind_some,
    hzero]
  rw [ofNat_eq (a := a) (by omega), ofNat_eq (a := b) (by omega)]
  rfl

end Groups

lemma decode?_group {a b c d : UInt8} {rest group bytes : Bytes}
    (hgroup : full? a b c d = some group) (hd : d ≠ pad) (hrest : decode? rest = some bytes) :
    decode? (a :: b :: c :: d :: rest) = some (group ++ bytes) := by
  rcases rest with _ | ⟨e, rest⟩
  · simp only [decode?, Option.some.injEq] at hrest
    simp [decode?, last?, hd, hgroup, ← hrest]
  · simp [decode?, hgroup, hrest]

/-! ### Reading and writing -/

/-- What is written is read back. -/
theorem decode?_encode (bs : Bytes) : decode? (encode bs) = some bs := by
  fun_induction encode bs with
  | case1 => rfl
  | case2 a => exact last?_one a
  | case3 a b => exact last?_two a b
  | case4 a b c rest ih =>
    have hd : letter (c.toNat % 64) ≠ pad := letter_ne_pad (Nat.mod_lt _ (by decide))
    exact decode?_group (full?_letters a b c) hd ih

theorem encode_injective : Function.Injective encode := by
  intro x y h
  have := decode?_encode x
  rw [h, decode?_encode] at this
  exact (Option.some.inj this).symm

lemma length_encode (bs : Bytes) : (encode bs).length = 4 * ((bs.length + 2) / 3) := by
  fun_induction encode bs with
  | case1 => rfl
  | case2 => simp
  | case3 => simp
  | case4 a b c rest ih =>
    simp only [List.length_cons, ih]
    omega

/-! ### Canonical texts -/

/-- Groups of four letters, of which the last may be padded; the bits left over are then zero. -/
inductive Canonical : Bytes → Prop
  | nil : Canonical []
  | one {a b : UInt8} {v : Nat} : a ∈ alphabet → alphabet[v]? = some b → v % 16 = 0 →
      Canonical [a, b, pad, pad]
  | two {a b c : UInt8} {v : Nat} : a ∈ alphabet → b ∈ alphabet → alphabet[v]? = some c →
      v % 4 = 0 → Canonical [a, b, c, pad]
  | group {a b c d : UInt8} {rest : Bytes} : a ∈ alphabet → b ∈ alphabet → c ∈ alphabet →
      d ∈ alphabet → Canonical rest → Canonical (a :: b :: c :: d :: rest)

lemma letter_mem (h : v < 64) : letter v ∈ alphabet := List.mem_of_getElem? (getElem?_alphabet h)

lemma exists_value {b : UInt8} (h : b ∈ alphabet) : ∃ v < 64, letter v = b := by
  obtain ⟨v, hv⟩ := List.getElem?_of_mem h
  have hvalue := value?_eq_some_iff.mpr hv
  exact ⟨v, lt_of_value? hvalue, letter_of_value? hvalue⟩

lemma canonical_encode (bs : Bytes) : Canonical (encode bs) := by
  fun_induction encode bs with
  | case1 => exact .nil
  | case2 a =>
    have ha := a.toNat_lt
    exact .one (letter_mem (by omega)) (getElem?_alphabet (by omega)) (by omega)
  | case3 a b =>
    have ha := a.toNat_lt
    have hb := b.toNat_lt
    exact .two (letter_mem (by omega)) (letter_mem (by omega)) (getElem?_alphabet (by omega))
      (by omega)
  | case4 a b c rest ih =>
    have ha := a.toNat_lt
    have hb := b.toNat_lt
    have hc := c.toNat_lt
    exact .group (letter_mem (by omega)) (letter_mem (by omega)) (letter_mem (by omega))
      (letter_mem (by omega)) ih

/-! What is written for the bytes that a group of letters spells is the group. -/

section Written

variable {v w x y : Nat} {rest bytes : Bytes} (hv : v < 64) (hw : w < 64)

include hv hw

lemma encode_one (hzero : w % 16 = 0) :
    encode [UInt8.ofNat (v * 4 + w / 16)] = [letter v, letter w, pad, pad] := by
  have h1 : (v * 4 + w / 16) % 2 ^ 8 / 4 = v := by omega
  have h2 : (v * 4 + w / 16) % 2 ^ 8 % 4 * 16 = w := by omega
  simp only [encode, UInt8.toNat_ofNat', h1, h2]

variable (hx : x < 64)

include hx

lemma encode_two (hzero : x % 4 = 0) :
    encode [UInt8.ofNat (v * 4 + w / 16), UInt8.ofNat (w % 16 * 16 + x / 4)] =
      [letter v, letter w, letter x, pad] := by
  have h1 : (v * 4 + w / 16) % 2 ^ 8 / 4 = v := by omega
  have h2 : (v * 4 + w / 16) % 2 ^ 8 % 4 * 16 + (w % 16 * 16 + x / 4) % 2 ^ 8 / 16 = w := by omega
  have h3 : (w % 16 * 16 + x / 4) % 2 ^ 8 % 16 * 4 = x := by omega
  simp only [encode, UInt8.toNat_ofNat', h1, h2, h3]

lemma encode_group (hy : y < 64) (hrest : encode bytes = rest) :
    encode (UInt8.ofNat (v * 4 + w / 16) :: UInt8.ofNat (w % 16 * 16 + x / 4)
      :: UInt8.ofNat (x % 4 * 64 + y) :: bytes) =
      letter v :: letter w :: letter x :: letter y :: rest := by
  have h1 : (v * 4 + w / 16) % 2 ^ 8 / 4 = v := by omega
  have h2 : (v * 4 + w / 16) % 2 ^ 8 % 4 * 16 + (w % 16 * 16 + x / 4) % 2 ^ 8 / 16 = w := by omega
  have h3 : (w % 16 * 16 + x / 4) % 2 ^ 8 % 16 * 4 + (x % 4 * 64 + y) % 2 ^ 8 / 64 = x := by omega
  have h4 : (x % 4 * 64 + y) % 2 ^ 8 % 64 = y := by omega
  simp only [encode, UInt8.toNat_ofNat', h1, h2, h3, h4, hrest]

end Written

/-- The canonical texts are those that are written for some bytes. -/
theorem canonical_iff {s : Bytes} : Canonical s ↔ ∃ bs, encode bs = s := by
  constructor
  · intro h
    induction h with
    | nil => exact ⟨[], rfl⟩
    | @one a b w ha hb hzero =>
      obtain ⟨v, hv, rfl⟩ := exists_value ha
      have hvalue := value?_eq_some_iff.mpr hb
      rw [← letter_of_value? hvalue]
      exact ⟨_, encode_one hv (lt_of_value? hvalue) hzero⟩
    | @two a b c x ha hb hc hzero =>
      obtain ⟨v, hv, rfl⟩ := exists_value ha
      obtain ⟨w, hw, rfl⟩ := exists_value hb
      have hvalue := value?_eq_some_iff.mpr hc
      rw [← letter_of_value? hvalue]
      exact ⟨_, encode_two hv hw (lt_of_value? hvalue) hzero⟩
    | group ha hb hc hd _ ih =>
      obtain ⟨v, hv, rfl⟩ := exists_value ha
      obtain ⟨w, hw, rfl⟩ := exists_value hb
      obtain ⟨x, hx, rfl⟩ := exists_value hc
      obtain ⟨y, hy, rfl⟩ := exists_value hd
      obtain ⟨bytes, hrest⟩ := ih
      exact ⟨_, encode_group hv hw hx hy hrest⟩
  · rintro ⟨bs, rfl⟩
    exact canonical_encode bs

lemma mem_of_value? {b : UInt8} {v : Nat} (h : value? b = some v) : b ∈ alphabet :=
  List.mem_of_getElem? (value?_eq_some_iff.mp h)

lemma canonical_of_full? {a b c d : UInt8} {rest group : Bytes} (h : full? a b c d = some group)
    (hrest : Canonical rest) : Canonical (a :: b :: c :: d :: rest) := by
  simp only [full?, Option.bind_eq_bind, Option.bind_eq_some_iff] at h
  obtain ⟨v, ha, w, hb, x, hc, y, hd, -⟩ := h
  exact .group (mem_of_value? ha) (mem_of_value? hb) (mem_of_value? hc) (mem_of_value? hd) hrest

lemma canonical_of_last? {a b c d : UInt8} {group : Bytes} (h : last? a b c d = some group) :
    Canonical [a, b, c, d] := by
  unfold last? at h
  split at h
  · rename_i hd
    subst hd
    split at h
    · rename_i hc
      subst hc
      simp only [Option.bind_eq_bind, Option.bind_eq_some_iff, Option.ite_none_right_eq_some] at h
      obtain ⟨v, ha, w, hb, hzero, -⟩ := h
      exact .one (mem_of_value? ha) (value?_eq_some_iff.mp hb) hzero
    · simp only [Option.bind_eq_bind, Option.bind_eq_some_iff, Option.ite_none_right_eq_some] at h
      obtain ⟨v, ha, w, hb, x, hc, hzero, -⟩ := h
      exact .two (mem_of_value? ha) (mem_of_value? hb) (value?_eq_some_iff.mp hc) hzero
  · exact canonical_of_full? h .nil

lemma canonical_of_decode? {s bs : Bytes} (h : decode? s = some bs) : Canonical s := by
  fun_induction decode? s generalizing bs with
  | case1 => exact .nil
  | case2 a b c d => exact canonical_of_last? h
  | case3 a b c d rest _ ih =>
    simp only [Option.bind_eq_bind, Option.bind_eq_some_iff] at h
    obtain ⟨group, hgroup, bytes, hrest, -⟩ := h
    exact canonical_of_full? hgroup (ih hrest)
  | case4 => cases h

/-- Bytes are read from a text exactly if it is what is written for them. -/
theorem decode?_eq_some_iff {s bs : Bytes} : decode? s = some bs ↔ encode bs = s := by
  constructor
  · intro h
    obtain ⟨bytes, rfl⟩ := canonical_iff.mp (canonical_of_decode? h)
    rw [decode?_encode] at h
    rw [Option.some.inj h]
  · rintro rfl
    exact decode?_encode bs

theorem decode?_eq_none_iff {s : Bytes} : decode? s = none ↔ ¬ Canonical s := by
  rw [canonical_iff, Option.eq_none_iff_forall_ne_some, not_exists]
  exact forall_congr' fun bs => not_congr decode?_eq_some_iff

end HomeHub.Base64
