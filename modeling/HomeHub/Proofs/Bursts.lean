import Mathlib.Data.List.GetD
import Mathlib.Logic.Function.Iterate
import Mathlib.Tactic.ByContra
import Mathlib.Tactic.Lemma
import Mathlib.Tactic.Set
import HomeHub.Store.Crc32

/-!
Bursts of errors and the cyclic redundancy check.

The register is linear in exclusive or, so two byte strings that leave the same in it have a
difference that leaves zero in an empty one. Bits that are not set only shift the register, and a
shift loses nothing; and up to 32 bits that go in one by one are worth the word that they spell,
shifted as often. So a difference that lies within 32 consecutive bits leaves zero only if it is
zero.
-/

namespace HomeHub.Crc32

/-! ### Input bit by bit -/

def ofBit (b : Bool) : UInt32 := if b then 1 else 0

/-- One bit of input. -/
def bit (crc : UInt32) (b : Bool) : UInt32 := shift (crc ^^^ ofBit b)

def feed (crc : UInt32) (u : List Bool) : UInt32 := u.foldl bit crc

/-- The word that a row of bits spells, the lowest first. -/
def word : List Bool → UInt32
  | [] => 0
  | b :: u => ofBit b ^^^ (word u <<< 1)

/-! ### Words by their bits -/

lemma eq_of_bits {a b : UInt32}
    (h : ∀ i < 32, a.toBitVec.getLsbD i = b.toBitVec.getLsbD i) : a = b :=
  UInt32.toBitVec_inj.mp (BitVec.eq_of_getLsbD_eq h)

lemma xor_not (c : UInt32) : c ^^^ ~~~c = 0xFFFFFFFF := by
  apply eq_of_bits
  intro i hi
  have hones : (0xFFFFFFFF : UInt32).toBitVec = BitVec.allOnes 32 := rfl
  rw [hones, UInt32.toBitVec_xor, UInt32.toBitVec_not, BitVec.getLsbD_xor, BitVec.getLsbD_not,
    BitVec.getLsbD_allOnes]
  simp [hi]

lemma getLsbD_ofBit (b : Bool) (i : Nat) :
    (ofBit b).toBitVec.getLsbD i = (decide (i = 0) && b) := by
  cases b with
  | false => simp [ofBit]
  | true => simp [ofBit, BitVec.getLsbD_one]

lemma getLsbD_double (c : UInt32) (i : Nat) :
    (c <<< 1).toBitVec.getLsbD i =
      (decide (i < 32) && !decide (i < 1) && c.toBitVec.getLsbD (i - 1)) := by
  rw [UInt32.toBitVec_shiftLeft]
  exact BitVec.getLsbD_shiftLeft _ 1

lemma getLsbD_mask (c : UInt32) {i : Nat} (hi : i < 32) :
    (0 - (c &&& 1)).toBitVec.getLsbD i = c.toBitVec.getLsbD 0 := by
  have h : (c &&& 1).toBitVec = BitVec.setWidth 32 (BitVec.ofBool (c.toBitVec.getLsbD 0)) := by
    rw [UInt32.toBitVec_and]
    exact BitVec.and_one_eq_setWidth_ofBool_getLsbD
  rw [UInt32.toBitVec_sub, h]
  cases c.toBitVec.getLsbD 0 with
  | false => simp
  | true =>
    have hones : UInt32.toBitVec 0 - BitVec.setWidth 32 (BitVec.ofBool true) =
        BitVec.allOnes 32 := by decide
    rw [hones, BitVec.getLsbD_allOnes]
    simpa using hi

/-! ### Shifts -/

lemma getLsbD_shift (c : UInt32) {i : Nat} (hi : i < 32) :
    (shift c).toBitVec.getLsbD i =
      (c.toBitVec.getLsbD (i + 1) ^^ (c.toBitVec.getLsbD 0 && polynomial.toBitVec.getLsbD i)) := by
  rw [shift, UInt32.toBitVec_xor, BitVec.getLsbD_xor, UInt32.toBitVec_and, BitVec.getLsbD_and,
    getLsbD_mask c hi, Bool.and_comm, UInt32.toBitVec_shiftRight, BitVec.ushiftRight_eq',
    BitVec.getLsbD_ushiftRight]
  congr 2
  exact Nat.add_comm 1 i

lemma shift_xor (a b : UInt32) : shift (a ^^^ b) = shift a ^^^ shift b := by
  apply eq_of_bits
  intro i hi
  simp only [UInt32.toBitVec_xor, BitVec.getLsbD_xor, getLsbD_shift, hi,
    Bool.and_xor_distrib_right]
  simp only [Bool.xor_assoc, Bool.xor_left_comm]

lemma shift_double {c : UInt32} (h : c.toBitVec.getLsbD 31 = false) : shift (c <<< 1) = c := by
  apply eq_of_bits
  intro i hi
  rw [getLsbD_shift _ hi, getLsbD_double, getLsbD_double]
  rcases Nat.lt_or_ge i 31 with hlt | hge
  · have : i + 1 < 32 := by omega
    simp [this]
  · have : i = 31 := by omega
    subst this
    rw [Nat.add_sub_cancel, h]
    rfl

/-- Nothing is lost in a shift: the bit that falls out comes back at the top. -/
lemma shift_eq_zero {c : UInt32} (h : shift c = 0) : c = 0 := by
  have hbit {i : Nat} (hi : i < 32) := getLsbD_shift c hi
  rw [h] at hbit
  have h0 : c.toBitVec.getLsbD 0 = false := by
    have htop := hbit (i := 31) (by omega)
    have hpoly : polynomial.toBitVec.getLsbD 31 = true := by decide
    rw [hpoly, BitVec.getLsbD_of_ge c.toBitVec (31 + 1) (by omega)] at htop
    simpa using htop.symm
  apply eq_of_bits
  intro i hi
  cases i with
  | zero => simpa using h0
  | succ i =>
    have hshift := hbit (i := i) (by omega)
    rw [h0, Bool.false_and, Bool.xor_false] at hshift
    exact hshift.symm.trans (by simp)

lemma shift_injective : Function.Injective shift := by
  intro a b h
  have hdiff : shift (a ^^^ b) = 0 := by rw [shift_xor, h, UInt32.xor_self]
  exact UInt32.xor_eq_zero_iff.mp (shift_eq_zero hdiff)

lemma shifts_zero (n : Nat) : shift^[n] 0 = 0 := Function.iterate_fixed (by decide) n

lemma shifts_eq_zero {n : Nat} {c : UInt32} (h : shift^[n] c = 0) : c = 0 :=
  shift_injective.iterate n (h.trans (shifts_zero n).symm)

/-! ### Rows of bits -/

lemma getLsbD_word (u : List Bool) (i : Nat) :
    (word u).toBitVec.getLsbD i = (decide (i < 32) && u.getD i false) := by
  induction u generalizing i with
  | nil => simp [word]
  | cons b u ih =>
    rw [word, UInt32.toBitVec_xor, BitVec.getLsbD_xor, getLsbD_ofBit, getLsbD_double, ih]
    cases i with
    | zero => simp
    | succ i =>
      by_cases hi : i + 1 < 32
      · have : i < 32 := by omega
        simp [hi, this]
      · simp [hi]

/-- At most 32 bits go in as well at once, as a word. -/
lemma feed_eq {u : List Bool} (hu : u.length ≤ 32) (c : UInt32) :
    feed c u = shift^[u.length] (c ^^^ word u) := by
  induction u generalizing c with
  | nil => simp [feed, word]
  | cons b u ih =>
    rw [List.length_cons] at hu
    have htop : (word u).toBitVec.getLsbD 31 = false := by
      rw [getLsbD_word, List.getD_eq_default _ _ (by omega)]
      rfl
    calc feed c (b :: u) = feed (shift (c ^^^ ofBit b)) u := rfl
      _ = shift^[u.length] (shift (c ^^^ ofBit b) ^^^ word u) := ih (by omega) _
      _ = shift^[u.length] (shift (c ^^^ ofBit b) ^^^ shift (word u <<< 1)) := by
          rw [shift_double htop]
      _ = shift^[(b :: u).length] (c ^^^ word (b :: u)) := by
          rw [← shift_xor, List.length_cons, Function.iterate_succ_apply, word,
            UInt32.xor_assoc]

lemma feed_append (c : UInt32) (u v : List Bool) : feed c (u ++ v) = feed (feed c u) v :=
  List.foldl_append

lemma feed_xor (c d : UInt32) {u v : List Bool} (h : u.length = v.length) :
    feed (c ^^^ d) (List.zipWith Bool.xor u v) = feed c u ^^^ feed d v := by
  induction u generalizing c d v with
  | nil =>
    obtain rfl : v = [] := List.length_eq_zero_iff.mp h.symm
    rfl
  | cons a u ih =>
    obtain _ | ⟨b, v⟩ := v
    · cases h
    · have hbit : ofBit (Bool.xor a b) = ofBit a ^^^ ofBit b := by
        cases a <;> cases b <;> rfl
      have hstep : bit (c ^^^ d) (Bool.xor a b) = bit c a ^^^ bit d b := by
        rw [bit, bit, bit, ← shift_xor, hbit]
        ac_rfl
      calc feed (c ^^^ d) (List.zipWith Bool.xor (a :: u) (b :: v))
          = feed (bit (c ^^^ d) (Bool.xor a b)) (List.zipWith Bool.xor u v) := rfl
        _ = feed (bit c a) u ^^^ feed (bit d b) v := by
            rw [hstep, ih _ _ (Nat.succ.inj h)]
        _ = feed c (a :: u) ^^^ feed d (b :: v) := rfl

lemma feed_unset {u : List Bool} (h : ∀ b ∈ u, b = false) (c : UInt32) :
    feed c u = shift^[u.length] c := by
  induction u generalizing c with
  | nil => rfl
  | cons b u ih =>
    rw [List.forall_mem_cons] at h
    obtain ⟨rfl, hu⟩ := h
    have hbit : bit c false = shift c := by simp [bit, ofBit]
    rw [List.length_cons, Function.iterate_succ_apply, ← ih hu, ← hbit]
    rfl

lemma eq_false_of_word {u : List Bool} (hu : u.length ≤ 32) (h : word u = 0) :
    ∀ b ∈ u, b = false := by
  intro b hb
  obtain ⟨i, hi, rfl⟩ := List.getElem_of_mem hb
  have hbit := getLsbD_word u i
  rw [h, List.getD_eq_getElem _ _ hi] at hbit
  have : i < 32 := by omega
  simpa [this] using hbit.symm

/-- A burst of at most 32 bits does not leave the register as it was. -/
lemma eq_false_of_feed {u : List Bool} {w : Nat}
    (hburst : ∀ k, u.getD k false = true → w ≤ k ∧ k < w + 32) (h : feed 0 u = 0) :
    ∀ b ∈ u, b = false := by
  -- before the burst, the burst, and after it
  have hsplit : u = u.take w ++ ((u.drop w).take 32 ++ (u.drop w).drop 32) := by
    rw [List.take_append_drop, List.take_append_drop]
  have hunset {k : Nat} (hk : k < w ∨ w + 32 ≤ k) : u.getD k false = false := by
    by_contra hset
    have := hburst k (by simpa using hset)
    omega
  have hbefore : ∀ b ∈ u.take w, b = false := by
    intro b hb
    obtain ⟨k, hk, rfl⟩ := List.mem_take_iff_getElem.mp hb
    rw [← List.getD_eq_getElem u false (by omega)]
    exact hunset (by omega)
  have hafter : ∀ b ∈ (u.drop w).drop 32, b = false := by
    intro b hb
    rw [List.drop_drop] at hb
    obtain ⟨k, hk, rfl⟩ := List.mem_drop_iff_getElem.mp hb
    rw [← List.getD_eq_getElem u false (by omega)]
    exact hunset (by omega)
  have hwithin : ∀ b ∈ (u.drop w).take 32, b = false := by
    have hlen : ((u.drop w).take 32).length ≤ 32 := List.length_take_le _ _
    rw [hsplit, feed_append, feed_append, feed_unset hbefore, shifts_zero, feed_unset hafter,
      feed_eq hlen, UInt32.zero_xor] at h
    exact eq_false_of_word hlen (shifts_eq_zero (shifts_eq_zero h))
  intro b hb
  rw [hsplit, List.mem_append, List.mem_append] at hb
  rcases hb with hb | hb | hb
  · exact hbefore b hb
  · exact hwithin b hb
  · exact hafter b hb

/-! ### Bytes as bits -/

def bitsOfByte (b : UInt8) : List Bool := (List.range 8).map b.toNat.testBit

/-- The bits of a byte string, from the lowest of its first byte on. -/
def bits (bs : Bytes) : List Bool := bs.flatMap bitsOfByte

/-- The bit of a byte string at an index. -/
def bitAt (bs : Bytes) (k : Nat) : Bool := (bs.getD (k / 8) 0).toNat.testBit (k % 8)

lemma length_bits (bs : Bytes) : (bits bs).length = 8 * bs.length := by
  induction bs with
  | nil => rfl
  | cons b bs ih =>
    rw [bits, List.flatMap_cons, List.length_append, ← bits, ih, List.length_cons]
    simp only [bitsOfByte, List.length_map, List.length_range]
    omega

lemma getD_bits (bs : Bytes) (k : Nat) : (bits bs).getD k false = bitAt bs k := by
  induction bs generalizing k with
  | nil => simp [bits, bitAt]
  | cons b bs ih =>
    have hlen : (bitsOfByte b).length = 8 := by simp [bitsOfByte]
    rw [bits, List.flatMap_cons, ← bits]
    rcases Nat.lt_or_ge k 8 with hk | hk
    · rw [List.getD_append _ _ _ _ (by omega), List.getD_eq_getElem _ _ (by omega)]
      simp [bitsOfByte, bitAt, Nat.div_eq_of_lt hk, Nat.mod_eq_of_lt hk]
    · have hdiv : k / 8 = (k - 8) / 8 + 1 := by omega
      have hmod : k % 8 = (k - 8) % 8 := by omega
      rw [List.getD_append_right _ _ _ _ (by omega), hlen, ih, bitAt, bitAt, hdiv, hmod,
        List.getD_cons_succ]

lemma getLsbD_toUInt32 (b : UInt8) {i : Nat} (hi : i < 32) :
    b.toUInt32.toBitVec.getLsbD i = b.toNat.testBit i := by
  rw [UInt8.toBitVec_toUInt32, BitVec.getLsbD_setWidth]
  simp only [hi, decide_true, Bool.true_and]
  rfl

lemma testBit_of_le (b : UInt8) {i : Nat} (hi : 8 ≤ i) : b.toNat.testBit i = false :=
  Nat.testBit_lt_two_pow (Nat.lt_of_lt_of_le b.toNat_lt (Nat.pow_le_pow_right (by omega) hi))

lemma getLsbD_moved (b : UInt8) {i : Nat} (hi : i < 32) (j : Nat) :
    (b.toUInt32.toBitVec <<< (8 * j)).getLsbD i =
      (decide (i / 8 = j) && b.toNat.testBit (i % 8)) := by
  rw [BitVec.getLsbD_shiftLeft, getLsbD_toUInt32 b (by omega)]
  rcases Nat.lt_trichotomy (i / 8) j with hj | hj | hj
  · have hlt : i < 8 * j := by omega
    have hne : i / 8 ≠ j := by omega
    simp [hlt, hne]
  · have hle : ¬ i < 8 * j := by omega
    have hmod : i - 8 * j = i % 8 := by omega
    simp [hi, hle, hj, hmod]
  · have hne : i / 8 ≠ j := by omega
    rw [testBit_of_le b (by omega)]
    simp [hne]

lemma word_bits (a b c d : UInt8) : word (bits [a, b, c, d]) = Bytes.word a b c d := by
  apply eq_of_bits
  intro i hi
  have ha := getLsbD_moved a hi 0
  rw [Nat.mul_zero, BitVec.shiftLeft_zero] at ha
  have hword : (Bytes.word a b c d).toBitVec.getLsbD i =
      (decide (i / 8 = 0) && a.toNat.testBit (i % 8) ||
        decide (i / 8 = 1) && b.toNat.testBit (i % 8) ||
        decide (i / 8 = 2) && c.toNat.testBit (i % 8) ||
        decide (i / 8 = 3) && d.toNat.testBit (i % 8)) := by
    rw [← ha, ← getLsbD_moved b hi, ← getLsbD_moved c hi, ← getLsbD_moved d hi]
    simp only [Bytes.word, UInt32.toBitVec_or, BitVec.getLsbD_or]
    rfl
  rw [getLsbD_word, getD_bits, bitAt, hword]
  have hbyte : i / 8 = 0 ∨ i / 8 = 1 ∨ i / 8 = 2 ∨ i / 8 = 3 := by omega
  rcases hbyte with h | h | h | h <;> simp [hi, h]

lemma byte_eq_feed (c : UInt32) (b : UInt8) : byte c b = feed c (bitsOfByte b) := by
  have hlen : (bitsOfByte b).length = 8 := by simp [bitsOfByte]
  have hword : word (bitsOfByte b) = b.toUInt32 := by
    apply eq_of_bits
    intro i hi
    rw [getLsbD_word, getLsbD_toUInt32 b hi]
    rcases Nat.lt_or_ge i 8 with h | h
    · rw [List.getD_eq_getElem _ _ (by omega)]
      simp [bitsOfByte, hi]
    · rw [List.getD_eq_default _ _ (by omega), testBit_of_le b h, Bool.and_false]
  rw [feed_eq (by omega), hlen, hword]
  rfl

lemma foldl_byte (c : UInt32) (bs : Bytes) : bs.foldl byte c = feed c (bits bs) := by
  induction bs generalizing c with
  | nil => rfl
  | cons b bs ih =>
    rw [List.foldl_cons, ih, byte_eq_feed, ← feed_append]
    rfl

lemma eq_of_bitAt {xs ys : Bytes} (hlen : xs.length = ys.length)
    (h : ∀ k, bitAt xs k = bitAt ys k) : xs = ys := by
  apply List.ext_getElem hlen
  intro i hx hy
  apply UInt8.toNat_inj.mp
  apply Nat.eq_of_testBit_eq
  intro j
  rcases Nat.lt_or_ge j 8 with hj | hj
  · have hbit := h (8 * i + j)
    have hdiv : (8 * i + j) / 8 = i := by omega
    have hmod : (8 * i + j) % 8 = j := by omega
    rwa [bitAt, bitAt, hdiv, hmod, List.getD_eq_getElem _ _ hx,
      List.getD_eq_getElem _ _ hy] at hbit
  · rw [testBit_of_le _ hj, testBit_of_le _ hj]

lemma getD_zipWith {u v : List Bool} (h : u.length = v.length) (k : Nat) :
    (List.zipWith Bool.xor u v).getD k false = (u.getD k false ^^ v.getD k false) := by
  rcases Nat.lt_or_ge k u.length with hk | hk
  · rw [List.getD_eq_getElem _ _ (by simp; omega), List.getElem_zipWith,
      List.getD_eq_getElem u _ hk, List.getD_eq_getElem v _ (by omega)]
  · rw [List.getD_eq_default _ _ (by simp; omega), List.getD_eq_default u _ hk,
      List.getD_eq_default v _ (by omega)]
    rfl

/-- **A burst of at most 32 bits is noticed**: two byte strings that differ in no more do not leave
the same in the register. -/
theorem eq_of_register {xs ys : Bytes} {w : Nat} (hlen : xs.length = ys.length)
    (hburst : ∀ k, bitAt xs k ≠ bitAt ys k → w ≤ k ∧ k < w + 32)
    (h : register xs = register ys) : xs = ys := by
  have hlen' : (bits xs).length = (bits ys).length := by rw [length_bits, length_bits, hlen]
  -- the difference of the two, fed into an empty register
  set e := List.zipWith Bool.xor (bits xs) (bits ys)
  have hget (k : Nat) : e.getD k false = (bitAt xs k ^^ bitAt ys k) := by
    rw [getD_zipWith hlen', getD_bits, getD_bits]
  have hfeed : feed 0 e = 0 := by
    rw [register, register, foldl_byte, foldl_byte] at h
    have hxor := feed_xor 0xFFFFFFFF 0xFFFFFFFF hlen'
    rwa [h, UInt32.xor_self, UInt32.xor_self] at hxor
  have hunset : ∀ b ∈ e, b = false := by
    refine eq_false_of_feed (w := w) (fun k hk => hburst k ?_) hfeed
    rw [hget] at hk
    simpa using hk
  apply eq_of_bitAt hlen
  intro k
  by_contra hne
  have hset : e.getD k false = true := by
    rw [hget]
    simpa using hne
  rcases Nat.lt_or_ge k e.length with hk | hk
  · rw [List.getD_eq_getElem _ _ hk, hunset _ (List.getElem_mem hk)] at hset
    cases hset
  · rw [List.getD_eq_default _ _ hk] at hset
    cases hset

end HomeHub.Crc32
