import Mathlib.Algebra.Order.Field.Power
import Mathlib.Algebra.Order.Field.Rat
import Mathlib.Data.Rat.Cast.Order
import Mathlib.Tactic.FieldSimp
import Mathlib.Tactic.NormNum
import Mathlib.Tactic.Positivity
import Mathlib.Tactic.Ring
import HomeHub.Proofs.SettingsText

/-!
The text of a target temperature reads as a target temperature.

It need not read as the same one: the digits are rounded to a number, this is divided by a power of
ten, and that is rounded once more. But the digits that are written stand for something from ten to
thirty-eight, and the bounds, moved by as many places, are numbers. Rounding does not go past
numbers, so neither of the two steps leaves the range.
-/

namespace HomeHub

namespace Shortest

/-! ### What the digits stand for -/

/-- The number that a decimal stands for. -/
def Decimal.value (d : Decimal) : ℚ := d.digits * 10 ^ d.exponent

/-- Halves of a unit. -/
def ofHalves (v : Nat) : ℚ := v / one

lemma one_cast_pos : (0 : ℚ) < one := Nat.cast_pos.mpr one_pos

lemma le_ofHalves_iff {c v : Nat} : (c : ℚ) ≤ ofHalves v ↔ c * one ≤ v := by
  rw [ofHalves, le_div_iff₀ one_cast_pos, ← Nat.cast_mul, Nat.cast_le]

lemma ofHalves_le_iff {c v : Nat} : ofHalves v ≤ c ↔ v ≤ c * one := by
  rw [ofHalves, div_le_iff₀ one_cast_pos, ← Nat.cast_mul, Nat.cast_le]

lemma commonScale_eq (n : Nat) (k : Int) (v : Nat) : ∃ c : ℚ, 0 < c ∧
    (commonScale n k v).1 = n * 10 ^ k * c ∧ (commonScale n k v).2 = ofHalves v * c := by
  have hone := one_cast_pos
  unfold commonScale ofHalves
  generalize one = unit at hone ⊢
  cases k with
  | ofNat k =>
    refine ⟨unit, hone, ?_, ?_⟩
    · simp
    · field_simp
  | negSucc k =>
    have hpow : Nat.pow 10 (k + 1) = 10 ^ (k + 1) := rfl
    refine ⟨unit * 10 ^ (k + 1), by positivity, ?_, ?_⟩
    · rw [zpow_negSucc]
      push_cast
      field_simp
    · dsimp only
      rw [hpow]
      push_cast
      field_simp

variable {i : Interval} {n m : Nat} {k : Int}

lemma le_commonScale_iff {v : Nat} :
    (commonScale n k v).2 ≤ (commonScale n k v).1 ↔ ofHalves v ≤ n * 10 ^ k := by
  obtain ⟨c, hc, hn, hv⟩ := commonScale_eq n k v
  rw [← Nat.cast_le (α := ℚ), hn, hv, mul_le_mul_iff_left₀ hc]

lemma commonScale_le_iff {v : Nat} :
    (commonScale n k v).1 ≤ (commonScale n k v).2 ↔ n * 10 ^ k ≤ ofHalves v := by
  obtain ⟨c, hc, hn, hv⟩ := commonScale_eq n k v
  rw [← Nat.cast_le (α := ℚ), hn, hv, mul_le_mul_iff_left₀ hc]

lemma commonScale_fst (n : Nat) (k : Int) (v w : Nat) :
    (commonScale n k v).1 = (commonScale n k w).1 := by
  cases k <;> rfl

lemma bounds_of_contains (h : i.contains n k = true) :
    ofHalves i.low ≤ n * 10 ^ k ∧ n * 10 ^ k ≤ ofHalves i.high := by
  rw [← le_commonScale_iff, ← commonScale_le_iff, commonScale_fst n k i.high i.low]
  unfold Interval.contains at h
  dsimp only at h
  split at h <;> simp only [Bool.and_eq_true, decide_eq_true_eq] at h <;> omega

lemma le_below_iff : m ≤ i.below k ↔ m * 10 ^ k ≤ ofHalves i.centre := by
  obtain ⟨c, hc, hn, hv⟩ := commonScale_eq 1 k i.centre
  have hstep : 0 < (commonScale 1 k i.centre).1 := by
    rw [← Nat.cast_pos (α := ℚ), hn]
    positivity
  rw [Interval.below, Nat.le_div_iff_mul_le hstep, ← Nat.cast_le (α := ℚ), Nat.cast_mul, hn, hv,
    Nat.cast_one, one_mul, ← mul_assoc, mul_le_mul_iff_left₀ hc]

lemma nearer_eq (i : Interval) (n : Nat) (k : Int) : i.nearer n k = n ∨ i.nearer n k = n + 1 := by
  unfold Interval.nearer
  dsimp only
  split_ifs <;> simp

lemma contains_of_onGrid (h : i.onGrid k = some n) : i.contains n k = true := by
  unfold Interval.onGrid at h
  dsimp only at h
  rcases h1 : i.contains (i.below k) k <;> rcases h2 : i.contains (i.below k + 1) k <;>
    simp only [h1, h2, Option.some.injEq, reduceCtorEq] at h <;> subst h
  · exact h2
  · exact h1
  · rcases nearer_eq i (i.below k) k with hn | hn <;> simp only [hn, h1, h2]

/-- The search gives a decimal between whole numbers that the interval lies between, if it does not
end before the whole numbers are on the grid. -/
lemma search_between {a b : Nat} (hlow : a ≤ ofHalves i.low) (hhigh : ofHalves i.high ≤ b)
    (hcentre : a ≤ ofHalves i.centre) (hcentre' : ofHalves i.centre < b) (count : Nat)
    (hk : k ≤ count) : a ≤ (i.search count k).value ∧ (i.search count k).value ≤ b := by
  induction count generalizing k with
  | zero =>
    -- on the last grid the whole numbers are multiples too, so none is passed
    obtain ⟨j, rfl⟩ : ∃ j : Nat, k = -j := ⟨k.natAbs, by omega⟩
    have hgrid (c : Nat) : ((c * 10 ^ j : Nat) : ℚ) * 10 ^ (-(j : Int)) = c := by
      rw [zpow_neg, zpow_natCast]
      push_cast
      field_simp
    have hfloor : a * 10 ^ j ≤ i.below (-j) := by
      rwa [le_below_iff, hgrid]
    have hceil : i.below (-j) < b * 10 ^ j := by
      rw [← Nat.not_le, le_below_iff, hgrid, not_le]
      exact hcentre'
    have hn : a * 10 ^ j ≤ i.nearer (i.below (-j)) (-j) ∧
        i.nearer (i.below (-j)) (-j) ≤ b * 10 ^ j := by
      rcases nearer_eq i (i.below (-j)) (-j) with h | h <;> omega
    rw [Interval.search, Decimal.value, ← hgrid a, ← hgrid b]
    have hpos : (0 : ℚ) < 10 ^ (-(j : Int)) := by positivity
    exact ⟨mul_le_mul_of_nonneg_right (Nat.cast_le.mpr hn.1) hpos.le,
      mul_le_mul_of_nonneg_right (Nat.cast_le.mpr hn.2) hpos.le⟩
  | succ count ih =>
    rw [Interval.search]
    split
    · rename_i n hgrid
      obtain ⟨h1, h2⟩ := bounds_of_contains (contains_of_onGrid hgrid)
      exact ⟨hlow.trans h1, h2.trans hhigh⟩
    · exact ih (by omega)

lemma value_strip (fuel : Nat) (d : Decimal) : (d.strip fuel).value = d.value := by
  induction fuel generalizing d with
  | zero => rfl
  | succ fuel ih =>
    rw [Decimal.strip]
    split
    · rename_i h
      obtain ⟨q, hq⟩ : 10 ∣ d.digits := Nat.dvd_of_mod_eq_zero h.2
      rw [ih, Decimal.value, Decimal.value, hq, Nat.mul_div_cancel_left q (by decide),
        zpow_add_one₀ (by norm_num)]
      push_cast
      ring
    · rfl

/-- **What is written for a target temperature is in range.** -/
theorem value_shortest {t : Binary64} (h : Settings.Admissible t) :
    10 ≤ (shortest t.magnitude).value ∧ (shortest t.magnitude).value ≤ 38 := by
  rcases Nat.eq_or_lt_of_le h.le_magnitude with hmin | hlow
  · have hten : shortest Settings.minTarget.magnitude = ⟨1, 1⟩ := by decide +kernel
    rw [← hmin, hten]
    norm_num [Decimal.value]
  rcases Nat.eq_or_lt_of_le h.magnitude_le with hmax | hhigh
  · have hthirtyEight : shortest Settings.maxTarget.magnitude = ⟨38, 0⟩ := by decide +kernel
    rw [hmax, hthirtyEight]
    norm_num [Decimal.value]
  -- within the bounds, so are the neighbours
  have hbelow := Binary64.units_mono (Nat.le_sub_one_of_lt hlow)
  have habove : Binary64.units (t.magnitude + 1) ≤ _ := Binary64.units_mono hhigh
  have hlow := Binary64.units_lt_units hlow
  have hhigh := Binary64.units_lt_units hhigh
  have hmin := units_minTarget
  have hmax := units_maxTarget
  rw [shortest, value_strip]
  refine search_between (a := 10) (b := 38) (le_ofHalves_iff.mpr ?_) (ofHalves_le_iff.mpr ?_)
    (le_ofHalves_iff.mpr ?_) (lt_of_not_ge fun hge => ?_) 16 ?_
  · simp only [Interval.of]
    omega
  · simp only [Interval.of]
    omega
  · simp only [Interval.of]
    omega
  · rw [le_ofHalves_iff] at hge
    simp only [Interval.of] at hge
    omega
  · have hlead := (lead_bounds h).2
    omega

end Shortest

/-! ### How the digits are read -/

namespace Json

open Decimal (digits digitChar ofDigits)

lemma foldl_fraction (ds : List Nat) (n : Nat) (e : Int)
    (h : ds.foldl (fun n d => n * 10 + d) n < 2 ^ 64) :
    ds.foldl Scaled.fraction ⟨n, e, false⟩ =
      ⟨ds.foldl (fun n d => n * 10 + d) n, e - ds.length, false⟩ := by
  induction ds generalizing n e with
  | nil => simp
  | cons d ds ih =>
    have hle := Decimal.le_foldl ds (n * 10 + d)
    have hstep : Scaled.fraction ⟨n, e, false⟩ d = ⟨n * 10 + d, e - 1, false⟩ :=
      if_neg (by simpa using Nat.lt_of_le_of_lt hle h)
    rw [List.foldl_cons, List.foldl_cons, hstep, ih _ _ h, List.length_cons]
    congr 1
    omega

/-- Digits before and after a point that are read as they stand. -/
structure Plain (whole fraction : List Nat) : Prop where
  lt_ten : ∀ d ∈ whole ++ fraction, d < 10
  head_ne : whole.head? ≠ some 0
  whole_ne : whole ≠ []
  fraction_ne : fraction ≠ []
  length_le : fraction.length ≤ 308
  fits : ofDigits (whole ++ fraction) < 2 ^ 64

variable {w f : List Nat}

lemma wholePart_plain (h : Plain w f) (s : List Char) :
    wholePart (w.map digitChar ++ '.' :: s) = some (w, '.' :: s) := by
  have hspan : spanDigits (w.map digitChar ++ '.' :: s) = (w, '.' :: s) := by
    refine spanDigits_map (List.forall_mem_append.mp h.lt_ten).1 fun c hc => ?_
    obtain rfl := Option.some.inj hc
    decide
  have hw := h.whole_ne
  have hhead := h.head_ne
  rw [wholePart, hspan]
  split <;> simp_all

lemma fractionPart_plain (h : Plain w f) :
    fractionPart ('.' :: f.map digitChar) = some (some f, []) := by
  have hspan : spanDigits (f.map digitChar ++ []) = (f, []) :=
    spanDigits_map (List.forall_mem_append.mp h.lt_ten).2 nofun
  have hf := h.fraction_ne
  rw [List.append_nil] at hspan
  rw [fractionPart, hspan]
  split <;> simp_all

lemma numeral_plain (h : Plain w f) :
    numeral (w.map digitChar ++ '.' :: f.map digitChar) = some (⟨false, w, some f, none⟩, []) := by
  have hunsigned : unsigned false (w.map digitChar ++ '.' :: f.map digitChar) =
      some (⟨false, w, some f, none⟩, []) := by
    simp [unsigned, wholePart_plain h, fractionPart_plain h, exponentPart]
  have hw := h.whole_ne
  cases w with
  | nil => exact absurd rfl hw
  | cons d w =>
    have hminus := Decimal.digitChar_ne_minus (h.lt_ten d (List.mem_cons_self ..))
    exact (numeral_of_ne hminus).trans hunsigned

/-- A number with a point is its digits, divided by a power of ten. -/
theorem readNumber_plain (h : Plain w f) :
    readNumber (w.map digitChar ++ '.' :: f.map digitChar) =
      some (.real ((Binary64.ofNat (ofDigits (w ++ f))).div (powerOfTen f.length)), []) := by
  have hfits := h.fits
  rw [ofDigits, List.foldl_append] at hfits
  have hscaled : (⟨false, w, some f, none⟩ : Numeral).scaled =
      ⟨ofDigits (w ++ f), -f.length, false⟩ := by
    rw [Numeral.scaled, foldl_whole _ _ _ (Nat.lt_of_le_of_lt (Decimal.le_foldl f _) hfits)]
    dsimp only
    rw [foldl_fraction _ _ _ hfits, ofDigits, List.foldl_append]
    simp
  have hpos := List.length_pos_of_ne_nil h.fraction_ne
  have hle := h.length_le
  have hscale : scaleByTen (Binary64.ofNat (ofDigits (w ++ f))) (-f.length) =
      some ((Binary64.ofNat (ofDigits (w ++ f))).div (powerOfTen f.length)) := by
    rw [scaleByTen, if_neg (by omega), if_pos (by omega), Int.neg_neg, Int.toNat_natCast]
  simp [readNumber, numeral_plain h, Numeral.value, Numeral.magnitude, hscaled, hscale]

end Json

/-! ### What a target temperature reads as -/

namespace Shortest

open HomeHub.Decimal (digits digitChar ofDigits)

/-- Digits that stand for something from ten to thirty-eight. -/
def Between (w f : List Nat) : Prop :=
  f.length ≤ 16 ∧ 10 * 10 ^ f.length ≤ ofDigits (w ++ f) ∧
    ofDigits (w ++ f) ≤ 38 * 10 ^ f.length

lemma ofDigits_replicate (ds : List Nat) (n : Nat) :
    ofDigits (ds ++ List.replicate n 0) = ofDigits ds * 10 ^ n := by
  induction n with
  | zero => simp
  | succ n ih =>
    rw [List.replicate_succ', ← List.append_assoc, ofDigits, List.foldl_append, ← ofDigits, ih,
      Nat.pow_succ, ← Nat.mul_assoc]
    rfl

lemma exists_plain_of_whole {n e : Nat} (hlow : 10 ≤ n * 10 ^ e) (hhigh : n * 10 ^ e ≤ 38) :
    ∃ w f, layout ⟨n, e⟩ = w.map digitChar ++ '.' :: f.map digitChar ∧ Json.Plain w f ∧
      Between w f := by
  have hpos : 0 < n := Nat.pos_of_mul_pos_right (by omega : 0 < n * 10 ^ e)
  have he : e < 2 := (Nat.pow_lt_pow_iff_right (by decide : 1 < 10)).mp
    (Nat.lt_of_le_of_lt (Nat.le_mul_of_pos_left _ hpos) (by omega))
  have hn : n < 10 ^ 2 := Nat.lt_of_le_of_lt
    (Nat.le_mul_of_pos_right n (Nat.pow_pos (by decide : 0 < 10) : 0 < 10 ^ e)) (by omega)
  have hlen := HomeHub.Decimal.length_digits_le (by decide) hn
  have hne : digits n ≠ [] := List.ne_nil_of_length_pos (HomeHub.Decimal.length_digits_pos n)
  have hvalue : ofDigits (digits n ++ List.replicate e 0 ++ [0]) = n * 10 ^ e * 10 := by
    rw [ofDigits, List.foldl_append, ← ofDigits, ofDigits_replicate,
      HomeHub.Decimal.ofDigits_digits]
    rfl
  have hbetween : Between (digits n ++ List.replicate e 0) [0] := by
    unfold Between
    rw [hvalue]
    simp only [List.length_singleton]
    omega
  refine ⟨digits n ++ List.replicate e 0, [0], ?_, ⟨?_, ?_, by simp [hne], by simp, by simp, ?_⟩,
    hbetween⟩
  · have hlead : (e : Int) + ((digits n).map digitChar).length - 1 ≤ 15 := by
      rw [List.length_map]
      omega
    unfold layout
    dsimp only
    rw [HomeHub.Decimal.chars, if_pos ⟨Int.natCast_nonneg e, hlead⟩]
    simp [digitChar]
  · have hzeros : ∀ d ∈ List.replicate e 0, d < 10 := by
      intro d hd
      rw [List.eq_of_mem_replicate hd]
      decide
    exact List.forall_mem_append.mpr ⟨List.forall_mem_append.mpr
      ⟨fun _ => HomeHub.Decimal.lt_of_mem_digits, hzeros⟩, by simp⟩
  · rw [List.head?_append_of_ne_nil _ hne]
    exact HomeHub.Decimal.head?_digits_ne hpos
  · rw [hvalue]
    omega

lemma exists_plain_of_fraction {n j : Nat} (hj : 0 < j) (hj' : j ≤ 16) (hlow : 10 * 10 ^ j ≤ n)
    (hhigh : n ≤ 38 * 10 ^ j) :
    ∃ w f, layout ⟨n, -j⟩ = w.map digitChar ++ '.' :: f.map digitChar ∧ Json.Plain w f ∧
      Between w f := by
  have hpow : 0 < 10 ^ j := Nat.pow_pos (by decide)
  have hpow' : 10 ^ j ≤ 10 ^ 16 := Nat.pow_le_pow_right (by decide) hj'
  have hlen : (digits n).length = j + 2 := by
    have hlt : n < 10 ^ (j + 2) := by
      rw [Nat.pow_add]
      omega
    have hle : 10 ^ (j + 1) ≤ n := by
      rw [Nat.pow_add]
      omega
    have h1 := HomeHub.Decimal.length_digits_le (by omega) hlt
    have h2 := HomeHub.Decimal.lt_length_digits hle
    omega
  have hvalue : ofDigits ((digits n).take 2 ++ (digits n).drop 2) = n := by
    rw [List.take_append_drop, HomeHub.Decimal.ofDigits_digits]
  have hdrop : ((digits n).drop 2).length = j := by
    rw [List.length_drop, hlen]
    omega
  have hbetween : Between ((digits n).take 2) ((digits n).drop 2) := by
    unfold Between
    rw [hvalue, hdrop]
    exact ⟨hj', hlow, hhigh⟩
  refine ⟨_, _, ?_, ⟨?_, ?_, ?_, ?_, ?_, ?_⟩, hbetween⟩
  · have hlead : -(j : Int) + ((digits n).map digitChar).length - 1 = 1 := by
      rw [List.length_map, hlen]
      omega
    unfold layout
    dsimp only
    rw [HomeHub.Decimal.chars, if_neg (by omega), hlead, if_pos (by decide), List.map_take,
      List.map_drop]
    rfl
  · rw [List.take_append_drop]
    exact fun _ => HomeHub.Decimal.lt_of_mem_digits
  · rw [List.head?_take]
    exact HomeHub.Decimal.head?_digits_ne (by omega)
  · exact List.ne_nil_of_length_pos (by rw [List.length_take, hlen]; omega)
  · exact List.ne_nil_of_length_pos (by omega)
  · omega
  · rw [hvalue]
    omega

lemma exists_plain {t : Binary64} (h : Settings.Admissible t) :
    ∃ w f, chars t = w.map digitChar ++ '.' :: f.map digitChar ∧ Json.Plain w f ∧
      Between w f := by
  obtain ⟨hlow, hhigh⟩ := value_shortest h
  obtain ⟨-, hexp, -⟩ := short_shortest h
  rw [chars_eq_layout h]
  generalize shortest t.magnitude = d at hlow hhigh hexp
  obtain ⟨n, k⟩ := d
  dsimp only at hexp
  rw [Decimal.value] at hlow hhigh
  rcases Int.lt_or_le k 0 with hneg | hpos
  · obtain ⟨j, rfl⟩ : ∃ j : Nat, k = -j := ⟨k.natAbs, by omega⟩
    rw [zpow_neg, zpow_natCast, ← div_eq_mul_inv] at hlow hhigh
    rw [le_div_iff₀ (by positivity)] at hlow
    rw [div_le_iff₀ (by positivity)] at hhigh
    exact exists_plain_of_fraction (by omega) (by omega) (by exact_mod_cast hlow)
      (by exact_mod_cast hhigh)
  · obtain ⟨e, rfl⟩ := Int.eq_ofNat_of_zero_le hpos
    rw [zpow_natCast] at hlow hhigh
    exact exists_plain_of_whole (by exact_mod_cast hlow) (by exact_mod_cast hhigh)

end Shortest

namespace Settings

open Binary64 (units nearest)

/-- The bounds are numbers, moved by as many places as a text can have, and so are the powers of
ten. -/
lemma units_shifted : ∀ k ≤ 16, ∀ c ∈ [1, 10, 38],
    units (Binary64.ofNat (c * 10 ^ k)).magnitude = c * 10 ^ k * Nat.pow 2 1074 ∧
      (Binary64.ofNat (c * 10 ^ k)).isFinite = true := by
  decide +kernel

lemma units_digits {n k : Nat} (hk : k ≤ 16) (hlow : 10 * 10 ^ k ≤ n) (hhigh : n ≤ 38 * 10 ^ k) :
    10 * 10 ^ k * Nat.pow 2 1074 ≤ units (Binary64.ofNat n).magnitude ∧
      units (Binary64.ofNat n).magnitude ≤ 38 * 10 ^ k * Nat.pow 2 1074 ∧
      (Binary64.ofNat n).isFinite = true := by
  obtain ⟨hmin, hminFinite⟩ := units_shifted k hk 10 (by simp)
  obtain ⟨hmax, hmaxFinite⟩ := units_shifted k hk 38 (by simp)
  simp only [Binary64.isFinite, decide_eq_true_eq] at hminFinite hmaxFinite ⊢
  have hle : (Binary64.ofNat (10 * 10 ^ k)).magnitude ≤ (Binary64.ofNat n).magnitude := by
    refine Binary64.le_nearest Nat.one_pos (Nat.le_of_lt hminFinite) ?_
    rw [hmin, Nat.mul_one]
    exact Nat.mul_le_mul_right _ hlow
  have hle' : (Binary64.ofNat n).magnitude ≤ (Binary64.ofNat (38 * 10 ^ k)).magnitude := by
    refine Binary64.nearest_le Nat.one_pos ?_
    rw [hmax, Nat.mul_one]
    exact Nat.mul_le_mul_right _ hhigh
  rw [← hmin, ← hmax]
  exact ⟨Binary64.units_mono hle, Binary64.units_mono hle', Nat.lt_of_le_of_lt hle' hmaxFinite⟩

lemma admissible_quotient {n k : Nat} (hk : k ≤ 16) (hlow : 10 * 10 ^ k ≤ n)
    (hhigh : n ≤ 38 * 10 ^ k) : Admissible ((Binary64.ofNat n).div (Json.powerOfTen k)) := by
  obtain ⟨hle, hle', hfinite⟩ := units_digits hk hlow hhigh
  obtain ⟨hpow, hpowFinite⟩ : units (Json.powerOfTen k).magnitude = 10 ^ k * Nat.pow 2 1074 ∧
      (Json.powerOfTen k).isFinite = true := by
    have hone := units_shifted k hk 1 (by simp)
    rwa [Nat.one_mul] at hone
  have hmin : units minTarget.magnitude = 10 * Nat.pow 2 1074 := by decide +kernel
  have hmax : units maxTarget.magnitude = 38 * Nat.pow 2 1074 := by decide +kernel
  have hminFinite : minTarget.magnitude ≤ Binary64.infinite := by decide +kernel
  have hpos : 0 < units (Json.powerOfTen k).magnitude :=
    hpow ▸ Nat.mul_pos (Nat.pow_pos (by decide)) (by decide +kernel)
  rw [Binary64.div_eq hfinite hpowFinite hpos]
  refine ⟨rfl, Binary64.le_nearest hpos hminFinite ?_, Binary64.nearest_le hpos ?_⟩
  · rw [hmin, hpow]
    generalize Nat.pow 2 1074 = unit at hle ⊢
    calc 10 * unit * (10 ^ k * unit) = 10 * 10 ^ k * unit * unit := by ac_rfl
      _ ≤ units (Binary64.ofNat n).magnitude * unit := Nat.mul_le_mul_right _ hle
  · rw [hmax, hpow]
    generalize Nat.pow 2 1074 = unit at hle' ⊢
    calc units (Binary64.ofNat n).magnitude * unit ≤ 38 * 10 ^ k * unit * unit :=
          Nat.mul_le_mul_right _ hle'
      _ = 38 * unit * (10 ^ k * unit) := by ac_rfl

end Settings

/-- **The text of a target temperature reads as a target temperature.** -/
theorem Json.exists_readsAs {t : Binary64} (h : Settings.Admissible t) :
    ∃ u, Settings.Admissible u ∧ ReadsAs t u := by
  obtain ⟨w, f, hchars, hplain, hlength, hlow, hhigh⟩ := Shortest.exists_plain h
  refine ⟨_, Settings.admissible_quotient hlength hlow hhigh, ?_⟩
  rw [ReadsAs, hchars]
  exact readNumber_plain hplain

end HomeHub
