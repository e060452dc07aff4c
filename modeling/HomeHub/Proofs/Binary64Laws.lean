import Mathlib.Algebra.Group.Nat.Defs
import Mathlib.Tactic.Lemma
import HomeHub.Numeric.Binary64

/-!
Rounding does not go past a number: what is at least the value of a magnitude is rounded to that
magnitude or a higher one, and what is at most its value to that magnitude or a lower one. So adding
to a number does not make it smaller.
-/

namespace HomeHub.Binary64

lemma div_le_roundedDiv (a b : Nat) : a / b ≤ roundedDiv a b := by
  unfold roundedDiv
  dsimp only
  split <;> omega

lemma scale_mul_add_significand (m : Nat) : scale m * binade + significand m = m := by
  have hpos : 0 < binade := by decide
  rcases Nat.lt_or_ge m binade with h | h
  · simp [scale, significand, h, Nat.div_eq_of_lt h]
  · have hdiv : 1 ≤ m / binade := (Nat.one_le_div_iff hpos).mpr h
    have hsub : (m / binade - 1) * binade = m / binade * binade - binade := by
      rw [Nat.sub_mul, Nat.one_mul]
    have hle : binade ≤ m / binade * binade := by
      simpa using Nat.mul_le_mul_right binade hdiv
    have hmod := Nat.div_add_mod' m binade
    rw [scale, significand, if_neg (by omega), hsub]
    omega

lemma significand_lt (m : Nat) : significand m < 2 * binade := by
  have hmod := Nat.mod_lt m (by decide : 0 < binade)
  unfold significand
  split <;> omega

lemma le_significand {m : Nat} (h : 0 < scale m) : binade ≤ significand m := by
  have hm : ¬ m < binade := by
    intro hlt
    rw [scale, Nat.div_eq_of_lt hlt] at h
    omega
  rw [significand, if_neg hm]
  exact Nat.le_add_right _ _

lemma scale_le_log2 {m a : Nat} (h : units m ≤ a) : scale m ≤ a.log2 - 52 := by
  rcases Nat.eq_zero_or_pos (scale m) with h0 | hpos
  · omega
  · have hpow : 2 ^ (52 + scale m) ≤ a := by
      calc 2 ^ (52 + scale m) = binade * Nat.pow 2 (scale m) := Nat.pow_add 2 52 (scale m)
        _ ≤ units m := Nat.mul_le_mul_right _ (le_significand hpos)
        _ ≤ a := h
    have hne : a ≠ 0 := by
      have := Nat.two_pow_pos (52 + scale m)
      omega
    have := (Nat.le_log2 hne).mpr hpow
    omega

lemma units_lt (m : Nat) : units m < 2 ^ (53 + scale m) := by
  calc units m < 2 * binade * Nat.pow 2 (scale m) :=
        Nat.mul_lt_mul_of_pos_right (significand_lt m) (Nat.two_pow_pos _)
    _ = 2 ^ (53 + scale m) := (Nat.pow_add 2 53 (scale m)).symm

lemma log2_le_scale {m a : Nat} (h : a ≤ units m) : a.log2 - 52 ≤ scale m := by
  rcases Nat.eq_zero_or_pos a with rfl | hpos
  · simp
  · have hlog := (Nat.log2_lt (Nat.ne_of_gt hpos)).mpr (Nat.lt_of_le_of_lt h (units_lt m))
    omega

lemma units_lt_units {m n : Nat} (h : m < n) : units m < units n := by
  have hm := scale_mul_add_significand m
  have hn := scale_mul_add_significand n
  have hscale : scale m ≤ scale n := Nat.sub_le_sub_right (Nat.div_le_div_right (Nat.le_of_lt h)) 1
  rcases Nat.eq_or_lt_of_le hscale with he | hlt
  · rw [units, units, he]
    rw [he] at hm
    exact Nat.mul_lt_mul_of_pos_right (by omega) (Nat.two_pow_pos _)
  · calc units m < 2 ^ (53 + scale m) := units_lt m
      _ ≤ 2 ^ (52 + scale n) := Nat.pow_le_pow_right (by decide) (by omega)
      _ = binade * Nat.pow 2 (scale n) := Nat.pow_add 2 52 (scale n)
      _ ≤ units n := Nat.mul_le_mul_right _ (le_significand (by omega))

lemma units_mono {m n : Nat} (h : m ≤ n) : units m ≤ units n := by
  rcases Nat.eq_or_lt_of_le h with rfl | hlt
  · exact Nat.le_refl _
  · exact Nat.le_of_lt (units_lt_units hlt)

/-- **Rounding stays at or above every number that is at most the exact result.** -/
theorem le_nearest {m a b : Nat} (hb : 0 < b) (hm : m ≤ infinite) (h : units m * b ≤ a) :
    m ≤ nearest a b := by
  have hm' := scale_mul_add_significand m
  have hpow (e : Nat) : 0 < Nat.pow 2 e := Nat.two_pow_pos e
  have hq : units m ≤ a / b := (Nat.le_div_iff_mul_le hb).mpr h
  have hround := div_le_roundedDiv a (b * Nat.pow 2 ((a / b).log2 - 52))
  unfold nearest
  refine Nat.le_min.mpr ⟨hm, ?_⟩
  rw [← Nat.div_div_eq_div_mul] at hround
  generalize a / b = q at hq hround ⊢
  rcases Nat.eq_or_lt_of_le (scale_le_log2 hq) with he | hlt
  · -- within the binade of the magnitude the quotient is at least its significand
    have hsig : significand m ≤ q / Nat.pow 2 (q.log2 - 52) := by
      rw [Nat.le_div_iff_mul_le (hpow _), ← he]
      exact hq
    rw [← he] at hsig hround ⊢
    omega
  · -- and above it any quotient will do
    have hlead : binade ≤ q / Nat.pow 2 (q.log2 - 52) := by
      rw [Nat.le_div_iff_mul_le (hpow _)]
      calc binade * Nat.pow 2 (q.log2 - 52) = 2 ^ (52 + (q.log2 - 52)) :=
            (Nat.pow_add 2 52 (q.log2 - 52)).symm
        _ = 2 ^ q.log2 := by
          congr 1
          omega
        _ ≤ q := Nat.log2_self_le (by
          rintro rfl
          simp at hlt)
    have hmul : (scale m + 1) * binade ≤ (q.log2 - 52) * binade := Nat.mul_le_mul_right _ hlt
    have hsucc := Nat.add_one_mul (scale m) binade
    have hsig := significand_lt m
    omega

lemma roundedDiv_le {a b n : Nat} (hb : 0 < b) (h : a ≤ n * b) : roundedDiv a b ≤ n := by
  have hdiv := Nat.div_add_mod a b
  have hle : a / b ≤ n := Nat.div_le_of_le_mul (by rwa [Nat.mul_comm])
  unfold roundedDiv
  dsimp only
  rcases Nat.eq_or_lt_of_le hle with he | hlt
  · -- nothing is left over
    have hmod : a % b = 0 := by
      rw [he, Nat.mul_comm] at hdiv
      omega
    rw [hmod, if_pos (.inl (by omega))]
    exact hle
  · split <;> omega

/-- **Rounding stays at or below every number that is at least the exact result.** -/
theorem nearest_le {m a b : Nat} (hb : 0 < b) (h : a ≤ units m * b) : nearest a b ≤ m := by
  have hq : a / b ≤ units m := Nat.div_le_of_le_mul (by rwa [Nat.mul_comm])
  have hm := scale_mul_add_significand m
  refine Nat.le_trans (Nat.min_le_right _ _) ?_
  rcases Nat.eq_or_lt_of_le (log2_le_scale hq) with he | hlt
  · -- within the binade of the magnitude its significand is not exceeded
    have hround : roundedDiv a (b * Nat.pow 2 (scale m)) ≤ significand m := by
      refine roundedDiv_le (Nat.mul_pos hb (Nat.two_pow_pos _)) (Nat.le_trans h ?_)
      rw [units]
      exact Nat.le_of_eq (by ac_rfl)
    rw [he]
    omega
  · -- and below it no quotient reaches the next binade
    have hround : roundedDiv a (b * Nat.pow 2 ((a / b).log2 - 52)) ≤ 2 * binade := by
      refine roundedDiv_le (Nat.mul_pos hb (Nat.two_pow_pos _)) ?_
      have hlog : a / b < 2 ^ (53 + ((a / b).log2 - 52)) :=
        Nat.lt_of_lt_of_le Nat.lt_log2_self (Nat.pow_le_pow_right (by decide) (by omega))
      calc a ≤ 2 ^ (53 + ((a / b).log2 - 52)) * b :=
            Nat.le_of_lt ((Nat.div_lt_iff_lt_mul hb).mp hlog)
        _ = 2 * binade * Nat.pow 2 ((a / b).log2 - 52) * b := by
          rw [Nat.pow_add]
          rfl
        _ = 2 * binade * (b * Nat.pow 2 ((a / b).log2 - 52)) := by ac_rfl
    have hsig := le_significand (m := m) (by omega)
    have hmul : ((a / b).log2 - 52 + 1) * binade ≤ scale m * binade := Nat.mul_le_mul_right _ hlt
    have hsucc := Nat.add_one_mul ((a / b).log2 - 52) binade
    omega

lemma nearest_le_infinite (a b : Nat) : nearest a b ≤ infinite := Nat.min_le_left _ _

lemma not_isNaN {x : Binary64} (h : x.isFinite = true) : x.isNaN = false := by
  simp only [isFinite, decide_eq_true_eq] at h
  simp only [isNaN, decide_eq_false_iff_not]
  omega

lemma not_isInfinite {x : Binary64} (h : x.isFinite = true) : x.isInfinite = false := by
  simp only [isFinite, decide_eq_true_eq] at h
  simp only [isInfinite, beq_eq_false_iff_ne]
  omega

lemma div_eq {x y : Binary64} (hx : x.isFinite = true) (hy : y.isFinite = true)
    (hpos : 0 < units y.magnitude) :
    x.div y = ⟨x.negative != y.negative,
      nearest (units x.magnitude * Nat.pow 2 1074) (units y.magnitude)⟩ := by
  have hzero : y.isZero = false := by
    rw [isZero, beq_eq_false_iff_ne]
    intro h
    rw [h] at hpos
    exact absurd hpos (by decide)
  simp [div, not_isNaN hx, not_isNaN hy, not_isInfinite hx, not_isInfinite hy, hzero]

/-- A sum of finite numbers, neither of them negative, is a number and not below the first one. -/
theorem place_le_add {x y : Binary64} (hx : x.isFinite = true) (hy : y.isFinite = true)
    (hnx : x.negative = false) (hny : y.negative = false) :
    (x.add y).isNaN = false ∧ x.place ≤ (x.add y).place := by
  have hx1 := not_isNaN hx
  have hy1 := not_isNaN hy
  have hx2 := not_isInfinite hx
  have hy2 := not_isInfinite hy
  simp only [isFinite, decide_eq_true_eq] at hx
  have hsum : x.signedUnits + y.signedUnits =
      ((units x.magnitude + units y.magnitude : Nat) : Int) := by
    simp [signedUnits, hnx, hny]
  have hle : x.magnitude ≤ nearest (units x.magnitude + units y.magnitude) 1 :=
    le_nearest Nat.one_pos (by omega) (by omega)
  simp only [add, hx1, hy1, hx2, hy2, Bool.or_self, Bool.false_eq_true, if_false, hsum,
    Int.natAbs_natCast, hnx]
  split
  · rename_i h
    have h0 : units x.magnitude + units y.magnitude = 0 := by omega
    rw [h0] at hle
    have hzero : nearest 0 1 = 0 := by decide
    exact ⟨rfl, by simp [place, hnx]; omega⟩
  · have hneg : ¬ ((units x.magnitude + units y.magnitude : Nat) : Int) < 0 := by omega
    have hinf := nearest_le_infinite (units x.magnitude + units y.magnitude) 1
    simp only [isNaN, place, hnx, hneg, decide_false, Bool.false_eq_true, if_false]
    exact ⟨by simp; omega, by omega⟩

lemma lt_eq_of_same {x y : Binary64} (h : x.same y = true) (z : Binary64) : x.lt z = y.lt z := by
  simp only [same, Bool.and_eq_true, Bool.not_eq_true', beq_iff_eq] at h
  simp [lt, h.1.1, h.1.2, h.2]

lemma same_symm {x y : Binary64} (h : x.same y = true) : y.same x = true := by
  simp only [same, Bool.and_eq_true, Bool.not_eq_true', beq_iff_eq] at h ⊢
  exact ⟨⟨h.1.2, h.1.1⟩, h.2.symm⟩

lemma same_trans {x y z : Binary64} (h : x.same y = true) (h' : y.same z = true) :
    x.same z = true := by
  simp only [same, Bool.and_eq_true, Bool.not_eq_true', beq_iff_eq] at h h' ⊢
  exact ⟨⟨h.1.1, h'.1.2⟩, h.2.trans h'.2⟩

lemma same_self {x : Binary64} (h : x.isNaN = false) : x.same x = true := by simp [same, h]

lemma lt_of_lt_of_place_le {x y z : Binary64} (h : x.lt y = true) (hz : z.isNaN = false)
    (hle : y.place ≤ z.place) : x.lt z = true := by
  simp only [lt, Bool.and_eq_true, Bool.not_eq_true', decide_eq_true_eq] at h ⊢
  exact ⟨⟨h.1.1, hz⟩, by omega⟩

end HomeHub.Binary64
