import HomeHub.Proofs.Binary64Laws
import HomeHub.Proofs.Checks
import HomeHub.Proofs.DecimalLaws
import HomeHub.Service.Thermostat

/-!
The settings of a thermostat stay in range, whatever is asked of it and whatever its record holds,
and settings in range are always short enough for a record.

The second half rests on a bound on the digits: a magnitude of a few tens has a leading digit of
known place, and sixteen places below it the search for the shortest text ends.
-/

namespace HomeHub

/-! ### The range -/

namespace Settings

/-- A target temperature in range. -/
structure Admissible (t : Binary64) : Prop where
  positive : t.negative = false
  le_magnitude : minTarget.magnitude ≤ t.magnitude
  magnitude_le : t.magnitude ≤ maxTarget.magnitude

def InRange (s : Settings) : Prop := Admissible s.target

lemma minTarget_eq : minTarget = ⟨false, 4621819117588971520⟩ := by decide +kernel

lemma maxTarget_eq : maxTarget = ⟨false, 4630544841867001856⟩ := by decide +kernel

lemma infinite_eq : Binary64.infinite = 9218868437227405312 := by decide +kernel

lemma admissible_iff {t : Binary64} : Admissible t ↔
    t.negative = false ∧ 4621819117588971520 ≤ t.magnitude ∧ t.magnitude ≤ 4630544841867001856 := by
  constructor
  · rintro ⟨h, hlow, hhigh⟩
    rw [minTarget_eq] at hlow
    rw [maxTarget_eq] at hhigh
    exact ⟨h, hlow, hhigh⟩
  · rintro ⟨h, hlow, hhigh⟩
    refine ⟨h, ?_, ?_⟩
    · rw [minTarget_eq]
      exact hlow
    · rw [maxTarget_eq]
      exact hhigh

lemma admissible_minTarget : Admissible minTarget := by
  rw [admissible_iff, minTarget_eq]
  simp only [true_and]
  omega

lemma admissible_maxTarget : Admissible maxTarget := by
  rw [admissible_iff, maxTarget_eq]
  simp only [true_and]
  omega

lemma Admissible.isFinite {t : Binary64} (h : Admissible t) : t.isFinite = true := by
  obtain ⟨-, -, hle⟩ := admissible_iff.mp h
  rw [Binary64.isFinite, infinite_eq, decide_eq_true_eq]
  omega

lemma Admissible.not_isNaN {t : Binary64} (h : Admissible t) : t.isNaN = false :=
  Binary64.not_isNaN h.isFinite

lemma not_lt_iff {x y : Binary64} (hx : x.isNaN = false) (hy : y.isNaN = false) :
    ¬ x.lt y = true ↔ y.place ≤ x.place := by
  simp [Binary64.lt, hx, hy]

theorem admissible_clamp (t : Binary64) : Admissible (clamp t) := by
  unfold clamp
  split
  · exact admissible_minTarget
  · rename_i hnan
    rw [Bool.not_eq_true] at hnan
    split
    · exact admissible_minTarget
    · rename_i hlow
      split
      · exact admissible_maxTarget
      · -- neither below nor above, and a number at all
        rename_i hhigh
        rw [not_lt_iff hnan admissible_minTarget.not_isNaN, minTarget_eq] at hlow
        rw [not_lt_iff admissible_maxTarget.not_isNaN hnan, maxTarget_eq] at hhigh
        rw [admissible_iff]
        cases hneg : t.negative with
        | false =>
          simp only [Binary64.place, hneg, Bool.false_eq_true, if_false] at hlow hhigh
          exact ⟨rfl, by omega, by omega⟩
        | true =>
          simp only [Binary64.place, hneg, Bool.false_eq_true, if_true, if_false] at hlow
          omega

lemma Admissible.not_lt {t : Binary64} (h : Admissible t) : t.lt minTarget = false := by
  rw [← Bool.not_eq_true, not_lt_iff h.not_isNaN admissible_minTarget.not_isNaN]
  simp only [Binary64.place, h.positive, admissible_minTarget.positive, Bool.false_eq_true,
    if_false]
  exact Int.ofNat_le.mpr h.le_magnitude

lemma Admissible.not_gt {t : Binary64} (h : Admissible t) : maxTarget.lt t = false := by
  rw [← Bool.not_eq_true, not_lt_iff admissible_maxTarget.not_isNaN h.not_isNaN]
  simp only [Binary64.place, h.positive, admissible_maxTarget.positive, Bool.false_eq_true,
    if_false]
  exact Int.ofNat_le.mpr h.magnitude_le

lemma Admissible.clamp_eq {t : Binary64} (h : Admissible t) : clamp t = t := by
  simp [clamp, h.not_isNaN, h.not_lt, h.not_gt]

lemma admissible_iff_not_lt {t : Binary64} : Admissible t ↔
    t.isNaN = false ∧ t.lt minTarget = false ∧ maxTarget.lt t = false := by
  constructor
  · exact fun h => ⟨h.not_isNaN, h.not_lt, h.not_gt⟩
  · rintro ⟨hnan, hlow, hhigh⟩
    have hclamp : clamp t = t := by simp [clamp, hnan, hlow, hhigh]
    exact hclamp ▸ admissible_clamp t

lemma same_iff {s t : Settings} (hs : s.InRange) (ht : t.InRange) : s.same t = true ↔ s = t := by
  obtain ⟨⟨ns, ms⟩, cs, ws⟩ := s
  obtain ⟨⟨nt, mt⟩, ct, wt⟩ := t
  have h1 := Admissible.not_isNaN hs
  have h2 := Admissible.not_isNaN ht
  obtain rfl : ns = false := hs.positive
  obtain rfl : nt = false := ht.positive
  simp only [same, Binary64.same, h1, h2, Binary64.place, Bool.false_eq_true, if_false,
    Bool.not_false, Bool.true_and, Bool.and_eq_true, beq_iff_eq, mk.injEq, Binary64.mk.injEq,
    true_and, and_assoc]
  exact and_congr_left fun _ => Int.ofNat_inj

lemma inRange_default : default.InRange := admissible_minTarget

theorem inRange_ofRecord? {r : Record} {s : Settings} (h : ofRecord? r = some s) : s.InRange := by
  unfold ofRecord? at h
  split at h
  · cases h
  · obtain ⟨t, -, rfl⟩ := Option.map_eq_some_iff.mp h
    exact admissible_clamp _

lemma admissible_changedField {members : List (String × Json)} {current t : Binary64}
    (h : Admissible current)
    (hc : changedField targetField (fun f v => (asNumber f v).map clamp) members current = .ok t) :
    Admissible t := by
  unfold changedField at hc
  rcases hm : Json.member? targetField members with _ | v <;> rw [hm] at hc
  · obtain rfl := Except.ok.inj hc
    exact h
  · obtain ⟨x, -, rfl⟩ := map_eq_ok.mp hc
    exact admissible_clamp x

theorem inRange_change {s t : Settings} {body : Json} (h : s.InRange)
    (hc : s.change body = .ok t) : t.InRange := by
  have key (members : List (String × Json)) (hm : s.changedBy members = .ok t) : t.InRange := by
    obtain ⟨target, htarget, hm⟩ := bind_eq_ok.mp hm
    obtain ⟨celsius, -, hm⟩ := bind_eq_ok.mp hm
    obtain ⟨winter, -, hm⟩ := bind_eq_ok.mp hm
    obtain rfl := Except.ok.inj hm
    exact admissible_changedField h htarget
  cases body with
  | object members => exact key members hc
  | null => exact key [] hc
  | _ => cases hc

end Settings

/-! ### The length of the text -/

namespace Shortest

lemma one_pos : 0 < one := by decide +kernel

lemma Interval.below_lt {i : Interval} {k : Int} (hv : i.centre < 64 * one) (hk : -16 ≤ k) :
    i.below k < 64 * 10 ^ 16 := by
  have hone := one_pos
  cases k with
  | ofNat n =>
    have hpow : 0 < Nat.pow 10 n := Nat.pow_pos (by decide)
    refine Nat.div_lt_of_lt_mul (Nat.lt_of_lt_of_le hv ?_)
    calc 64 * one ≤ one * (64 * 10 ^ 16) := by omega
      _ ≤ 1 * Nat.pow 10 n * one * (64 * 10 ^ 16) := by
        rw [Nat.one_mul]
        exact Nat.mul_le_mul_right _ (Nat.le_mul_of_pos_left _ hpow)
  | negSucc n =>
    have hpow : Nat.pow 10 (n + 1) ≤ 10 ^ 16 := Nat.pow_le_pow_right (by decide) (by omega)
    have hpos : 0 < Nat.pow 10 (n + 1) := Nat.pow_pos (by decide)
    refine Nat.div_lt_of_lt_mul ?_
    calc i.centre * Nat.pow 10 (n + 1) < 64 * one * Nat.pow 10 (n + 1) :=
          Nat.mul_lt_mul_of_pos_right hv hpos
      _ ≤ 64 * one * 10 ^ 16 := Nat.mul_le_mul_left _ hpow
      _ = 1 * one * (64 * 10 ^ 16) := by omega

/-- A decimal with at most eighteen digits, of which the last one stands near the point. -/
structure Short (d : Decimal) : Prop where
  digits_lt : d.digits < 10 ^ 18
  le_exponent : -16 ≤ d.exponent
  exponent_le : d.exponent ≤ 21

lemma Interval.nearer_le (i : Interval) (n : Nat) (k : Int) : i.nearer n k ≤ n + 1 := by
  unfold nearer
  dsimp only
  split
  · omega
  · split
    · omega
    · split <;> omega

lemma Interval.onGrid_le {i : Interval} {k : Int} {n : Nat} (h : i.onGrid k = some n) :
    n ≤ i.below k + 1 := by
  have hnear := i.nearer_le (i.below k) k
  unfold onGrid at h
  dsimp only at h
  split at h <;> simp only [Option.some.injEq, reduceCtorEq] at h <;> omega

lemma Interval.search_bounds {i : Interval} (hv : i.centre < 64 * one) (count : Nat) (k : Int)
    (hk : count - 16 ≤ k) (hle : k ≤ 1) :
    (i.search count k).digits ≤ 64 * 10 ^ 16 ∧ -16 ≤ (i.search count k).exponent ∧
      (i.search count k).exponent ≤ 1 := by
  have hbelow : i.below k < 64 * 10 ^ 16 := below_lt hv (by omega)
  induction count generalizing k with
  | zero =>
    have hnear := i.nearer_le (i.below k) k
    refine ⟨?_, ?_, hle⟩ <;> simp only [search] <;> omega
  | succ count ih =>
    rw [search]
    split
    · rename_i n hgrid
      have hn := onGrid_le hgrid
      refine ⟨?_, ?_, hle⟩ <;> dsimp only <;> omega
    · exact ih _ (by omega) (by omega) (below_lt hv (by omega))

lemma strip_bounds (fuel : Nat) (d : Decimal) :
    (d.strip fuel).digits ≤ d.digits ∧ d.exponent ≤ (d.strip fuel).exponent ∧
      (d.strip fuel).exponent ≤ d.exponent + fuel := by
  induction fuel generalizing d with
  | zero => simp [Decimal.strip]
  | succ fuel ih =>
    rw [Decimal.strip]
    split
    · obtain ⟨h1, h2, h3⟩ := ih ⟨d.digits / 10, d.exponent + 1⟩
      simp only at h1 h2 h3
      omega
    · omega

lemma units_minTarget : 2 * Binary64.units Settings.minTarget.magnitude = 10 * one := by
  decide +kernel

lemma units_maxTarget : 2 * Binary64.units Settings.maxTarget.magnitude = 38 * one := by
  decide +kernel

lemma centre_bounds {t : Binary64} (h : Settings.Admissible t) :
    10 * one ≤ (Interval.of t.magnitude).centre ∧
      (Interval.of t.magnitude).centre ≤ 38 * one := by
  have hlow := Binary64.units_mono h.le_magnitude
  have hhigh := Binary64.units_mono h.magnitude_le
  have hcentre : (Interval.of t.magnitude).centre = 2 * Binary64.units t.magnitude := rfl
  have hmin := units_minTarget
  have hmax := units_maxTarget
  omega

lemma lead_bounds {t : Binary64} (h : Settings.Admissible t) :
    0 ≤ leadingExponent (Interval.of t.magnitude).centre ∧
      leadingExponent (Interval.of t.magnitude).centre ≤ 1 := by
  obtain ⟨hlow, hhigh⟩ := centre_bounds h
  have hone := one_pos
  have hdiv : (Interval.of t.magnitude).centre / one < 10 ^ 2 :=
    Nat.div_lt_of_lt_mul (by omega)
  have hlen := HomeHub.Decimal.length_digits_le (by decide) hdiv
  have hpos := HomeHub.Decimal.length_digits_pos ((Interval.of t.magnitude).centre / one)
  rw [leadingExponent, if_pos (by omega)]
  omega

lemma short_shortest {t : Binary64} (h : Settings.Admissible t) : Short (shortest t.magnitude) := by
  obtain ⟨-, hhigh⟩ := centre_bounds h
  obtain ⟨hlead, hlead'⟩ := lead_bounds h
  have hone := one_pos
  obtain ⟨h1, h2, h3⟩ := Interval.search_bounds (i := Interval.of t.magnitude) (by omega) 16
    (leadingExponent (Interval.of t.magnitude).centre) (by omega) (by omega)
  obtain ⟨h4, h5, h6⟩ := strip_bounds 20 ((Interval.of t.magnitude).search 16
    (leadingExponent (Interval.of t.magnitude).centre))
  refine ⟨?_, ?_, ?_⟩ <;> unfold shortest <;> dsimp only <;> omega

lemma length_layout_le {d : Decimal} (h : Short d) : (layout d).length ≤ 24 := by
  obtain ⟨hd, hlow, hhigh⟩ := h
  have hlen : (HomeHub.Decimal.chars d.digits).length ≤ 18 := by
    rw [HomeHub.Decimal.chars, List.length_map]
    exact HomeHub.Decimal.length_digits_le (by decide) hd
  have hpos : 0 < (HomeHub.Decimal.chars d.digits).length := by
    rw [HomeHub.Decimal.chars, List.length_map]
    exact HomeHub.Decimal.length_digits_pos _
  unfold layout
  generalize HomeHub.Decimal.chars d.digits = ds at hlen hpos
  dsimp only
  split
  · simp only [List.length_append, List.length_replicate, List.length_cons, List.length_nil]
    omega
  · split
    · simp only [List.length_append, List.length_take, List.length_cons, List.length_drop]
      omega
    · split
      · simp only [List.length_append, List.length_replicate, List.length_cons]
        omega
      · have hexp : (HomeHub.Decimal.chars (d.exponent + ds.length - 1).natAbs).length ≤ 2 := by
          rw [HomeHub.Decimal.chars, List.length_map]
          exact HomeHub.Decimal.length_digits_le (by decide) (by omega)
        simp only [List.length_append, List.length_cons]
        split <;> simp only [List.length_cons, List.length_nil] at * <;> omega

lemma chars_eq_layout {t : Binary64} (h : Settings.Admissible t) :
    chars t = layout (shortest t.magnitude) := by
  obtain ⟨hneg, hlow, -⟩ := Settings.admissible_iff.mp h
  have hzero : t.isZero = false := by
    rw [Binary64.isZero, beq_eq_false_iff_ne]
    omega
  simp only [chars, hneg, hzero, Bool.false_eq_true, if_false]

lemma length_chars_le {t : Binary64} (h : Settings.Admissible t) : (chars t).length ≤ 24 := by
  rw [chars_eq_layout h]
  exact length_layout_le (short_shortest h)

end Shortest

/-! ### The record -/

lemma Utf8.length_encode_le (cs : List Char) : (encode cs).length ≤ 4 * cs.length := by
  have hchar (c : Char) : (encodeChar c).length ≤ 4 := by
    unfold encodeChar
    dsimp only
    split
    · simp
    · split
      · simp
      · split <;> simp
  induction cs with
  | nil => simp [encode]
  | cons c cs ih =>
    have := hchar c
    rw [encode, List.flatMap_cons, List.length_append, List.length_cons]
    rw [encode] at ih
    omega

lemma Utf8.encode_append (cs ds : List Char) : encode (cs ++ ds) = encode cs ++ encode ds :=
  List.flatMap_append

namespace Settings

lemma chars_toJson {s : Settings} (h : s.InRange) :
    s.toJson.chars = ('{' :: (Json.stringChars targetField ++ [':'])) ++
      (Shortest.chars s.target ++ ((',' :: (Json.stringChars celsiusField ++ [':'])) ++
        ((Json.bool s.celsius).chars ++ ((',' :: (Json.stringChars winterField ++ [':'])) ++
          ((Json.bool s.winter).chars ++ ['}']))))) := by
  obtain ⟨t, c, w⟩ := s
  cases c <;> cases w <;>
    simp [toJson, Json.chars, Json.membersChars, Json.ofBinary64, Admissible.isFinite h,
      Json.Number.chars]

lemma length_bytes_toJson {s : Settings} (h : s.InRange) :
    s.toJson.bytes.length ≤ Record.maxPayload := by
  have hnumber := Shortest.length_chars_le h
  have hencode := Utf8.length_encode_le (Shortest.chars s.target)
  have htruth (b : Bool) : (Utf8.encode (Json.bool b).chars).length ≤ 5 := by
    cases b <;> decide
  have h1 := htruth s.celsius
  have h2 := htruth s.winter
  have h3 : (Utf8.encode ('{' :: (Json.stringChars targetField ++ [':']))).length = 22 := by decide
  have h4 : (Utf8.encode (',' :: (Json.stringChars celsiusField ++ [':']))).length = 11 := by decide
  have h5 : (Utf8.encode (',' :: (Json.stringChars winterField ++ [':']))).length = 10 := by decide
  have h6 : (Utf8.encode ['}']).length = 1 := by decide
  rw [Json.bytes, chars_toJson h]
  simp only [Utf8.encode_append, List.length_append]
  simp only [Record.maxPayload, Record.checksumOffset, Record.headerLength]
  omega

/-- **Settings in range can be recorded.** -/
theorem exists_record {s : Settings} (h : s.InRange) : ∃ r, Record.ofJson s.toJson = .ok r :=
  ⟨_, dif_pos (length_bytes_toJson h)⟩

end Settings

end HomeHub
