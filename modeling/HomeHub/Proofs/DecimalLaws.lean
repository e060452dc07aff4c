import Mathlib.Algebra.Group.Nat.Defs
import Mathlib.Tactic.Lemma
import HomeHub.Text.Decimal

/-!
Decimal numerals: how long they are, which digits stand in them, and that they spell their number.
-/

namespace HomeHub.Decimal

lemma length_digits_pos (n : Nat) : 0 < (digits n).length := by
  rw [digits]
  split <;> simp

lemma length_digits_le {n k : Nat} (hk : 0 < k) (h : n < 10 ^ k) : (digits n).length ≤ k := by
  induction k generalizing n with
  | zero => omega
  | succ k ih =>
    rw [digits]
    split
    · simp
    · rename_i hn
      have hpos : 0 < k := by
        rcases Nat.eq_zero_or_pos k with rfl | hpos
        · omega
        · exact hpos
      have hdiv : n / 10 < 10 ^ k := by
        rw [Nat.pow_succ] at h
        omega
      have := ih hpos hdiv
      rw [List.length_append, List.length_singleton]
      omega

lemma lt_pow_length_digits (n : Nat) : n < 10 ^ (digits n).length := by
  fun_induction digits n with
  | case1 n hn => simpa using hn
  | case2 n hn ih =>
    rw [List.length_append, List.length_singleton, Nat.pow_succ]
    omega

lemma lt_length_digits {n k : Nat} (h : 10 ^ k ≤ n) : k < (digits n).length :=
  (Nat.pow_lt_pow_iff_right (by decide)).mp (Nat.lt_of_le_of_lt h (lt_pow_length_digits n))

lemma lt_of_mem_digits {n d : Nat} (h : d ∈ digits n) : d < 10 := by
  fun_induction digits n with
  | case1 n hn =>
    obtain rfl := List.mem_singleton.mp h
    exact hn
  | case2 n hn ih =>
    rw [List.mem_append, List.mem_singleton] at h
    rcases h with h | rfl
    · exact ih h
    · omega

lemma head?_digits_ne {n : Nat} (h : 0 < n) : (digits n).head? ≠ some 0 := by
  fun_induction digits n with
  | case1 n hn => simpa using Nat.ne_of_gt h
  | case2 n hn ih =>
    have hne : digits (n / 10) ≠ [] := List.ne_nil_of_length_pos (length_digits_pos _)
    rw [List.head?_append, List.head?_eq_some_head hne, Option.some_or,
      ← List.head?_eq_some_head hne]
    exact ih (by omega)

lemma digit?_digitChar {d : Nat} (h : d < 10) : digit? (digitChar d) = some d := by
  have hall : ∀ d < 10, digit? (digitChar d) = some d := by decide +kernel
  exact hall d h

lemma digitChar_ne_minus {d : Nat} (h : d < 10) : digitChar d ≠ '-' := by
  have hall : ∀ d < 10, digitChar d ≠ '-' := by decide +kernel
  exact hall d h

lemma le_foldl (ds : List Nat) (n : Nat) : n ≤ ds.foldl (fun n d => n * 10 + d) n := by
  induction ds generalizing n with
  | nil => exact Nat.le_refl n
  | cons d ds ih => exact Nat.le_trans (by omega) (ih (n * 10 + d))

theorem ofDigits_digits (n : Nat) : ofDigits (digits n) = n := by
  fun_induction digits n with
  | case1 n hn => simp [ofDigits]
  | case2 n hn ih =>
    rw [ofDigits, List.foldl_append, ← ofDigits, ih]
    simp only [List.foldl_cons, List.foldl_nil]
    omega

end HomeHub.Decimal
