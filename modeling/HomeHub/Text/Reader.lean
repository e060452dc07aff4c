/-!
Readers of text: a reader takes a value off the start of a text and gives the rest, or refuses.
-/

namespace HomeHub

abbrev Reader (α : Type) := List Char → Option (α × List Char)

namespace Reader

/-- The value of a hexadecimal digit. -/
def hexDigit? (c : Char) : Option Nat :=
  let n := c.toNat
  if 48 ≤ n ∧ n ≤ 57 then some (n - 48)
  else if 65 ≤ n ∧ n ≤ 70 then some (n - 55)
  else if 97 ≤ n ∧ n ≤ 102 then some (n - 87)
  else none

/-- A fixed number of hexadecimal digits. -/
def hex : (count : Nat) → (acc : Nat) → Reader Nat
  | 0, acc, s => some (acc, s)
  | _ + 1, _, [] => none
  | k + 1, acc, c :: rest => (hexDigit? c).bind fun d => hex k (acc * 16 + d) rest

theorem length_hex {k acc n : Nat} {s r : List Char} (h : hex k acc s = some (n, r)) :
    r.length + k = s.length := by
  induction k generalizing acc s with
  | zero => simp only [hex, Option.some.injEq, Prod.mk.injEq] at h; simp [h.2]
  | succ k ih =>
    cases s with
    | nil => simp [hex] at h
    | cons c rest =>
      simp only [hex, Option.bind_eq_some_iff] at h
      obtain ⟨d, _, hd⟩ := h
      have := ih hd
      simp only [List.length_cons]
      omega

end Reader

end HomeHub
