import Mathlib.Tactic.Lemma
import Mathlib.Tactic.SplitIfs
import HomeHub.Text.Utf8

/-!
A text is read back from its bytes. The first byte of a character says how many more there are and
has its highest bits, and each of these has six more.
-/

namespace HomeHub.Utf8

variable {s : Scan} {n : Nat}

lemma toNat_byte (h : n < 0x100) : (UInt8.ofNat n).toNat = n := by
  rw [UInt8.toNat_ofNat']
  omega

lemma step_single (hs : s.owed = 0) (hn : n < 0x80) :
    s.step (UInt8.ofNat n) = some { s with read := Char.ofNat n :: s.read } := by
  simp only [Scan.step, toNat_byte (show n < 0x100 by omega), hs, if_true, if_pos hn]

lemma step_first (hs : s.owed = 0) :
    (n < 0x20 → s.step (UInt8.ofNat (0xC0 + n)) =
      some { s with owed := 1, bits := n, floor := 0x80 }) ∧
    (n < 0x10 → s.step (UInt8.ofNat (0xE0 + n)) =
      some { s with owed := 2, bits := n, floor := 0x800 }) ∧
    (n < 0x08 → s.step (UInt8.ofNat (0xF0 + n)) =
      some { s with owed := 3, bits := n, floor := 0x10000 }) := by
  refine ⟨fun hn => ?_, fun hn => ?_, fun hn => ?_⟩
  · simp only [Scan.step, toNat_byte (show 0xC0 + n < 0x100 by omega), hs, if_true]
    rw [if_neg (by omega), if_neg (by omega), if_pos (by omega), Nat.add_sub_cancel_left]
  · simp only [Scan.step, toNat_byte (show 0xE0 + n < 0x100 by omega), hs, if_true]
    rw [if_neg (by omega), if_neg (by omega), if_neg (by omega), if_pos (by omega),
      Nat.add_sub_cancel_left]
  · simp only [Scan.step, toNat_byte (show 0xF0 + n < 0x100 by omega), hs, if_true]
    rw [if_neg (by omega), if_neg (by omega), if_neg (by omega), if_neg (by omega),
      if_pos (by omega), Nat.add_sub_cancel_left]

lemma step_next (hs : 2 ≤ s.owed) (hbits : s.bits = n / 64) :
    s.step (UInt8.ofNat (0x80 + n % 64)) = some { s with owed := s.owed - 1, bits := n } := by
  have hn : s.bits * 64 + n % 64 = n := by omega
  simp only [Scan.step, toNat_byte (show 0x80 + n % 64 < 0x100 by omega), Nat.add_sub_cancel_left,
    hn]
  rw [if_neg (by omega), if_neg (by omega), if_neg (by omega)]

lemma step_last (hs : s.owed = 1) (hbits : s.bits = n / 64) (hfloor : s.floor ≤ n)
    (hvalid : n.isValidChar) :
    s.step (UInt8.ofNat (0x80 + n % 64)) =
      some { s with owed := 0, read := Char.ofNat n :: s.read } := by
  have hn : s.bits * 64 + n % 64 = n := by omega
  simp only [Scan.step, toNat_byte (show 0x80 + n % 64 < 0x100 by omega), Nat.add_sub_cancel_left,
    hn]
  rw [if_neg (by omega), if_neg (by omega), if_pos hs, if_pos ⟨hfloor, hvalid⟩]

lemma run_cons (b : UInt8) (bs : Bytes) : s.run (b :: bs) = (s.step b).bind (·.run bs) :=
  List.foldlM_cons

lemma run_append (bs bs' : Bytes) : s.run (bs ++ bs') = (s.run bs).bind (·.run bs') :=
  List.foldlM_append

lemma run_encodeChar (hs : s.owed = 0) (c : Char) :
    ∃ t, s.run (encodeChar c) = some t ∧ t.owed = 0 ∧ t.read = c :: s.read := by
  have hvalid : c.toNat.isValidChar := c.valid
  have hchar : Char.ofNat c.toNat = c := Char.ofNat_toNat c
  unfold encodeChar
  generalize c.toNat = n at hvalid hchar
  subst hchar
  have hsize : n < 0x110000 := by
    rcases hvalid with h | h <;> omega
  dsimp only
  split_ifs with h1 h2 h3
  · refine ⟨{ s with read := Char.ofNat n :: s.read }, ?_, hs, rfl⟩
    rw [run_cons, step_single hs h1]
    rfl
  · refine ⟨⟨0, n / 64, 0x80, Char.ofNat n :: s.read⟩, ?_, rfl, rfl⟩
    rw [run_cons, (step_first hs).1 (by omega), Option.bind_some, run_cons,
      step_last rfl rfl (Nat.le_of_not_lt h1) hvalid]
    rfl
  · refine ⟨⟨0, n / 64, 0x800, Char.ofNat n :: s.read⟩, ?_, rfl, rfl⟩
    rw [run_cons, (step_first hs).2.1 (by omega), Option.bind_some, run_cons,
      step_next (Nat.le_refl 2) (Nat.div_div_eq_div_mul n 64 64).symm, Option.bind_some, run_cons,
      step_last rfl rfl (Nat.le_of_not_lt h2) hvalid]
    rfl
  · refine ⟨⟨0, n / 64, 0x10000, Char.ofNat n :: s.read⟩, ?_, rfl, rfl⟩
    rw [run_cons, (step_first hs).2.2 (by omega), Option.bind_some, run_cons,
      step_next (Nat.le_succ 2) (Nat.div_div_eq_div_mul n 4096 64).symm, Option.bind_some, run_cons,
      step_next (Nat.le_refl 2) (Nat.div_div_eq_div_mul n 64 64).symm, Option.bind_some, run_cons,
      step_last rfl rfl (Nat.le_of_not_lt h3) hvalid]
    rfl

lemma run_encode (hs : s.owed = 0) (cs : List Char) :
    ∃ t, s.run (encode cs) = some t ∧ t.owed = 0 ∧ t.read = cs.reverse ++ s.read := by
  induction cs generalizing s with
  | nil => exact ⟨s, rfl, hs, rfl⟩
  | cons c cs ih =>
    obtain ⟨t, ht, howed, hread⟩ := run_encodeChar hs c
    obtain ⟨u, hu, howed', hread'⟩ := ih howed
    refine ⟨u, ?_, howed', ?_⟩
    · rw [encode, List.flatMap_cons, run_append, ht]
      exact hu
    · rw [hread', hread]
      simp

/-- **A text is read back from its bytes.** -/
theorem decode?_encode (cs : List Char) : decode? (encode cs) = some cs := by
  obtain ⟨t, ht, howed, hread⟩ := run_encode (s := Scan.start) rfl cs
  have hread' : t.read.reverse = cs := by
    rw [hread, Scan.start, List.append_nil, List.reverse_reverse]
  simp only [decode?, ht, howed, if_true, hread']

end HomeHub.Utf8
