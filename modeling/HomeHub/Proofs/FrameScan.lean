import Mathlib.Tactic.Lemma
import HomeHub.Protocol.Accumulator

/-!
Reading a whole byte stream as a one-pass scan, a byte a step.

Between frames the scan holds the bytes of the header so far, inside a frame also those of
its body, and inside a body that can never fit none. What a stream means, whatever pieces
it arrives in, is what the scan makes of it.
-/

namespace HomeHub.FrameScan

structure Scan where
  /-- The bytes of the unfinished header or frame. -/
  held : Bytes
  phase : Phase
  items : List Item
  malformed : Nat

def start : Scan := ⟨[], .header, [], 0⟩

/-- An item comes out, and the next byte is the first of a header. -/
def Scan.emit (s : Scan) (i : Item) : Scan :=
  { s with held := [], phase := .header, items := s.items ++ [i] }

variable (capacity : Nat)

/-- A semicolon behind the header held. -/
def close (s : Scan) : Scan :=
  match Frame.parseLength s.held with
  | none => { s with held := [], malformed := s.malformed + 1 }
  | some n =>
    if capacity < s.held.length + 1 + n then { s with held := [], phase := .skipping n }
    else if n = 0 then s.emit (.ok [])
    else
      { s with held := s.held ++ [Frame.delimiter], phase := .body (s.held.length + 1) n }

def step (s : Scan) (b : UInt8) : Scan :=
  match s.phase with
  | .header =>
    if b = Frame.delimiter then close capacity s
    else if s.held.length + 1 < capacity then { s with held := s.held ++ [b] }
    else s.emit (.error (.headerOverflow capacity))
  | .body h n =>
    if s.held.length + 1 < h + n then { s with held := s.held ++ [b] }
    else s.emit (.ok ((s.held ++ [b]).drop h))
  | .skipping remaining =>
    { s with phase := if remaining ≤ 1 then .header else .skipping (remaining - 1) }

def run (s : Scan) (w : Bytes) : Scan := w.foldl (step capacity) s

@[simp] lemma run_nil (s : Scan) : run capacity s [] = s := rfl
@[simp] lemma run_cons (s : Scan) (b : UInt8) (w : Bytes) :
    run capacity s (b :: w) = run capacity (step capacity s b) w := rfl
lemma run_append (s : Scan) (u v : Bytes) :
    run capacity s (u ++ v) = run capacity (run capacity s u) v := by
  simp [run, List.foldl_append]

/-! ### Items that came out before -/

/-- The same scan with items before its own. -/
def Scan.after (before : List Item) (s : Scan) : Scan := { s with items := before ++ s.items }

@[simp] lemma after_nil (s : Scan) : s.after [] = s := rfl

lemma after_after (u v : List Item) (s : Scan) : (s.after v).after u = s.after (u ++ v) := by
  simp [Scan.after]

lemma close_after (before : List Item) (s : Scan) :
    close capacity (s.after before) = (close capacity s).after before := by
  rcases h : Frame.parseLength s.held with _ | n
  · simp [close, Scan.after, h]
  · by_cases hfit : capacity < s.held.length + 1 + n
    · simp [close, Scan.after, h, hfit]
    · by_cases hn : n = 0
      · subst hn
        have : ¬ capacity < s.held.length + 1 := by omega
        simp [close, Scan.after, Scan.emit, h, this]
      · simp [close, Scan.after, h, hfit, hn]

lemma step_after (before : List Item) (s : Scan) (b : UInt8) :
    step capacity (s.after before) b = (step capacity s b).after before := by
  obtain ⟨held, phase, items, malformed⟩ := s
  cases phase with
  | header =>
    by_cases hb : b = Frame.delimiter
    · have h := close_after capacity before ⟨held, .header, items, malformed⟩
      simpa [step, hb, Scan.after] using h
    · by_cases hlen : held.length + 1 < capacity <;>
        simp [step, hb, hlen, Scan.after, Scan.emit]
  | body h n =>
    by_cases hlen : held.length + 1 < h + n <;> simp [step, hlen, Scan.after, Scan.emit]
  | skipping remaining => rfl

lemma run_after (before : List Item) (s : Scan) (w : Bytes) :
    run capacity (s.after before) w = (run capacity s w).after before := by
  induction w generalizing s with
  | nil => rfl
  | cons b w ih => rw [run_cons, run_cons, step_after, ih]

/-! ### Spans of a stream -/

variable {capacity}

lemma run_header {held u : Bytes} {items : List Item} {malformed : Nat}
    (hu : Frame.delimiter ∉ u) (hlen : held.length + u.length < capacity) :
    run capacity ⟨held, .header, items, malformed⟩ u =
      ⟨held ++ u, .header, items, malformed⟩ := by
  induction u generalizing held with
  | nil => simp
  | cons b u ih =>
    simp only [List.mem_cons, not_or, List.length_cons] at hu hlen
    have hstep : step capacity ⟨held, .header, items, malformed⟩ b =
        ⟨held ++ [b], .header, items, malformed⟩ := by
      have : held.length + 1 < capacity := by omega
      simp [step, Ne.symm hu.1, this]
    rw [run_cons, hstep, ih hu.2 (by simp only [List.length_append, List.length_singleton]; omega)]
    simp

lemma run_overflow {u : Bytes} {items : List Item} {malformed : Nat}
    (hu : Frame.delimiter ∉ u) (hlen : u.length = capacity) (hpos : 1 ≤ capacity) :
    run capacity ⟨[], .header, items, malformed⟩ u =
      ⟨[], .header, items ++ [.error (.headerOverflow capacity)], malformed⟩ := by
  rcases List.eq_nil_or_concat u with rfl | ⟨v, b, rfl⟩
  · simp only [List.length_nil] at hlen
    omega
  · simp only [List.concat_eq_append, List.mem_append, List.mem_singleton, not_or,
      List.length_append, List.length_singleton] at hu hlen ⊢
    rw [run_append, run_header hu.1 (by simp only [List.length_nil]; omega)]
    have : ¬ v.length + 1 < capacity := by omega
    simp [step, Ne.symm hu.2, this, Scan.emit]

lemma run_close {u : Bytes} {items : List Item} {malformed : Nat}
    (hu : Frame.delimiter ∉ u) (hlen : u.length < capacity) :
    run capacity ⟨[], .header, items, malformed⟩ (u ++ [Frame.delimiter]) =
      close capacity ⟨u, .header, items, malformed⟩ := by
  rw [run_append, run_header hu (by simpa using hlen)]
  simp [step]

lemma run_body_short {held u : Bytes} {h n : Nat} {items : List Item} {malformed : Nat}
    (hlen : held.length + u.length < h + n) :
    run capacity ⟨held, .body h n, items, malformed⟩ u =
      ⟨held ++ u, .body h n, items, malformed⟩ := by
  induction u generalizing held with
  | nil => simp
  | cons b u ih =>
    simp only [List.length_cons] at hlen
    have hstep : step capacity ⟨held, .body h n, items, malformed⟩ b =
        ⟨held ++ [b], .body h n, items, malformed⟩ := by
      have : held.length + 1 < h + n := by omega
      simp [step, this]
    rw [run_cons, hstep, ih (by simp only [List.length_append, List.length_singleton]; omega)]
    simp

lemma run_skipping_short {u held : Bytes} {remaining : Nat} {items : List Item} {malformed : Nat}
    (hlen : u.length < remaining) :
    run capacity ⟨held, .skipping remaining, items, malformed⟩ u =
      ⟨held, .skipping (remaining - u.length), items, malformed⟩ := by
  induction u generalizing remaining with
  | nil => simp
  | cons b u ih =>
    simp only [List.length_cons] at hlen
    have hstep : step capacity ⟨held, .skipping remaining, items, malformed⟩ b =
        ⟨held, .skipping (remaining - 1), items, malformed⟩ := by
      have : ¬ remaining ≤ 1 := by omega
      simp [step, this]
    rw [run_cons, hstep, ih (by omega), List.length_cons, Nat.sub_sub, Nat.add_comm 1]

lemma run_skipping {u held : Bytes} {remaining : Nat} {items : List Item} {malformed : Nat}
    (hpos : 0 < remaining) (hlen : u.length = remaining) :
    run capacity ⟨held, .skipping remaining, items, malformed⟩ u =
      ⟨held, .header, items, malformed⟩ := by
  rcases List.eq_nil_or_concat u with rfl | ⟨v, b, rfl⟩
  · simp only [List.length_nil] at hlen
    omega
  · simp only [List.concat_eq_append, List.length_append, List.length_singleton] at hlen ⊢
    rw [run_append, run_skipping_short (by omega)]
    have : remaining - v.length ≤ 1 := by omega
    simp [step, this]

/-! ### Frames of a stream -/

section Frames

variable {u : Bytes} {items : List Item} {malformed n : Nat}
variable (hu : Frame.delimiter ∉ u) (hlen : u.length < capacity)

include hu hlen

lemma run_malformed (hparse : Frame.parseLength u = none) :
    run capacity ⟨[], .header, items, malformed⟩ (u ++ [Frame.delimiter]) =
      ⟨[], .header, items, malformed + 1⟩ := by
  rw [run_close hu hlen]
  simp [close, hparse]

lemma run_oversized (hparse : Frame.parseLength u = some n)
    (hover : capacity < u.length + 1 + n) :
    run capacity ⟨[], .header, items, malformed⟩ (u ++ [Frame.delimiter]) =
      ⟨[], .skipping n, items, malformed⟩ := by
  rw [run_close hu hlen]
  simp [close, hparse, hover]

lemma run_frame_short {body : Bytes} (hparse : Frame.parseLength u = some n)
    (hfit : u.length + 1 + n ≤ capacity) (hbody : body.length < n) :
    run capacity ⟨[], .header, items, malformed⟩ (u ++ [Frame.delimiter] ++ body) =
      ⟨u ++ [Frame.delimiter] ++ body, .body (u.length + 1) n, items, malformed⟩ := by
  have hn : n ≠ 0 := by omega
  rw [run_append, run_close hu hlen]
  have hclose : close capacity ⟨u, .header, items, malformed⟩ =
      ⟨u ++ [Frame.delimiter], .body (u.length + 1) n, items, malformed⟩ := by
    simp [close, hparse, hn, Nat.not_lt.mpr hfit]
  rw [hclose, run_body_short (by simp only [List.length_append, List.length_singleton]; omega)]

lemma run_frame {body : Bytes} (hparse : Frame.parseLength u = some body.length)
    (hfit : u.length + 1 + body.length ≤ capacity) :
    run capacity ⟨[], .header, items, malformed⟩ (u ++ [Frame.delimiter] ++ body) =
      ⟨[], .header, items ++ [.ok body], malformed⟩ := by
  rcases List.eq_nil_or_concat body with rfl | ⟨v, b, rfl⟩
  · have hroom : ¬ capacity < u.length + 1 := by
      simp only [List.length_nil] at hfit
      omega
    rw [List.append_nil, run_close hu hlen]
    simp only [List.length_nil] at hparse
    simp [close, hparse, hroom, Scan.emit]
  · simp only [List.concat_eq_append, List.length_append, List.length_singleton] at hparse hfit ⊢
    rw [← List.append_assoc, run_append, run_frame_short hu hlen hparse hfit (by omega)]
    have hlast : ¬ (u ++ [Frame.delimiter] ++ v).length + 1 < u.length + 1 + (v.length + 1) := by
      simp only [List.length_append, List.length_singleton]
      omega
    have hdrop : (u ++ [Frame.delimiter] ++ (v ++ [b])).drop (u.length + 1) = v ++ [b] :=
      List.drop_left' (by simp)
    rw [run_cons, run_nil]
    simp only [step, hlast, if_false, Scan.emit]
    rw [List.append_assoc _ v, hdrop]

end Frames

/-! ### How much is held -/

section Within

variable {s : Scan} {w : Bytes}

/-- What is held is less than a full buffer, and an unfinished frame fits. -/
structure Scan.Within (capacity : Nat) (s : Scan) : Prop where
  held : s.held.length < capacity
  body : ∀ h n, s.phase = .body h n → s.held.length < h + n ∧ h + n ≤ capacity

lemma within_emit (hpos : 1 ≤ capacity) (s : Scan) (i : Item) : (s.emit i).Within capacity :=
  ⟨hpos, fun _ _ h => by simp [Scan.emit] at h⟩

lemma within_close (hpos : 1 ≤ capacity) (hp : s.phase = .header) :
    (close capacity s).Within capacity := by
  rcases hn : Frame.parseLength s.held with _ | n
  · simp only [close, hn]
    exact ⟨hpos, fun _ _ h => by simp [hp] at h⟩
  · by_cases hover : capacity < s.held.length + 1 + n
    · simp only [close, hn, if_pos hover]
      exact ⟨hpos, fun _ _ h => by simp at h⟩
    · by_cases hempty : n = 0
      · simp only [close, hn, if_neg hover, if_pos hempty]
        exact within_emit hpos s _
      · simp only [close, hn, if_neg hover, if_neg hempty]
        -- the header is in the buffer, and of the body a byte at least is not
        refine ⟨by simp only [List.length_append, List.length_singleton]; omega, ?_⟩
        rintro h m hbody
        obtain ⟨rfl, rfl⟩ := Phase.body.inj hbody
        simp only [List.length_append, List.length_singleton]
        omega

lemma within_step (hpos : 1 ≤ capacity) (hs : s.Within capacity) (b : UInt8) :
    (step capacity s b).Within capacity := by
  have hheld := hs.held
  rcases hp : s.phase with _ | ⟨h, n⟩ | remaining
  · simp only [step, hp]
    split
    · exact within_close hpos hp
    · split
      · refine ⟨by simpa using ‹s.held.length + 1 < capacity›, fun _ _ h => ?_⟩
        simp at h
      · exact within_emit hpos s _
  · obtain ⟨-, hfit⟩ := hs.body h n hp
    simp only [step, hp]
    split
    · refine ⟨by simp only [List.length_append, List.length_singleton]; omega, ?_⟩
      rintro k m hbody
      obtain ⟨rfl, rfl⟩ := Phase.body.inj hbody
      exact ⟨by simpa using ‹s.held.length + 1 < h + n›, hfit⟩
    · exact within_emit hpos s _
  · simp only [step, hp]
    refine ⟨hheld, fun _ _ h => ?_⟩
    split at h <;> cases h

lemma within_run (hpos : 1 ≤ capacity) (hs : s.Within capacity) :
    (run capacity s w).Within capacity := by
  induction w generalizing s with
  | nil => exact hs
  | cons b w ih => exact ih (within_step hpos hs b)

end Within

end HomeHub.FrameScan
