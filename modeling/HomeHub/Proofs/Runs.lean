import Mathlib.Tactic.Lemma

/-!
Runs of a system in which several parties take their steps in any order, with what is seen of each
step.
-/

namespace HomeHub

variable {σ ε : Type} {step : σ → ε → σ → Prop} {s t : σ} {log : List ε}

/-- A run and its log, first event to last. -/
inductive Run (step : σ → ε → σ → Prop) (s : σ) : List ε → σ → Prop
  | nil : Run step s [] s
  | snoc {log : List ε} {t u : σ} {e : ε} :
      Run step s log t → step t e u → Run step s (log ++ [e]) u

lemma append_singleton_cases {x y : ε} {front back : List ε}
    (h : log ++ [x] = front ++ y :: back) :
    (y = x ∧ back = []) ∨ ∃ back', back = back' ++ [x] ∧ log = front ++ y :: back' := by
  rcases List.eq_nil_or_concat back with rfl | ⟨back', z, rfl⟩
  · exact .inl ⟨by simpa using (List.append_inj_right' h rfl).symm, rfl⟩
  · rw [List.concat_eq_append, ← List.cons_append, ← List.append_assoc] at h
    obtain ⟨hlog, hz⟩ := List.append_inj' h rfl
    obtain rfl : x = z := by simpa using hz
    exact .inr ⟨back', List.concat_eq_append, hlog⟩

/-- An event with only certain ones after it: of a log with one event more it is that one, or that
one is of these too. -/
lemma exists_last_snoc {P Q : ε → Prop} {x : ε} :
    (∃ front y back, log ++ [x] = front ++ y :: back ∧ P y ∧ ∀ z ∈ back, Q z) ↔
      P x ∨ (∃ front y back, log = front ++ y :: back ∧ P y ∧ ∀ z ∈ back, Q z) ∧ Q x := by
  constructor
  · rintro ⟨front, y, back, h, hy, hback⟩
    rcases append_singleton_cases h with ⟨rfl, -⟩ | ⟨back', rfl, hlog⟩
    · exact .inl hy
    · rw [List.forall_mem_append, List.forall_mem_singleton] at hback
      exact .inr ⟨⟨front, y, back', hlog, hy, hback.1⟩, hback.2⟩
  · rintro (hx | ⟨⟨front, y, back, rfl, hy, hback⟩, hx⟩)
    · exact ⟨log, x, [], rfl, hx, nofun⟩
    · refine ⟨front, y, back ++ [x], by simp, hy, ?_⟩
      rw [List.forall_mem_append, List.forall_mem_singleton]
      exact ⟨hback, hx⟩

namespace Run

/-- What holds at first and is kept by every step holds all along. -/
theorem invariant {I : List ε → σ → Prop} (hr : Run step s log t) (h0 : I [] s)
    (hstep : ∀ {log t e u}, I log t → step t e u → I (log ++ [e]) u) : I log t := by
  induction hr with
  | nil => exact h0
  | snoc _ hs ih => exact hstep ih hs

/-- What no step changes is at the end as it was. -/
theorem unchanged {β : Type} {f : σ → β} (hr : Run step s log t)
    (hstep : ∀ {t e u}, step t e u → f u = f t) : f t = f s := by
  induction hr with
  | nil => rfl
  | snoc _ hs ih => exact (hstep hs).trans ih

/-- A run of one system is a run of another, state by state, if every step of it is one. -/
theorem simulate {τ : Type} {step' : τ → ε → τ → Prop} {f : σ → τ} {I : σ → Prop}
    (hr : Run step s log t) (h0 : I s)
    (hstep : ∀ {t e u}, I t → step t e u → I u ∧ step' (f t) e (f u)) :
    I t ∧ Run step' (f s) log (f t) := by
  induction hr with
  | nil => exact ⟨h0, .nil⟩
  | snoc _ hs ih =>
    obtain ⟨hi, hrun⟩ := ih
    obtain ⟨hi', hs'⟩ := hstep hi hs
    exact ⟨hi', hrun.snoc hs'⟩

/-- A run and one that starts where it ends. -/
theorem trans {u : σ} {more : List ε} (hr : Run step s log t) (hm : Run step t more u) :
    Run step s (log ++ more) u := by
  induction hm with
  | nil => rwa [List.append_nil]
  | snoc _ hs ih =>
    rw [← List.append_assoc]
    exact ih.snoc hs

/-- What is seen of a system that does one thing after the other, and where it ends. -/
def play {α : Type} (act : σ → α → ε × σ) (s : σ) : List α → List ε × σ
  | [] => ([], s)
  | a :: as =>
    let (e, t) := act s a
    let (log, u) := play act t as
    (e :: log, u)

/-- If whatever the system does is a step, that is a run. -/
theorem of_play {α : Type} {act : σ → α → ε × σ} (h : ∀ s a, step s (act s a).1 (act s a).2)
    (s : σ) (as : List α) : Run step s (play act s as).1 (play act s as).2 := by
  induction as generalizing s with
  | nil => exact .nil
  | cons a as ih => exact (nil.snoc (h s a)).trans (ih (act s a).2)

section Mem

variable {α : Type} {act : σ → α → ε × σ} {I : σ → Prop} {as : List α} (h0 : I s)
  (hstep : ∀ {t a}, a ∈ as → I t → I (act t a).2)
include h0 hstep

/-- What is seen is seen of a state in which the invariant holds. -/
theorem exists_of_mem_play {e : ε} (he : e ∈ (play act s as).1) :
    ∃ t a, a ∈ as ∧ I t ∧ e = (act t a).1 := by
  induction as generalizing s with
  | nil => cases he
  | cons a as ih =>
    rcases List.mem_cons.mp he with rfl | he
    · exact ⟨s, a, List.mem_cons_self, h0, rfl⟩
    · obtain ⟨t, b, hb, hi, he⟩ :=
        ih (hstep List.mem_cons_self h0) (fun hb => hstep (List.mem_cons_of_mem a hb)) he
      exact ⟨t, b, List.mem_cons_of_mem a hb, hi, he⟩

/-- Whatever the system does, it does in a state in which the invariant holds. -/
theorem exists_mem_play {a : α} (ha : a ∈ as) : ∃ t, I t ∧ (act t a).1 ∈ (play act s as).1 := by
  induction as generalizing s with
  | nil => cases ha
  | cons b as ih =>
    rcases List.mem_cons.mp ha with rfl | ha
    · exact ⟨s, h0, List.mem_cons_self⟩
    · obtain ⟨t, hi, ht⟩ :=
        ih (hstep List.mem_cons_self h0) (fun hc => hstep (List.mem_cons_of_mem b hc)) ha
      exact ⟨t, hi, List.mem_cons_of_mem _ ht⟩

end Mem

end Run

end HomeHub
