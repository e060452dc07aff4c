import HomeHub.Proofs.WriterRuns
import HomeHub.Session.Link

/-!
A writer whose handle is gone comes to its end.

On its own a writer goes on until it waits, and what happens next always brings it nearer to its
end. Without its handle it waits for nothing but a sink that is blocked; so on any other sink it
ends, and it has written all that was queued unless the sink failed.
-/

namespace HomeHub

namespace Sink

variable {s : Sink} {w : Writer} {e : Writer.Event} {fuel : Nat}

/-- What happens next to a writer that does not wait. -/
inductive Next (s : Sink) (w : Writer) : Writer.Event → Prop
  | take : w.stage = .idle → (w.queue = [] → w.held = false) → Next s w .take
  | next {burst : Nat} : w.stage = .writing [] burst → Next s w .next
  | accept {b : UInt8} {rest : Bytes} {burst : Nat} : w.stage = .writing (b :: rest) burst →
      Next s w (.accept (s.portion (b :: rest).length))
  | fail {b : UInt8} {rest : Bytes} {burst : Nat} : w.stage = .writing (b :: rest) burst →
      s.fails = true → Next s w .fail
  | flushed : w.stage = .flushing → Next s w .flushed
  | shutdown : w.stage = .closing → Next s w .shutdown

lemma next_of_next? (h : s.next? w = some e) : Next s w e := by
  rcases hstage : w.stage with _ | ⟨_ | ⟨b, rest⟩, burst⟩ | _ | _ | _ | _ <;>
    simp only [next?, hstage] at h
  · split at h
    · cases h
    · rename_i hwaits
      obtain rfl := Option.some.inj h
      exact .take hstage fun hqueue => by simpa [hqueue] using hwaits
  · obtain rfl := Option.some.inj h
    exact .next hstage
  · split_ifs at h with hblocked hfails
    · obtain rfl := Option.some.inj h
      exact .fail hstage hfails
    · obtain rfl := Option.some.inj h
      exact .accept hstage
  · obtain rfl := Option.some.inj h
    exact .flushed hstage
  · obtain rfl := Option.some.inj h
    exact .shutdown hstage
  · cases h
  · cases h

lemma portion_le (s : Sink) (offered : Nat) : s.portion offered ≤ offered := by
  unfold portion
  split
  · exact Nat.min_le_right _ _
  · exact Nat.le_refl _

lemma step_accept {b : UInt8} {rest : Bytes} {burst : Nat}
    (hstage : w.stage = .writing (b :: rest) burst) :
    (w.step (.accept (s.portion (b :: rest).length))).1 =
      if s.portion (b :: rest).length = 0 then w.fail
      else { w with
        stage := .writing ((b :: rest).drop (s.portion (b :: rest).length)) burst } := by
  have hfits : ¬ ((b :: rest).isEmpty = true ∨
      (b :: rest).length < s.portion (b :: rest).length) := by
    rw [not_or]
    exact ⟨by simp, Nat.not_lt.mpr (s.portion_le _)⟩
  simp only [Writer.step, hstage, if_neg hfits]
  split <;> rfl

lemma work_fail_lt {rest : Bytes} {burst : Nat} (hstage : w.stage = .writing rest burst) :
    w.fail.work < w.work := by
  rw [show w.fail.work = 0 from rfl, Writer.work, hstage]
  exact Nat.succ_pos _

/-- What happens next brings a writer nearer to its end. -/
lemma Next.work_lt (h : Next s w e) : (w.step e).1.work < w.work := by
  obtain ⟨slots, queue, held, stage⟩ := w
  cases h with
  | take hstage hheld =>
    obtain rfl : stage = .idle := hstage
    rcases queue with _ | ⟨frame, queue⟩
    · obtain rfl : held = false := hheld rfl
      exact Nat.lt_succ_self _
    · simp only [Writer.step, Writer.work, Writer.queueWork, Writer.Stage.work]
      omega
  | next hstage =>
    obtain rfl : stage = .writing [] _ := hstage
    rcases queue with _ | ⟨frame, queue⟩
    · exact Nat.lt_succ_self _
    · simp only [Writer.step]
      split <;> simp only [Writer.work, Writer.queueWork, Writer.Stage.work, List.length_nil] <;>
        omega
  | @accept b rest burst hstage =>
    rw [step_accept hstage]
    split
    · exact work_fail_lt hstage
    · obtain rfl : stage = .writing (b :: rest) burst := hstage
      simp only [Writer.work, Writer.Stage.work, List.length_drop, List.length_cons] at *
      omega
  | fail hstage =>
    obtain rfl : stage = .writing (_ :: _) _ := hstage
    exact work_fail_lt rfl
  | flushed hstage =>
    obtain rfl : stage = .flushing := hstage
    exact Nat.lt_succ_self _
  | shutdown hstage =>
    obtain rfl : stage = .closing := hstage
    exact Nat.lt_succ_self _

lemma run_invariant (fuel : Nat) {I : Writer → Sink → Prop}
    (hstep : ∀ {w s e}, I w s → Next s w e → I (w.step e).1 (s.note (w.step e).2))
    (h : I w s) : I (run fuel w s).1 (run fuel w s).2 := by
  induction fuel generalizing w s with
  | zero => exact h
  | succ fuel ih =>
    unfold run
    split
    · exact h
    · exact ih (hstep h (next_of_next? ‹_›))

/-- With enough fuel a writer goes on until it waits. -/
lemma next?_run (h : w.work < fuel) : (run fuel w s).2.next? (run fuel w s).1 = none := by
  induction fuel generalizing w s with
  | zero => exact absurd h (Nat.not_lt_zero _)
  | succ fuel ih =>
    unfold run
    split
    · assumption
    · rename_i e he
      exact ih (Nat.lt_of_lt_of_le (next_of_next? he).work_lt (Nat.le_of_lt_succ h))

lemma isGone_of_next?_eq_none (hheld : w.held = false) (hblocked : s.blocked = false)
    (h : s.next? w = none) : w.isGone = true := by
  rcases hstage : w.stage with _ | ⟨_ | ⟨b, rest⟩, burst⟩ | _ | _ | _ | _ <;>
    simp only [next?, hstage, hheld, hblocked] at h
  · simp at h
  · cases h
  · simp only [Bool.false_eq_true, if_false] at h
    split at h <;> cases h
  · cases h
  · cases h
  · simp [Writer.isGone, hstage]
  · simp [Writer.isGone, hstage]

/-- Takes some of what it is offered, and does not fail. -/
structure Willing (s : Sink) : Prop where
  unblocked : s.blocked = false
  unfailing : s.failAfter = none
  chunk : s.chunk ≠ some 0

lemma Willing.portion_ne_zero (h : s.Willing) {offered : Nat} (ho : offered ≠ 0) :
    s.portion offered ≠ 0 := by
  have hchunk := h.chunk
  unfold portion
  split
  · rename_i n hn
    have : n ≠ 0 := fun hzero => hchunk (hzero ▸ hn)
    omega
  · exact ho

lemma Willing.stage_ne_failed (hs : s.Willing) (h : Next s w e) :
    (w.step e).1.stage ≠ .failed := by
  cases h with
  | take hstage =>
    simp only [Writer.step, hstage]
    split
    · simp
    · split <;> simp [hstage]
    · simp [hstage]
  | next hstage =>
    simp only [Writer.step, hstage]
    split
    · split <;> simp
    · simp
    · simp [hstage]
  | accept hstage =>
    rw [step_accept hstage, if_neg (hs.portion_ne_zero (by simp))]
    simp
  | fail hstage hfails => simp [fails, hs.unfailing] at hfails
  | flushed hstage => simp [Writer.step, hstage]
  | shutdown hstage => simp [Writer.step, hstage]

end Sink

namespace Link

open WriterRuns (taken)

variable {l : Link} {frames : List Bytes}

lemma run_invariant {I : Writer → Sink → Prop}
    (hstep : ∀ {w s e}, I w s → Sink.Next s w e → I (w.step e).1 (s.note (w.step e).2))
    (h : I l.writer l.sink) : I l.run.writer l.run.sink :=
  Sink.run_invariant (l.writer.work + 1) hstep h

/-- What becomes of the frames that were queued on a link when its writer goes on. -/
structure Drains (frames : List Bytes) (l : Link) : Prop where
  ends : l.sink.blocked = false → l.run.writer.isGone = true
  finishes : l.sink.Willing → l.writer.stage ≠ .failed → l.run.writer.stage = .done
  written : l.run.writer.stage = .done → taken l.run.sink.log = frames.flatten ∧
    ∃ before, l.run.sink.log = before ++ [.shutdown] ∧ .shutdown ∉ before

/-- Without its handle a writer ends, and unless the sink fails it has written all frames then. -/
theorem drains_of_inv {slots : Nat} (hi : WriterRuns.Inv slots frames l.sink.log l.writer)
    (hheld : l.writer.held = false) : Drains frames l := by
  have hends (hblocked : l.sink.blocked = false) : l.run.writer.isGone = true := by
    have hkept : l.run.writer.held = false ∧ l.run.sink.blocked = false :=
      run_invariant (I := fun w s => w.held = false ∧ s.blocked = false)
        (fun h _ => ⟨(Writer.moves_step ..).held.trans h.1, h.2⟩) ⟨hheld, hblocked⟩
    exact Sink.isGone_of_next?_eq_none hkept.1 hkept.2 (Sink.next?_run (Nat.lt_succ_self _))
  refine ⟨hends, fun hwilling hstage => ?_, fun hdone => ?_⟩
  · have hkept : l.run.sink.Willing ∧ l.run.writer.stage ≠ .failed :=
      run_invariant (I := fun w s => s.Willing ∧ w.stage ≠ .failed)
        (fun h hnext => ⟨⟨h.1.unblocked, h.1.unfailing, h.1.chunk⟩, h.1.stage_ne_failed hnext⟩)
        ⟨hwilling, hstage⟩
    have hgone : l.run.writer.stage = .done ∨ l.run.writer.stage = .failed := by
      simpa [Writer.isGone] using hends hwilling.unblocked
    exact hgone.resolve_right hkept.2
  · have hrun : WriterRuns.Inv slots frames l.run.sink.log l.run.writer :=
      run_invariant (I := fun w s => WriterRuns.Inv slots frames s.log w)
        (fun hi _ => WriterRuns.inv_moves hi (Writer.moves_step ..)) hi
    exact ⟨hrun.taken_of_done hdone, hrun.shut hdone⟩

end Link

end HomeHub
