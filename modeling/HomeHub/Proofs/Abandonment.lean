import Mathlib.Algebra.Order.BigOperators.Group.List
import Mathlib.Algebra.Order.Group.Nat
import Mathlib.Data.List.Infix
import HomeHub.Proofs.StaleGaps

/-!
What a gap that is too long costs when not all payloads had been pulled before it.

Payloads wait in the buffer until they are pulled. A gap that is too long empties the buffer, of the
complete frames in it as well as of an unfinished one at its end. So of an episode that is cut off
only the payloads that were pulled in time come out, which is all of them just if none was waiting.
-/

namespace HomeHub.Accumulator

open FrameScan

variable {a : Accumulator} {e d : List Receipt} {u v : List Item} {capacity staleAfter : Nat}

/-! ### Payloads -/

/-- The payloads among some items. -/
def payloads (items : List Item) : List Bytes := items.filterMap Except.toOption

lemma payloads_append (u v : List Item) : payloads (u ++ v) = payloads u ++ payloads v :=
  List.filterMap_append

lemma payloads_flatMap (es : List (List Receipt)) (f : List Receipt → List Item) :
    payloads (es.flatMap f) = es.flatMap fun e => payloads (f e) := List.filterMap_flatMap

/-- The bodies of the frames that are complete in the stream of a delivery. -/
def complete (capacity : Nat) (e : List Receipt) : List Bytes :=
  payloads (run capacity start (stream e)).items

/-! ### Without any room -/

/-- There is no room, and hence nothing is under way. -/
structure Barren (a : Accumulator) : Prop where
  capacity : a.capacity = 0
  buffer : a.buffer = []
  phase : a.phase = .header

lemma barren_new (staleAfter : Nat) : Barren (new 0 staleAfter) := ⟨rfl, rfl, rfl⟩

lemma barren_pulls (h : Barren a) (count : Nat) :
    payloads (a.pulls count).1 = [] ∧ Barren (a.pulls count).2 := by
  rcases count with _ | count
  · exact ⟨rfl, h⟩
  · have hpull : a.pull = (some (.error (.headerOverflow a.capacity)), a.reset) := by
      rw [pull_header_nil h.phase (by rw [h.buffer]; rfl), if_pos (by rw [h.capacity]; omega)]
    rw [pulls, hpull]
    exact ⟨rfl, h.capacity, rfl, rfl⟩

lemma barren_feed (h : Barren a) (data : Bytes) (now : Time) : Barren (a.feed data now) := by
  have hreset : a.reset = a := reset_eq_self (by simp [hasPartial, h.buffer, h.phase])
  have hsame : a.expire now = a := (a.expire_cases now).elim id (·.trans hreset)
  have hskim : ({ a with lastReceipt := some now } : Accumulator).skim data =
      ({ a with lastReceipt := some now }, data) := by
    simp only [skim, h.phase]
  rw [feed_eq, hsame, hskim]
  exact ⟨h.capacity, by simp [append, room, h.buffer, h.capacity], h.phase⟩

lemma barren_deliver (h : Barren a) (d : List Receipt) :
    payloads (a.deliver d).1 = [] ∧ Barren (a.deliver d).2 := by
  induction d generalizing a with
  | nil => exact ⟨rfl, h⟩
  | cons r rest ih =>
    obtain ⟨hnone, hb⟩ := barren_pulls (barren_feed h r.data r.time) r.pulled
    obtain ⟨hrest, hb⟩ := ih hb
    refine ⟨?_, hb⟩
    rw [deliver, payloads_append, receive, hnone, hrest, List.nil_append]

lemma payloads_run_zero {s : Scan} (h : s.held = [] ∧ s.phase = .header) (w : Bytes) :
    payloads (run 0 s w).items = payloads s.items := by
  induction w generalizing s with
  | nil => rfl
  | cons b w ih =>
    obtain ⟨held, phase, items, malformed⟩ := s
    obtain ⟨rfl, rfl⟩ := h
    rw [run_cons]
    by_cases hb : b = Frame.delimiter
    · have hstep : step 0 ⟨[], .header, items, malformed⟩ b =
          ⟨[], .header, items, malformed + 1⟩ := by
        simp [step, close, hb, show Frame.parseLength [] = none from rfl]
      rw [hstep, ih ⟨rfl, rfl⟩]
    · have hstep : step 0 ⟨[], .header, items, malformed⟩ b =
          ⟨[], .header, items ++ [.error (.headerOverflow 0)], malformed⟩ := by
        simp [step, hb, Scan.emit]
      rw [hstep, ih ⟨rfl, rfl⟩, payloads_append]
      exact List.append_nil _

/-! ### One episode -/

/-- The complete frames of an episode are those pulled during it and those still waiting. -/
lemma complete_eq (hd : Timely staleAfter e)
    (hkeep : ((new capacity staleAfter).deliver e).2.dropped = 0) :
    complete capacity e = payloads ((new capacity staleAfter).deliver e).1 ++
      payloads ((new capacity staleAfter).deliver e).2.drain.1 := by
  rcases Nat.eq_zero_or_pos capacity with rfl | hc
  · obtain ⟨hnone, hb⟩ := barren_deliver (barren_new staleAfter) e
    rw [complete, payloads_run_zero ⟨rfl, rfl⟩, hnone, drain, (barren_pulls hb _).1]
    rfl
  · rw [complete, ← outcome_eq_run hc hd hkeep, ← payloads_append]
    rfl

/-! ### All episodes -/

lemma flatMap_eq_iff_of_prefix {α β : Type} {f g : α → List β} {l : List α}
    (h : ∀ x ∈ l, f x <+: g x) : l.flatMap f = l.flatMap g ↔ ∀ x ∈ l, f x = g x := by
  refine ⟨fun heq => ?_, fun heq => List.flatMap_congr heq⟩
  induction l with
  | nil => exact nofun
  | cons x l ih =>
    rw [List.forall_mem_cons] at h ⊢
    have hle : (l.flatMap f).length ≤ (l.flatMap g).length := by
      simp only [List.length_flatMap]
      exact List.sum_le_sum fun y hy => (h.2 y hy).length_le
    have hlen := congrArg List.length heq
    simp only [List.flatMap_cons, List.length_append] at hlen
    have hx : (f x).length = (g x).length := by
      have := h.1.length_le
      omega
    obtain ⟨hhead, htail⟩ := List.append_inj heq hx
    exact ⟨hhead, ih h.2 htail⟩

/-- What becomes of the complete frames of a delivery. -/
structure Abandons (capacity staleAfter : Nat) (d : List Receipt) : Prop where
  /-- In order and without gaps, as far as they are pulled. -/
  pulled : ∀ e ∈ episodes staleAfter d,
    payloads ((new capacity staleAfter).deliver e).1 <+: complete capacity e
  /-- An episode that is cut off gives what was pulled during it, and only the last one the rest. -/
  yielded : payloads ((new capacity staleAfter).outcome d).items =
    ((episodes staleAfter d).dropLast.flatMap fun e =>
      payloads ((new capacity staleAfter).deliver e).1) ++
    (episodes staleAfter d).getLast?.toList.flatMap (complete capacity)
  /-- No complete frame is lost just if none was waiting at a gap that was too long. -/
  kept_iff : payloads ((new capacity staleAfter).outcome d).items =
      (episodes staleAfter d).flatMap (complete capacity) ↔
    ∀ e ∈ (episodes staleAfter d).dropLast,
      payloads ((new capacity staleAfter).deliver e).1 = complete capacity e

lemma payloads_outcome (a : Accumulator) (d : List Receipt) : payloads (a.outcome d).items =
    payloads (a.deliver d).1 ++ payloads (a.deliver d).2.drain.1 := payloads_append ..

lemma complete_of_mem_episodes (hkeep : ((new capacity staleAfter).deliver d).2.dropped = 0)
    (he : e ∈ episodes staleAfter d) :
    complete capacity e = payloads ((new capacity staleAfter).deliver e).1 ++
      payloads ((new capacity staleAfter).deliver e).2.drain.1 := by
  rw [(restarted_episodes capacity staleAfter d).dropped, List.sum_eq_zero_iff] at hkeep
  exact complete_eq (timely_of_mem_episodes he) (hkeep _ (List.mem_map_of_mem he))

lemma payloads_of_kept (hkeep : ((new capacity staleAfter).deliver d).2.dropped = 0) :
    payloads ((new capacity staleAfter).outcome d).items =
      ((episodes staleAfter d).dropLast.flatMap fun e =>
        payloads ((new capacity staleAfter).deliver e).1) ++
      (episodes staleAfter d).getLast?.toList.flatMap (complete capacity) := by
  obtain ⟨hitems, hlast, -, -⟩ := restarted_episodes capacity staleAfter d
  rw [payloads_outcome, hitems, payloads_flatMap]
  rcases List.eq_nil_or_concat (episodes staleAfter d) with hnil | ⟨init, e, hsnoc⟩
  · have hd : d = [] := by rw [← List.flatten_splitBy _ d, ← episodes, hnil, List.flatten_nil]
    rw [hnil, hd]
    exact (complete_eq .nil rfl).symm
  · have hcomplete : complete capacity e = _ := complete_of_mem_episodes hkeep (by simp [hsnoc])
    obtain ⟨m, n, hend⟩ := hlast e (by simp [hsnoc])
    rw [hend, drain_counting, hsnoc, List.concat_eq_append, List.flatMap_append,
      List.dropLast_concat, List.getLast?_concat, Option.toList_some, List.flatMap_singleton,
      List.flatMap_singleton, List.append_assoc, ← hcomplete]

/-- **A gap that is too long costs the frames that wait.** If no byte is dropped, then whatever is
received, whenever and however much of it is pulled, no complete frame is lost if and only if all
were pulled before each such gap. -/
theorem abandons_of_kept (hkeep : ((new capacity staleAfter).deliver d).2.dropped = 0) :
    Abandons capacity staleAfter d := by
  have hpulled : ∀ e ∈ episodes staleAfter d,
      payloads ((new capacity staleAfter).deliver e).1 <+: complete capacity e :=
    fun e he => ⟨_, (complete_of_mem_episodes hkeep he).symm⟩
  refine ⟨hpulled, payloads_of_kept hkeep, ?_⟩
  have hsplit : (episodes staleAfter d).flatMap (complete capacity) =
      (episodes staleAfter d).dropLast.flatMap (complete capacity) ++
        (episodes staleAfter d).getLast?.toList.flatMap (complete capacity) := by
    rcases List.eq_nil_or_concat (episodes staleAfter d) with hnil | ⟨init, e, hsnoc⟩
    · rw [hnil]
      rfl
    · rw [hsnoc, List.concat_eq_append, List.dropLast_concat, List.getLast?_concat,
        ← List.flatMap_append, Option.toList_some]
  rw [payloads_of_kept hkeep, hsplit, List.append_left_inj]
  exact flatMap_eq_iff_of_prefix fun e he => hpulled e (List.mem_of_mem_dropLast he)

/-- The stream `2;ok1;x3;ab`, of which one payload is pulled, then `1;y` and `1;z` much later. -/
def straggling : List Receipt :=
  [⟨[50, 59, 111, 107, 49, 59, 120, 51, 59, 97, 98], 0, 1⟩, ⟨[49, 59, 121], 2000, 5⟩,
    ⟨[49, 59, 122], 4000, 0⟩]

theorem abandons_of_kept_straggling :
    ((new 64 1500).deliver straggling).2.dropped = 0 ∧ Abandons 64 1500 straggling ∧
      (episodes 1500 straggling).map (complete 64) = [[[111, 107], [120]], [[121]], [[122]]] ∧
      payloads ((new 64 1500).outcome straggling).items = [[111, 107], [121], [122]] := by
  have hkeep : ((new 64 1500).deliver straggling).2.dropped = 0 := by decide +kernel
  exact ⟨hkeep, abandons_of_kept hkeep, by decide +kernel, by decide +kernel⟩

/-- The stream `2;ok`, of which nothing is pulled, and then `1;x` much later. -/
def belated : List Receipt := [⟨[50, 59, 111, 107], 0, 0⟩, ⟨[49, 59, 120], 2000, 5⟩]

/-- The frame `2;ok` is complete when the gap comes, and is lost. -/
theorem waiting_frame_lost :
    ((new 64 1500).deliver belated).2.dropped = 0 ∧
      (episodes 1500 belated).flatMap (complete 64) = [[111, 107], [120]] ∧
      payloads ((new 64 1500).outcome belated).items = [[120]] := by
  decide +kernel

end HomeHub.Accumulator
