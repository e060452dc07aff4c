import Mathlib.Algebra.GroupWithZero.Nat
import Mathlib.Data.List.SplitBy
import HomeHub.Proofs.Delivery

/-!
After a gap that is too long an accumulator is a new one, save for what it has counted.

Whether a receipt comes too late is settled by the clock alone. If it does, whatever is unfinished
goes, be it a header, a body, or a body that is being skipped with nothing buffered; and if nothing
is, there is nothing to tell the accumulator from a new one. So a delivery falls into episodes, cut
at the gaps that are too long, which do not know of each other.
-/

namespace HomeHub.Accumulator

variable {a : Accumulator} {b : UInt8} {data rest : Bytes} {now : Time} {r : Receipt}
  {d : List Receipt} {es : List (List Receipt)} {capacity staleAfter : Nat}

/-! ### What a pull does at each phase -/

lemma pull_header_nil (hp : a.phase = .header)
    (hb : a.buffer.dropWhile (· != Frame.delimiter) = []) :
    a.pull = if a.capacity ≤ a.buffer.length then
      (some (.error (.headerOverflow a.capacity)), a.reset) else (none, a) := by
  conv_lhs => rw [pull]
  split
  · split
    · rfl
    · rename_i hb'
      rw [hb] at hb'
      cases hb'
  all_goals simp_all

lemma pull_malformed (hp : a.phase = .header)
    (hb : a.buffer.dropWhile (· != Frame.delimiter) = b :: rest)
    (hn : Frame.parseLength (a.buffer.takeWhile (· != Frame.delimiter)) = none) :
    a.pull = pull { a with buffer := rest, malformed := a.malformed + 1 } := by
  conv_lhs => rw [pull]
  split
  · split
    · simp_all
    · rename_i hb'
      obtain ⟨-, rfl⟩ := List.cons.inj (hb.symm.trans hb')
      simp [hn]
  all_goals simp_all

lemma pull_sized {n : Nat} (hp : a.phase = .header)
    (hb : a.buffer.dropWhile (· != Frame.delimiter) = b :: rest)
    (hn : Frame.parseLength (a.buffer.takeWhile (· != Frame.delimiter)) = some n) :
    a.pull =
      if a.capacity < (a.buffer.takeWhile (· != Frame.delimiter)).length + 1 + n then
        pull { a with buffer := rest, phase := .skipping n }
      else pull { a with
        phase := .body ((a.buffer.takeWhile (· != Frame.delimiter)).length + 1) n } := by
  conv_lhs => rw [pull]
  split
  · split
    · simp_all
    · rename_i hb'
      obtain ⟨-, rfl⟩ := List.cons.inj (hb.symm.trans hb')
      simp [hn]
  all_goals simp_all

lemma pull_body {h n : Nat} (hp : a.phase = .body h n) :
    a.pull = if a.buffer.length < h + n then (none, a)
      else (some (.ok ((a.buffer.drop h).take n)),
        { a with buffer := a.buffer.drop (h + n), phase := .header }) := by
  conv_lhs => rw [pull]
  split <;> simp_all

lemma pull_skipping {remaining : Nat} (hp : a.phase = .skipping remaining) :
    a.pull = if remaining ≤ a.buffer.length then
        pull { a with buffer := a.buffer.drop remaining, phase := .header }
      else (none, { a with buffer := [], phase := .skipping (remaining - a.buffer.length) }) := by
  conv_lhs => rw [pull]
  split <;> simp_all

/-! ### What has been counted -/

/-- The same accumulator, with losses that were counted before its own. -/
def counting (a : Accumulator) (dropped malformed : Nat) : Accumulator :=
  { a with dropped := dropped + a.dropped, malformed := malformed + a.malformed }

lemma counting_counting (a : Accumulator) (d m d' m' : Nat) :
    (a.counting d m).counting d' m' = a.counting (d' + d) (m' + m) := by
  simp [counting, Nat.add_assoc]

/-! Counted losses have no part in how an accumulator goes on. -/

lemma pull_counting (a : Accumulator) (d m : Nat) :
    (a.counting d m).pull = (a.pull.1, a.pull.2.counting d m) := by
  fun_induction pull a with
  | case1 a hp hb hfull =>
    exact (pull_header_nil (a := a.counting d m) hp hb).trans (if_pos hfull)
  | case2 a hp hb hroom =>
    exact (pull_header_nil (a := a.counting d m) hp hb).trans (if_neg hroom)
  | case3 a hp _ rest hb _ header hn ih =>
    exact (pull_malformed (a := a.counting d m) hp hb hn).trans ih
  | case4 a hp _ rest hb _ header n hn hover ih =>
    exact ((pull_sized (a := a.counting d m) hp hb hn).trans (if_pos hover)).trans ih
  | case5 a hp _ rest hb _ header n hn hfit ih =>
    exact ((pull_sized (a := a.counting d m) hp hb hn).trans (if_neg hfit)).trans ih
  | case6 a h n hp hshort =>
    exact (pull_body (a := a.counting d m) hp).trans (if_pos hshort)
  | case7 a h n hp hall => exact (pull_body (a := a.counting d m) hp).trans (if_neg hall)
  | case8 a remaining hp hends ih =>
    exact ((pull_skipping (a := a.counting d m) hp).trans (if_pos hends)).trans ih
  | case9 a remaining hp hgoes =>
    exact (pull_skipping (a := a.counting d m) hp).trans (if_neg hgoes)

lemma pulls_counting (count : Nat) (a : Accumulator) (d m : Nat) :
    (a.counting d m).pulls count = ((a.pulls count).1, (a.pulls count).2.counting d m) := by
  induction count generalizing a with
  | zero => rfl
  | succ count ih =>
    simp only [pulls, pull_counting]
    rcases a.pull with ⟨_ | _ | payload, a'⟩
    · rfl
    · rfl
    · simp only [ih a']

lemma drain_counting (a : Accumulator) (d m : Nat) :
    (a.counting d m).drain = (a.drain.1, a.drain.2.counting d m) := pulls_counting _ a d m

lemma expire_counting (a : Accumulator) (d m : Nat) (now : Time) :
    (a.counting d m).expire now = (a.expire now).counting d m := by
  have hsame : (a.counting d m).lastReceipt = a.lastReceipt := rfl
  unfold expire
  rw [hsame]
  rcases a.lastReceipt with _ | last
  · rfl
  · exact (apply_ite (counting · d m) (_ && a.hasPartial : Bool) a.reset a).symm

lemma skim_counting (a : Accumulator) (d m : Nat) (data : Bytes) :
    (a.counting d m).skim data = ((a.skim data).1.counting d m, (a.skim data).2) := by
  rcases hp : a.phase with _ | _ | remaining <;> simp [skim, counting, hp]

lemma append_counting (a : Accumulator) (d m : Nat) (data : Bytes) :
    (a.counting d m).append data = (a.append data).counting d m := by
  simp [append, counting, room, Nat.add_assoc]

lemma feed_eq (a : Accumulator) (data : Bytes) (now : Time) :
    a.feed data now =
      (({ a.expire now with lastReceipt := some now } : Accumulator).skim data).1.append
        (({ a.expire now with lastReceipt := some now } : Accumulator).skim data).2 := rfl

lemma feed_counting (a : Accumulator) (d m : Nat) (data : Bytes) (now : Time) :
    (a.counting d m).feed data now = (a.feed data now).counting d m := by
  rw [feed_eq, feed_eq, expire_counting, ← append_counting]
  have h := skim_counting { a.expire now with lastReceipt := some now } d m data
  exact congrArg (fun p : Accumulator × Bytes => p.1.append p.2) h

/-! ### Receipts that come too late -/

/-- The gap since the last receipt is too long. -/
def Overdue (a : Accumulator) (now : Time) : Prop :=
  ∃ last, a.lastReceipt = some last ∧ a.staleAfter < elapsed last now

lemma reset_eq_self (h : a.hasPartial = false) : a.reset = a := by
  obtain ⟨capacity, staleAfter, buffer, phase, last, dropped, malformed⟩ := a
  simp only [hasPartial, Bool.or_eq_false_iff, Bool.not_eq_false', List.isEmpty_iff,
    bne_eq_false_iff_eq] at h
  obtain ⟨rfl, rfl⟩ := h
  rfl

lemma expire_of_overdue (h : Overdue a now) : a.expire now = a.reset := by
  obtain ⟨last, hlast, hgap⟩ := h
  simp only [expire, hlast, hgap, decide_true, Bool.true_and]
  split
  · rfl
  · exact (reset_eq_self (Bool.eq_false_iff.mpr ‹_›)).symm

lemma feed_of_overdue (h : Overdue a now) (data : Bytes) : a.feed data now =
    ((new a.capacity a.staleAfter).feed data now).counting a.dropped a.malformed := by
  rw [← feed_counting, feed_eq, feed_eq, expire_of_overdue h]
  rfl

lemma receive_counting (a : Accumulator) (m n : Nat) (r : Receipt) :
    (a.counting m n).receive r = ((a.receive r).1, (a.receive r).2.counting m n) := by
  rw [receive, feed_counting, pulls_counting]
  rfl

lemma deliver_counting (a : Accumulator) (m n : Nat) (d : List Receipt) :
    (a.counting m n).deliver d = ((a.deliver d).1, (a.deliver d).2.counting m n) := by
  induction d generalizing a with
  | nil => rfl
  | cons r rest ih => simp only [deliver, receive_counting, ih]

/-- What comes after a gap that is too long goes to a new accumulator. -/
lemma deliver_of_overdue (h : Overdue a r.time) (d : List Receipt) :
    a.deliver (r :: d) = (((new a.capacity a.staleAfter).deliver (r :: d)).1,
      ((new a.capacity a.staleAfter).deliver (r :: d)).2.counting a.dropped a.malformed) := by
  have hfirst : a.receive r =
      ((new a.capacity a.staleAfter).counting a.dropped a.malformed).receive r := by
    rw [receive, receive, feed_of_overdue h, feed_counting]
  rw [← deliver_counting, deliver, deliver, hfirst]

/-! ### Episodes -/

lemma deliver_append (a : Accumulator) (d e : List Receipt) :
    a.deliver (d ++ e) = ((a.deliver d).1 ++ ((a.deliver d).2.deliver e).1,
      ((a.deliver d).2.deliver e).2) := by
  induction d generalizing a with
  | nil => rfl
  | cons r rest ih => simp [deliver, ih]

lemma deliver_frame (a : Accumulator) (d : List Receipt) :
    (a.deliver d).2.capacity = a.capacity ∧ (a.deliver d).2.staleAfter = a.staleAfter ∧
      ∀ r ∈ d.getLast?, (a.deliver d).2.lastReceipt = some r.time := by
  induction d using List.reverseRecOn with
  | nil => exact ⟨rfl, rfl, nofun⟩
  | append_singleton d r ih =>
    obtain ⟨hcap, hstale, hlast, -⟩ := receive_frame (a.deliver d).2 r
    rw [deliver_append]
    refine ⟨hcap.trans ih.1, hstale.trans ih.2.1, fun s hs => ?_⟩
    obtain rfl : r = s := by simpa using hs
    exact hlast

/-- The parts of a delivery between the gaps that are too long. -/
def episodes (staleAfter : Nat) (d : List Receipt) : List (List Receipt) :=
  d.splitBy fun r s => elapsed r.time s.time ≤ staleAfter

/-- Between two neighbours the gap is too long. -/
def Apart (staleAfter : Nat) (e f : List Receipt) : Prop :=
  ∃ r ∈ e.getLast?, ∃ s ∈ f.head?, staleAfter < elapsed r.time s.time

/-- What episodes come to, each with an accumulator of its own. -/
structure Restarted (capacity staleAfter : Nat) (es : List (List Receipt)) (items : List Item)
    (a : Accumulator) : Prop where
  items : items = es.flatMap fun e => ((new capacity staleAfter).deliver e).1
  last : ∀ e ∈ es.getLast?, ∃ m n, a = ((new capacity staleAfter).deliver e).2.counting m n
  dropped : a.dropped = (es.map fun e => ((new capacity staleAfter).deliver e).2.dropped).sum
  malformed : a.malformed =
    (es.map fun e => ((new capacity staleAfter).deliver e).2.malformed).sum

lemma restarted_flatten (hne : [] ∉ es) (hcut : es.IsChain (Apart staleAfter)) :
    Restarted capacity staleAfter es ((new capacity staleAfter).deliver es.flatten).1
      ((new capacity staleAfter).deliver es.flatten).2 := by
  induction es with
  | nil => exact ⟨rfl, nofun, rfl, rfl⟩
  | cons e es ih =>
    obtain ⟨hcap, hstale, hlast⟩ := deliver_frame (new capacity staleAfter) e
    rw [List.flatten_cons, deliver_append]
    set a := ((new capacity staleAfter).deliver e).2 with ha
    rcases es with _ | ⟨f, es⟩
    · refine ⟨by simp [deliver], fun f hf => ⟨0, 0, ?_⟩, by simp [deliver, ha],
        by simp [deliver, ha]⟩
      obtain rfl : e = f := by simpa using hf
      simp [counting, deliver, ha]
    · rw [List.mem_cons, not_or] at hne
      rw [List.isChain_cons_cons] at hcut
      obtain ⟨⟨r, hr, s, hs, hgap⟩, hcut⟩ := hcut
      obtain ⟨rest, rfl⟩ : ∃ rest, f = s :: rest := by
        rcases f with _ | ⟨s', rest⟩
        · cases hs
        · exact ⟨rest, by simpa using hs⟩
      have hover : Overdue a s.time := ⟨r.time, hlast r hr, by rwa [hstale]⟩
      obtain ⟨hitems, hend, hdropped, hmalformed⟩ := ih hne.2 hcut
      rw [List.flatten_cons, List.cons_append] at hitems hend hdropped hmalformed ⊢
      rw [deliver_of_overdue hover, hcap, hstale]
      refine ⟨?_, fun g hg => ?_, ?_, ?_⟩
      · rw [List.flatMap_cons, ← hitems]
        rfl
      · obtain ⟨m, n, hend⟩ := hend g (by rwa [List.getLast?_cons_cons] at hg)
        exact ⟨_, _, (congrArg (counting · a.dropped a.malformed) hend).trans
          (counting_counting ..)⟩
      · rw [List.map_cons, List.sum_cons, ← hdropped]
        rfl
      · rw [List.map_cons, List.sum_cons, ← hmalformed]
        rfl

lemma isChain_episodes (staleAfter : Nat) (d : List Receipt) :
    (episodes staleAfter d).IsChain (Apart staleAfter) := by
  refine (List.isChain_getLast_head_splitBy _ d).imp fun e f => ?_
  rintro ⟨he, hf, hgap⟩
  exact ⟨_, List.getLast_mem_getLast? he, _, List.head_mem_head? hf,
    Nat.lt_of_not_le (of_decide_eq_false hgap)⟩

lemma timely_of_mem_episodes {e : List Receipt} (he : e ∈ episodes staleAfter d) :
    Timely staleAfter e :=
  (List.isChain_of_mem_splitBy he).imp fun _ _ => of_decide_eq_true

lemma restarted_episodes (capacity staleAfter : Nat) (d : List Receipt) :
    Restarted capacity staleAfter (episodes staleAfter d)
      ((new capacity staleAfter).deliver d).1 ((new capacity staleAfter).deliver d).2 := by
  have hflatten : (episodes staleAfter d).flatten = d := List.flatten_splitBy _ d
  have h : Restarted capacity staleAfter (episodes staleAfter d) _ _ :=
    restarted_flatten (List.nil_notMem_splitBy _ d) (isChain_episodes staleAfter d)
  rwa [hflatten] at h

/-- A delivery, beside what new accumulators make of each of its episodes. -/
structure Restarts (capacity staleAfter : Nat) (d : List Receipt) : Prop where
  items : ((new capacity staleAfter).deliver d).1 =
    (episodes staleAfter d).flatMap fun e => ((new capacity staleAfter).deliver e).1
  /-- After each receipt the accumulator stands where a new one stands that was given nothing but
  the episode under way. -/
  state : ∀ front, front <+: d → ∀ e ∈ (episodes staleAfter front).getLast?,
    let a := ((new capacity staleAfter).deliver front).2
    let b := ((new capacity staleAfter).deliver e).2
    a.buffer = b.buffer ∧ a.phase = b.phase ∧ a.declaredLength = b.declaredLength ∧
      a.headerLength = b.headerLength
  dropped : ((new capacity staleAfter).deliver d).2.dropped =
    ((episodes staleAfter d).map fun e => ((new capacity staleAfter).deliver e).2.dropped).sum
  malformed : ((new capacity staleAfter).deliver d).2.malformed =
    ((episodes staleAfter d).map fun e => ((new capacity staleAfter).deliver e).2.malformed).sum

/-- **A gap that is too long is a clean restart.** Whatever is received and whenever, and whether
all items are pulled after each receipt or only some, a delivery comes to what its episodes come to
one by one, each with a new accumulator. -/
theorem restarts_deliver (capacity staleAfter : Nat) (d : List Receipt) :
    Restarts capacity staleAfter d := by
  obtain ⟨hitems, -, hdropped, hmalformed⟩ := restarted_episodes capacity staleAfter d
  refine ⟨hitems, fun front _ e he => ?_, hdropped, hmalformed⟩
  obtain ⟨m, n, hend⟩ := (restarted_episodes capacity staleAfter front).last e he
  simp only [hend]
  exact ⟨rfl, rfl, rfl, rfl⟩

/-- A body that is being skipped, a header, and a clock that steps back: the gaps after the first
and the third receipt are too long. -/
example :
    let d : List Receipt := [⟨[57, 59, 120], 0, 9⟩, ⟨[49, 59, 97, 49], 1501, 9⟩, ⟨[59], 900, 9⟩,
      ⟨[49, 59, 98], 2500, 9⟩]
    (episodes 1500 d).map List.length = [1, 2, 1] ∧
      ((new 4 1500).deliver d).1 = [.ok [97], .ok [98]] := by
  decide +kernel

end HomeHub.Accumulator
