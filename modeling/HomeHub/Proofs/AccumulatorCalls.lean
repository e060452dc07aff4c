import HomeHub.Proofs.DrainedFeeds
import HomeHub.Proofs.LengthHeaders
import HomeHub.Proofs.StaleGaps

/-!
What the fields of an accumulator say of its buffer, and of the bytes that it has taken in.

An accumulator may be fed, pulled from and reset in any order, also while items wait in it and when
there is no room for all that comes. Whatever has been done to it, it stands where a scan stands of
the bytes that it has taken in since it was last reset (`Track.Inv`). So while a body is skipped,
the bytes that come next are the next ones of that body, and may be passed over unseen.
-/

namespace HomeHub

/-! ### Scans of a stream -/

namespace FrameScan

variable {capacity : Nat} {s t : Scan} {w : Bytes}

/-- Two scans that hold the same and will go on alike, whatever has come out of them before. -/
def Alike (s t : Scan) : Prop := s.held = t.held ∧ s.phase = t.phase

lemma Alike.trans {u : Scan} (h : Alike s t) (h' : Alike t u) : Alike s u :=
  ⟨h.1.trans h'.1, h.2.trans h'.2⟩

lemma alike_emit (s : Scan) (i : Item) : Alike (s.emit i) start := ⟨rfl, rfl⟩

lemma alike_close (h : Alike s t) : Alike (close capacity s) (close capacity t) := by
  obtain ⟨held, phase, items, malformed⟩ := s
  obtain ⟨held', phase', items', malformed'⟩ := t
  obtain ⟨rfl, rfl⟩ : held = held' ∧ phase = phase' := h
  simp only [close]
  split
  · exact ⟨rfl, rfl⟩
  · split_ifs <;> exact ⟨rfl, rfl⟩

lemma alike_step (h : Alike s t) (b : UInt8) : Alike (step capacity s b) (step capacity t b) := by
  have hheld : s.held = t.held := h.1
  have hphase : s.phase = t.phase := h.2
  rcases hp : t.phase with _ | ⟨k, n⟩ | remaining <;> simp only [step, hphase, hheld, hp]
  · split_ifs
    · exact alike_close h
    · exact ⟨rfl, rfl⟩
    · exact ⟨rfl, rfl⟩
  · split_ifs <;> exact ⟨rfl, rfl⟩
  · exact ⟨rfl, rfl⟩

lemma alike_run (h : Alike s t) (w : Bytes) : Alike (run capacity s w) (run capacity t w) := by
  induction w generalizing s t with
  | nil => exact h
  | cons b w ih => exact ih (alike_step h b)

/-- The stream ends where a header begins. -/
def AtHeader (capacity : Nat) (w : Bytes) : Prop := Alike (run capacity start w) start

/-- The stream ends within the body of a frame that can never fit, of which `remaining` bytes are
still to come. -/
def Amid (capacity : Nat) (w : Bytes) (remaining : Nat) : Prop :=
  ∃ front header part, w = front ++ (header ++ [Frame.delimiter] ++ part) ∧
    AtHeader capacity front ∧ Frame.delimiter ∉ header ∧
    Frame.parseLength header = some (part.length + remaining) ∧
    capacity < header.length + 1 + (part.length + remaining)

/-- Where the scan of a stream stands. -/
structure Reads (capacity : Nat) (w : Bytes) (s : Scan) : Prop where
  header : s.phase = .header →
    ∃ front, w = front ++ s.held ∧ AtHeader capacity front ∧ Frame.delimiter ∉ s.held
  skipping : ∀ remaining, s.phase = .skipping remaining → s.held = [] ∧ Amid capacity w remaining

lemma reads_of_start (h : AtHeader capacity w) : Reads capacity w (run capacity start w) := by
  obtain ⟨hheld, hphase⟩ := h
  have hnil : (run capacity start w).held = [] := hheld
  refine ⟨fun _ => ⟨w, ?_, ⟨hheld, hphase⟩, ?_⟩, fun remaining hskip => ?_⟩
  · rw [hnil, List.append_nil]
  · rw [hnil]
    exact List.not_mem_nil
  · rw [hphase] at hskip
    cases hskip

lemma reads_of_body {h n : Nat} (hp : s.phase = .body h n) : Reads capacity w s :=
  ⟨fun hh => by simp [hp] at hh, fun _ hs => by simp [hp] at hs⟩

lemma run_snoc (s : Scan) (w : Bytes) (b : UInt8) :
    run capacity s (w ++ [b]) = step capacity (run capacity s w) b := run_append ..

lemma reads_close {front : Bytes} (hp : s.phase = .header) (hw : w = front ++ s.held)
    (hfront : AtHeader capacity front) (hdelim : Frame.delimiter ∉ s.held) :
    Alike (close capacity s) start ∨
      Reads capacity (w ++ [Frame.delimiter]) (close capacity s) := by
  rcases hn : Frame.parseLength s.held with _ | n
  · simp only [close, hn]
    exact .inl ⟨rfl, hp⟩
  · by_cases hover : capacity < s.held.length + 1 + n
    · simp only [close, hn, if_pos hover]
      refine .inr ⟨fun hh => by simp at hh, fun remaining hskip => ⟨rfl, ?_⟩⟩
      obtain rfl : n = remaining := Phase.skipping.inj hskip
      exact ⟨front, s.held, [], by simp [hw], hfront, hdelim, by simpa using hn,
        by simpa using hover⟩
    · by_cases hempty : n = 0
      · simp only [close, hn, if_neg hover, if_pos hempty]
        exact .inl (alike_emit ..)
      · simp only [close, hn, if_neg hover, if_neg hempty]
        exact .inr (reads_of_body rfl)

lemma reads_step (h : Reads capacity w s) (b : UInt8) :
    Alike (step capacity s b) start ∨ Reads capacity (w ++ [b]) (step capacity s b) := by
  rcases hp : s.phase with _ | ⟨k, n⟩ | remaining
  · obtain ⟨front, hw, hfront, hdelim⟩ := h.header hp
    simp only [step, hp]
    by_cases hb : b = Frame.delimiter
    · rw [if_pos hb, hb]
      exact reads_close hp hw hfront hdelim
    · rw [if_neg hb]
      split
      · refine .inr ⟨fun _ => ⟨front, by simp [hw], hfront, ?_⟩, fun _ hskip => by cases hskip⟩
        simp [hdelim, Ne.symm hb]
      · exact .inl (alike_emit ..)
  · simp only [step, hp]
    split
    · exact .inr (reads_of_body rfl)
    · exact .inl (alike_emit ..)
  · obtain ⟨hheld, front, header, part, rfl, hfront, hdelim, hn, hover⟩ := h.skipping remaining hp
    simp only [step, hp]
    by_cases hlast : remaining ≤ 1
    · rw [if_pos hlast]
      exact .inl ⟨hheld, rfl⟩
    · rw [if_neg hlast]
      refine .inr ⟨fun hh => by simp at hh, fun r hskip => ⟨hheld, ?_⟩⟩
      obtain rfl : remaining - 1 = r := Phase.skipping.inj hskip
      have hsum : (part ++ [b]).length + (remaining - 1) = part.length + remaining := by
        rw [List.length_append, List.length_singleton]
        omega
      exact ⟨front, header, part ++ [b], by simp, hfront, hdelim, by rw [hsum, hn],
        by rw [hsum]; exact hover⟩

lemma reads_run (w : Bytes) : Reads capacity w (run capacity start w) := by
  induction w using List.reverseRecOn with
  | nil => exact reads_of_start ⟨rfl, rfl⟩
  | append_singleton w b ih =>
    rcases reads_step ih b with hat | hreads
    · rw [← run_snoc] at hat
      exact reads_of_start hat
    · rwa [run_snoc]

end FrameScan

/-! ### What a feed takes in -/

namespace Accumulator

open FrameScan

variable {a : Accumulator} {data : Bytes} {now : Time} {capacity staleAfter : Nat}

/-- An accumulator as a feed finds it when it comes to buffering, and the bytes that are left to be
buffered: what is stale is gone, and so are the bytes of a skipped body. -/
def ready (a : Accumulator) (data : Bytes) (now : Time) : Accumulator × Bytes :=
  ({ a.expire now with lastReceipt := some now } : Accumulator).skim data

/-- The bytes that a feed takes in: all but those dropped for lack of room. -/
def kept (a : Accumulator) (data : Bytes) (now : Time) : Bytes :=
  data.take (data.length - ((a.feed data now).dropped - a.dropped))

lemma feed_ready (a : Accumulator) (data : Bytes) (now : Time) :
    a.feed data now = (a.ready data now).1.append (a.ready data now).2 := rfl

lemma buffer_skim (a : Accumulator) (data : Bytes) : (a.skim data).1.buffer = a.buffer := by
  rcases hp : a.phase with _ | _ | _ <;> simp only [skim, hp]

lemma room_skim (a : Accumulator) (data : Bytes) : (a.skim data).1.room = a.room := by
  rw [room, room, buffer_skim, (skim_frame a data).1]

lemma take_kept (data : Bytes) (room : Nat) :
    data.take (data.length - (data.length - room)) = data.take room :=
  List.take_eq_take_iff.mpr (by omega)

lemma skim_take (a : Accumulator) (data : Bytes) :
    a.skim (data.take (data.length - ((a.skim data).2.length - (a.skim data).1.room))) =
      ((a.skim data).1, (a.skim data).2.take (a.skim data).1.room) := by
  rw [room_skim]
  rcases hp : a.phase with _ | ⟨h, n⟩ | remaining
  · simp only [skim, hp, take_kept]
  · simp only [skim, hp, take_kept]
  · simp only [skim, hp, List.length_drop, List.length_take, List.drop_take]
    set size := data.length - (data.length - remaining - a.room)
    have hphase : skipped remaining (min size data.length) = skipped remaining data.length := by
      by_cases hends : remaining ≤ data.length
      · rw [skipped, skipped, if_pos hends, if_pos (by omega)]
      · rw [show min size data.length = data.length by omega]
    have hrest : (data.drop remaining).take (size - remaining) =
        (data.drop remaining).take a.room := by
      rw [← take_kept _ a.room, List.length_drop]
      congr 1
      omega
    rw [hphase, hrest]

lemma dropped_expire (a : Accumulator) (now : Time) : (a.expire now).dropped = a.dropped := by
  rcases a.expire_cases now with h | h <;> rw [h]
  rfl

lemma feed_kept (a : Accumulator) (data : Bytes) (now : Time) :
    a.feed (a.kept data now) now = { a.feed data now with dropped := a.dropped } := by
  set p := a.ready data now with hp
  have hdropped : p.1.dropped = a.dropped :=
    (skim_frame _ data).2.2.2.trans (dropped_expire a now)
  have hlost : (a.feed data now).dropped - a.dropped = p.2.length - p.1.room := by
    rw [feed_ready, ← hp]
    simp only [append, hdropped]
    omega
  have hready : a.ready (a.kept data now) now = (p.1, p.2.take p.1.room) := by
    rw [kept, hlost]
    exact skim_take _ data
  have hfits : (p.2.take p.1.room).length - p.1.room = 0 :=
    Nat.sub_eq_zero_of_le (List.length_take_le ..)
  rw [feed_ready, feed_ready, ← hp, hready]
  simp only [append, List.take_take, Nat.min_self, hfits, hdropped, Nat.add_zero]

lemma sound_refreshed (hs : Sound a) (hset : Settled a) (now : Time) :
    Sound (a.refreshed now) ∧ Settled (a.refreshed now) ∧
      (a.refreshed now).capacity = a.capacity := by
  rcases a.expire_cases now with he | he <;> rw [refreshed, he]
  · exact ⟨⟨hs.pos, hs.len, hs.phase⟩, hset, rfl⟩
  · exact ⟨⟨hs.pos, Nat.zero_le _, trivial⟩, fun _ _ => rfl, rfl⟩

/-- A feed carries the scan on over what it takes in, whenever it comes and whether or not there is
room for all of it. -/
lemma scan_feed (hs : Sound a) (hset : Settled a) (data : Bytes) (now : Time) :
    Sound (a.feed data now) ∧ Settled (a.feed data now) ∧
      (a.feed data now).scan = run a.capacity (a.refreshed now).scan (a.kept data now) := by
  obtain ⟨hfresh, hfresh', hcap⟩ := sound_refreshed hs hset now
  have hfeed : (a.refreshed now).feed (a.kept data now) now =
      { a.feed data now with dropped := a.dropped } := feed_kept a data now
  have hkeep : ((a.refreshed now).feed (a.kept data now) now).dropped =
      (a.refreshed now).dropped := by
    rw [hfeed]
    exact (dropped_expire a now).symm
  obtain ⟨h1, h2, h3⟩ := feed_scan hfresh hfresh' (inTime_refreshed a now) hkeep
  rw [hfeed] at h1 h2 h3
  rw [hcap] at h3
  exact ⟨⟨h1.pos, h1.len, h1.phase⟩, h2, h3⟩

/-! ### Calls in any order -/

inductive Call
  | feed (data : Bytes) (now : Time)
  /-- At most this many items are pulled. -/
  | pull (count : Nat)
  /-- All items are pulled. -/
  | drain
  | reset

/-- An accumulator, and the bytes that it has taken in since it was last reset, on call or after a
gap that was too long. -/
structure Track where
  accumulator : Accumulator
  taken : Bytes

namespace Track

def call (t : Track) : Call → Track
  | .feed data now =>
    ⟨t.accumulator.feed data now,
      (if t.accumulator.expire now = t.accumulator then t.taken else []) ++
        t.accumulator.kept data now⟩
  | .pull count => { t with accumulator := (t.accumulator.pulls count).2 }
  | .drain => { t with accumulator := t.accumulator.drain.2 }
  | .reset => ⟨t.accumulator.reset, []⟩

/-- What calls, one after the other, make of a new accumulator. -/
def after (capacity staleAfter : Nat) (calls : List Call) : Track :=
  calls.foldl call ⟨new capacity staleAfter, []⟩

/-- The accumulator is sound, and stands where a scan of the bytes taken in stands. -/
structure Inv (capacity : Nat) (t : Track) : Prop where
  size : t.accumulator.capacity = capacity
  sound : Sound t.accumulator
  settled : Settled t.accumulator
  scan : Alike (run capacity start t.taken) t.accumulator.scan

variable {t : Track}

lemma inv_new (hpos : 1 ≤ capacity) : Inv capacity ⟨new capacity staleAfter, []⟩ :=
  ⟨rfl, sound_new hpos, settled_new capacity staleAfter, ⟨rfl, rfl⟩⟩

lemma inv_feed (h : Inv capacity t) (data : Bytes) (now : Time) :
    Inv capacity (t.call (.feed data now)) := by
  obtain ⟨hcap, hs, hset, hscan⟩ := h
  obtain ⟨hs', hset', hrun⟩ := scan_feed hs hset data now
  refine ⟨(feed_frame t.accumulator data now).1.trans hcap, hs', hset', ?_⟩
  -- what is stale is gone from the accumulator, and so it is from the bytes taken in
  have hfresh : Alike (run capacity start
      (if t.accumulator.expire now = t.accumulator then t.taken else []))
      (t.accumulator.refreshed now).scan := by
    rcases t.accumulator.expire_cases now with he | he
    · rw [if_pos he, refreshed, he]
      exact hscan
    · by_cases hsame : t.accumulator.expire now = t.accumulator
      · rw [if_pos hsame, refreshed, hsame]
        exact hscan
      · rw [if_neg hsame, refreshed, he]
        exact ⟨rfl, rfl⟩
  have hcall : (t.call (.feed data now)).accumulator.scan = _ := hrun
  rw [hcall, call, run_append, hcap]
  exact alike_run hfresh _

lemma inv_pull (h : Inv capacity t) (count : Nat) : Inv capacity (t.call (.pull count)) := by
  obtain ⟨hcap, hs, hset, hscan⟩ := h
  obtain ⟨hs', hset', hrun⟩ := pulls_scan count hs hset
  refine ⟨(pulls_frame count t.accumulator).1.trans hcap, hs', hset', hscan.trans ?_⟩
  rw [hrun]
  exact ⟨rfl, rfl⟩

lemma inv_call (h : Inv capacity t) (c : Call) : Inv capacity (t.call c) := by
  cases c with
  | feed data now => exact inv_feed h data now
  | pull count => exact inv_pull h count
  | drain => exact inv_pull h _
  | reset => exact ⟨h.size, sound_reset h.sound, fun _ _ => rfl, ⟨rfl, rfl⟩⟩

lemma inv_after (hpos : 1 ≤ capacity) (calls : List Call) :
    Inv capacity (after capacity staleAfter calls) := by
  induction calls using List.reverseRecOn with
  | nil => exact inv_new hpos
  | append_singleton calls c ih =>
    rw [after, List.foldl_append]
    exact inv_call ih c

end Track

/-! ### What the fields say -/

/-- The rest of a frame is awaited whose header has `h` bytes and whose body has `n`. -/
structure Awaits (a : Accumulator) (h n : Nat) : Prop where
  headed : Headed h n a.buffer
  two_le : 2 ≤ h
  fits : h + n ≤ a.capacity
  declared : a.declaredLength = some (h + n)
  header : a.headerLength = some h

/-- A body is skipped, of which `remaining` bytes are still to come. -/
structure Skips (a : Accumulator) (taken : Bytes) (remaining : Nat) : Prop where
  empty : a.buffer = []
  pos : 0 < remaining
  amid : Amid a.capacity taken remaining
  /-- So many bytes are passed over by the next feeds, -/
  passes : ∀ data now, a.expire now = a → (a.ready data now).2 = data.drop remaining
  /-- and with them the body ends. -/
  ends : ∀ rest : Bytes, rest.length = remaining → AtHeader a.capacity (taken ++ rest)

/-- Nothing is left to be pulled. -/
structure Exhausted (a : Accumulator) : Prop where
  pull : a.pull = (none, a)
  short : a.buffer.length < a.capacity
  header : a.phase = .header → Frame.delimiter ∉ a.buffer

/-- What the fields of an accumulator say of its buffer and of the bytes that it has taken in. -/
structure Represents (capacity : Nat) (a : Accumulator) (taken : Bytes) : Prop where
  size : a.capacity = capacity
  fits : a.buffer.length ≤ capacity
  /-- Where the length of the buffer is taken from the capacity, it is not above it. -/
  room : ∀ data now, (a.ready data now).1.buffer.length + (a.ready data now).1.room = capacity
  body : ∀ h n, a.phase = .body h n → Awaits a h n
  undeclared : (∀ h n, a.phase ≠ .body h n) → a.declaredLength = none ∧ a.headerLength = none
  skipping : ∀ remaining, a.phase = .skipping remaining → Skips a taken remaining
  drained : Exhausted a.drain.2

lemma Headed.two_le {h n : Nat} {buffer : Bytes} (hb : Headed h n buffer) : 2 ≤ h := by
  obtain ⟨header, rest, -, -, rfl, hn⟩ := hb
  have := (Frame.parseLength_eq_some_iff.mp hn).nonempty
  omega

lemma awaits_of_body {h n : Nat} (hs : Sound a) (hp : a.phase = .body h n) : Awaits a h n := by
  have hphase := hs.phase
  simp only [PhaseSound, hp] at hphase
  exact ⟨hphase.1, hphase.1.two_le, hphase.2, by simp [declaredLength, hp],
    by simp [headerLength, hp]⟩

lemma Drained.exhausted (h : Drained a) : Exhausted a := by
  have hwithin := h.within
  have hdelim : a.phase = .header → Frame.delimiter ∉ a.buffer := by
    intro hp
    have hscan : Alike (run a.capacity start a.buffer) ⟨a.buffer, a.phase, [], a.malformed⟩ := by
      have hstart : Alike start ⟨[], opening .header, [], a.malformed⟩ := ⟨rfl, rfl⟩
      rw [← h.quiet, scan, hp]
      exact alike_run hstart _
    obtain ⟨-, -, -, hheld⟩ := (reads_run a.buffer).header (hscan.2.trans hp)
    rwa [hscan.1] at hheld
  refine ⟨?_, h.length_lt, hdelim⟩
  rcases hp : a.phase with _ | ⟨k, n⟩ | remaining
  · have hnone : a.buffer.dropWhile (· != Frame.delimiter) = [] := by
      rw [List.dropWhile_eq_nil_iff]
      intro b hb
      exact bne_iff_ne.mpr fun heq => hdelim hp (heq ▸ hb)
    rw [pull_header_nil hp hnone, if_neg (Nat.not_le.mpr h.length_lt)]
  · rw [pull_body hp, if_pos (hwithin.body k n hp).1]
  · have hpos : 0 < remaining := by simpa [PhaseSound, hp] using h.sound.phase
    have hempty := h.settled remaining hp
    have hsame : ({ a with buffer := [], phase := .skipping remaining } : Accumulator) = a := by
      rw [← hp, ← hempty]
    rw [pull_skipping hp, hempty, if_neg (by simpa using hpos.ne'), List.length_nil, Nat.sub_zero,
      hsame]

lemma skips_of_inv {t : Track} {remaining : Nat} (h : t.Inv capacity)
    (hp : t.accumulator.phase = .skipping remaining) : Skips t.accumulator t.taken remaining := by
  obtain ⟨rfl, hs, hset, hscan⟩ := h
  have hempty := hset remaining hp
  have hpos : 0 < remaining := by simpa [PhaseSound, hp] using hs.phase
  have halike : Alike (run t.accumulator.capacity start t.taken)
      ⟨[], .skipping remaining, [], t.accumulator.malformed⟩ := by
    rw [scan, hempty, hp] at hscan
    exact hscan
  refine ⟨hempty, hpos, ((reads_run t.taken).skipping remaining halike.2).2, ?_, ?_⟩
  · intro data now hsame
    rw [ready, hsame]
    simp only [skim, hp]
  · intro rest hlen
    rw [AtHeader, run_append]
    refine (alike_run halike rest).trans ?_
    rw [run_skipping hpos hlen]
    exact ⟨rfl, rfl⟩

lemma room_ready (hs : Sound a) (data : Bytes) (now : Time) :
    (a.ready data now).1.buffer.length + (a.ready data now).1.room = a.capacity := by
  have hcap : (a.ready data now).1.capacity = (a.expire now).capacity := (skim_frame _ data).1
  have hbuffer : (a.ready data now).1.buffer = (a.expire now).buffer := buffer_skim _ data
  rw [room, hbuffer, hcap]
  rcases a.expire_cases now with he | he <;> rw [he]
  · exact Nat.add_sub_cancel' hs.len
  · exact Nat.zero_add _

/-- **What the fields of an accumulator say holds after any calls.** The buffer fits; a frame that
is awaited has its header at the start of the buffer; of a body that is skipped nothing is there,
and what is passed over are its next bytes; and when all items have been pulled there is room for
another byte, and no header is left to be read. -/
theorem represents_of_calls {capacity : Nat} (hpos : 1 ≤ capacity) (staleAfter : Nat)
    (calls : List Call) : Represents capacity (Track.after capacity staleAfter calls).accumulator
      (Track.after capacity staleAfter calls).taken := by
  have h : (Track.after capacity staleAfter calls).Inv capacity := Track.inv_after hpos calls
  set t := Track.after capacity staleAfter calls
  have hdrained : Drained t.accumulator.drain.2 := by
    obtain ⟨hs, hset, -⟩ := pulls_scan (t.accumulator.buffer.length + 1) h.sound h.settled
    exact ⟨hs, hset, quiet_pulls h.sound (Nat.lt_succ_self _)⟩
  have hfits := h.sound.len
  rw [h.size] at hfits
  refine ⟨h.size, hfits, fun data now => ?_, fun k n hp => awaits_of_body h.sound hp, ?_,
    fun remaining hp => skips_of_inv h hp, hdrained.exhausted⟩
  · rw [room_ready h.sound, h.size]
  · intro hnone
    rcases hp : t.accumulator.phase with _ | ⟨k, n⟩ | remaining
    · simp [declaredLength, headerLength, hp]
    · exact absurd hp (hnone k n)
    · simp [declaredLength, headerLength, hp]

/-- Feeds of `2;ok9;ab`, which fills the buffer, of `cde`, all of which is dropped, and of `cdefg`,
with an iterator dropped early and one run to its end in between. -/
def crowded : List Call :=
  [.feed [50, 59, 111, 107, 57, 59, 97, 98] 0, .pull 0, .feed [99, 100, 101] 100, .pull 1, .drain,
    .feed [99, 100, 101, 102, 103] 200]

theorem represents_of_calls_crowded :
    (Track.after 8 1500 crowded).accumulator.phase = .skipping 2 ∧
      (Track.after 8 1500 crowded).taken =
        [50, 59, 111, 107, 57, 59, 97, 98, 99, 100, 101, 102, 103] ∧
      Represents 8 (Track.after 8 1500 crowded).accumulator (Track.after 8 1500 crowded).taken :=
  ⟨by decide +kernel, by decide +kernel, represents_of_calls (by decide) 1500 crowded⟩

end Accumulator

end HomeHub
