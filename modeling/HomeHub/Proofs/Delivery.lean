import Mathlib.Data.List.Chain
import Mathlib.Data.List.TakeWhile
import HomeHub.Proofs.FrameScan

/-!
An accumulator yields what a one-pass scan of the whole stream yields, however the stream is
cut into receipts and however many items are pulled after each of them.

An accumulator stands for a scan: the one of its buffer, from the last boundary on. Taking in
bytes carries that scan on over them, and pulling moves items out of it; so between two calls
nothing but what has been scanned and what has been pulled decides how it goes on.
-/

namespace HomeHub.Accumulator

open FrameScan

/-! ### The scan of an accumulator -/

/-- The buffer begins with the header of a body of `n` bytes, and the header has `h`. -/
def Headed (h n : Nat) (buffer : Bytes) : Prop :=
  ∃ u rest, buffer = u ++ [Frame.delimiter] ++ rest ∧ Frame.delimiter ∉ u ∧ h = u.length + 1 ∧
    Frame.parseLength u = some n

def PhaseSound (a : Accumulator) : Prop :=
  match a.phase with
  | .header => True
  | .body h n => Headed h n a.buffer ∧ h + n ≤ a.capacity
  | .skipping remaining => 0 < remaining

structure Sound (a : Accumulator) : Prop where
  pos : 1 ≤ a.capacity
  len : a.buffer.length ≤ a.capacity
  phase : PhaseSound a

/-- While a body is skipped nothing is buffered. -/
def Settled (a : Accumulator) : Prop := ∀ remaining, a.phase = .skipping remaining → a.buffer = []

/-- The phase at the first byte of the buffer: the header of an unfinished frame is still there. -/
def opening : Phase → Phase
  | .body _ _ => .header
  | p => p

@[simp] lemma opening_header : opening .header = .header := rfl
@[simp] lemma opening_body (h n : Nat) : opening (.body h n) = .header := rfl
@[simp] lemma opening_skipping (remaining : Nat) :
    opening (.skipping remaining) = .skipping remaining := rfl

/-- The scan that an accumulator stands for. -/
def scan (a : Accumulator) : Scan :=
  run a.capacity ⟨[], opening a.phase, [], a.malformed⟩ a.buffer

/-- Nothing that has been received is waiting to be pulled. -/
def Quiet (a : Accumulator) : Prop := a.scan = ⟨a.buffer, a.phase, [], a.malformed⟩

lemma sound_new {capacity staleAfter : Nat} (h : 1 ≤ capacity) : Sound (new capacity staleAfter) :=
  ⟨h, by simp [new], trivial⟩

lemma settled_new (capacity staleAfter : Nat) : Settled (new capacity staleAfter) :=
  fun _ _ => rfl

lemma scan_new (capacity staleAfter : Nat) : (new capacity staleAfter).scan = start := rfl

lemma sound_reset {a : Accumulator} (h : Sound a) : Sound a.reset :=
  ⟨h.pos, by simp [reset], trivial⟩

lemma quiet_reset (a : Accumulator) : Quiet a.reset := rfl

lemma split_at_delimiter {buffer rest : Bytes} {b : UInt8}
    (h : buffer.dropWhile (· != Frame.delimiter) = b :: rest) :
    buffer = buffer.takeWhile (· != Frame.delimiter) ++ [Frame.delimiter] ++ rest := by
  have hb : b = Frame.delimiter := by
    have := List.head_dropWhile_not (· != Frame.delimiter) (l := buffer) (by simp [h])
    simpa [h] using this
  conv_lhs => rw [← List.takeWhile_append_dropWhile (p := (· != Frame.delimiter)) (l := buffer)]
  rw [h, hb, List.append_cons]

lemma delimiter_notMem_takeWhile (buffer : Bytes) :
    Frame.delimiter ∉ buffer.takeWhile (· != Frame.delimiter) := by
  intro h
  simpa using List.mem_takeWhile_imp h

lemma delimiter_notMem {buffer : Bytes} (h : buffer.dropWhile (· != Frame.delimiter) = []) :
    Frame.delimiter ∉ buffer := by
  intro hmem
  simpa using List.dropWhile_eq_nil_iff.mp h _ hmem

/-! ### Pulling -/

lemma pull_frame (a : Accumulator) :
    a.pull.2.capacity = a.capacity ∧ a.pull.2.staleAfter = a.staleAfter ∧
      a.pull.2.lastReceipt = a.lastReceipt ∧ a.pull.2.dropped = a.dropped := by
  fun_induction pull a <;> simp_all [reset]

lemma length_header {a : Accumulator} {b : UInt8} {rest : Bytes}
    (h : a.buffer.dropWhile (· != Frame.delimiter) = b :: rest) :
    (a.buffer.takeWhile (· != Frame.delimiter)).length + 1 + rest.length = a.buffer.length := by
  have := congrArg List.length (split_at_delimiter h)
  simp only [List.length_append, List.length_singleton] at this
  omega

/-! The accumulators that a pull passes through. -/

section Sound

variable {a : Accumulator} {b : UInt8} {rest : Bytes} (hs : Sound a)
include hs

lemma sound_malformed (hp : a.phase = .header) (hlt : rest.length < a.buffer.length) :
    Sound { a with buffer := rest, malformed := a.malformed + 1 } := by
  have := hs.len
  exact ⟨hs.pos, by simp only; omega, by simp [PhaseSound, hp]⟩

lemma sound_oversized {n : Nat} (hb : a.buffer.dropWhile (· != Frame.delimiter) = b :: rest)
    (hover : a.capacity < (a.buffer.takeWhile (· != Frame.delimiter)).length + 1 + n) :
    Sound { a with buffer := rest, phase := .skipping n } := by
  have hlen := length_header hb
  have := hs.len
  refine ⟨hs.pos, by simp only; omega, ?_⟩
  show 0 < n
  omega

lemma sound_fitting {n : Nat} (hb : a.buffer.dropWhile (· != Frame.delimiter) = b :: rest)
    (hn : Frame.parseLength (a.buffer.takeWhile (· != Frame.delimiter)) = some n)
    (hfit : ¬ a.capacity < (a.buffer.takeWhile (· != Frame.delimiter)).length + 1 + n) :
    Sound { a with
      phase := .body ((a.buffer.takeWhile (· != Frame.delimiter)).length + 1) n } := by
  refine ⟨hs.pos, hs.len, ⟨_, rest, split_at_delimiter hb, ?_, rfl, hn⟩, ?_⟩
  · exact delimiter_notMem_takeWhile a.buffer
  · simp only
    omega

lemma sound_drop (k : Nat) : Sound { a with buffer := a.buffer.drop k, phase := .header } := by
  have := hs.len
  exact ⟨hs.pos, by simp only [List.length_drop]; omega, trivial⟩

end Sound

lemma sound_pull {a : Accumulator} (hs : Sound a) : Sound a.pull.2 := by
  fun_induction pull a with
  | case1 => exact sound_reset hs
  | case2 => exact hs
  | case3 a hp _ rest _ hlt _ _ ih => exact ih (sound_malformed hs hp hlt)
  | case4 a _ _ _ hb _ _ n _ hover ih => exact ih (sound_oversized hs hb hover)
  | case5 a _ _ _ hb _ _ n hn hfit ih => exact ih (sound_fitting hs hb hn hfit)
  | case6 => exact hs
  | case7 a h n _ _ => exact sound_drop hs (h + n)
  | case8 a remaining _ _ ih => exact ih (sound_drop hs remaining)
  | case9 a remaining _ hlen =>
    refine ⟨hs.pos, Nat.zero_le _, ?_⟩
    show 0 < remaining - a.buffer.length
    omega

lemma settled_pull (a : Accumulator) : Settled a.pull.2 := by
  fun_induction pull a with
  | case1 => exact fun _ _ => rfl
  | case2 a hp => exact fun _ h => by simp [hp] at h
  | case3 _ _ _ _ _ _ _ _ ih => exact ih
  | case4 _ _ _ _ _ _ _ _ _ _ ih => exact ih
  | case5 _ _ _ _ _ _ _ _ _ _ ih => exact ih
  | case6 a _ _ hp => exact fun _ h => by simp [hp] at h
  | case7 => exact fun _ h => by simp at h
  | case8 _ _ _ _ ih => exact ih
  | case9 => exact fun _ _ => rfl

lemma payload_split {a : Accumulator} {h n : Nat} (hs : Sound a) (hp : a.phase = .body h n)
    (hall : h + n ≤ a.buffer.length) :
    ∃ u, Frame.delimiter ∉ u ∧ u.length + 1 = h ∧
      Frame.parseLength u = some ((a.buffer.drop h).take n).length ∧
      u.length + 1 + ((a.buffer.drop h).take n).length ≤ a.capacity ∧
      a.buffer = u ++ [Frame.delimiter] ++ (a.buffer.drop h).take n ++ a.buffer.drop (h + n) := by
  have hph := hs.phase
  simp only [PhaseSound, hp] at hph
  obtain ⟨⟨u, rest, hbuf, hu, rfl, hparse⟩, hfit⟩ := hph
  have hlen : ((a.buffer.drop (u.length + 1)).take n).length = n := by
    rw [List.length_take, List.length_drop]
    omega
  have hdrop : a.buffer.drop (u.length + 1) = rest := by
    rw [hbuf]
    exact List.drop_left' (by simp)
  refine ⟨u, hu, rfl, by rw [hlen, hparse], by rw [hlen]; exact hfit, ?_⟩
  have hrest : a.buffer.drop (u.length + 1 + n) = rest.drop n := by rw [← hdrop, List.drop_drop]
  rw [hrest, hdrop, List.append_assoc _ (rest.take n), List.take_append_drop, hbuf]

/-- A pull takes the first item out of the scan, if there is one, and changes nothing else of
it. -/
lemma scan_pull {a : Accumulator} (hs : Sound a) :
    a.scan = a.pull.2.scan.after a.pull.1.toList := by
  have hlen := hs.len
  fun_induction pull a with
  | case1 a hp hb hfull =>
    unfold scan
    rw [hp, opening_header, run_overflow (delimiter_notMem hb) (by omega) hs.pos]
    rfl
  | case2 => rfl
  | case3 a hp _ rest hb hlt header hn ih =>
    have hhead := length_header hb
    rw [← ih (sound_malformed hs hp hlt) (by simp only; omega)]
    unfold scan
    conv_lhs => rw [split_at_delimiter hb, run_append]
    rw [hp, opening_header, run_malformed (delimiter_notMem_takeWhile _) (by omega) hn]
  | case4 a hp _ rest hb hlt header n hn hover ih =>
    have hhead := length_header hb
    rw [← ih (sound_oversized hs hb hover) (by simp only; omega)]
    unfold scan
    conv_lhs => rw [split_at_delimiter hb, run_append]
    rw [hp, opening_header, run_oversized (delimiter_notMem_takeWhile _) (by omega) hn hover]
    rfl
  | case5 a hp _ rest hb hlt header n hn hfit ih =>
    rw [← ih (sound_fitting hs hb hn hfit) hlen]
    simp [scan, hp]
  | case6 => rfl
  | case7 a h n hp hshort =>
    obtain ⟨u, hu, hh, hparse, hfit, hbuf⟩ := payload_split hs hp (by omega)
    unfold scan
    conv_lhs => rw [hbuf, run_append]
    rw [hp, opening_body, run_frame hu (by omega) hparse hfit]
    have h := run_after a.capacity [.ok ((a.buffer.drop h).take n)]
      ⟨[], .header, [], a.malformed⟩ (a.buffer.drop (h + n))
    simpa [Scan.after] using h
  | case8 a remaining hp hrest ih =>
    have hpos : 0 < remaining := by simpa [PhaseSound, hp] using hs.phase
    rw [← ih (sound_drop hs remaining) (by simp only [List.length_drop]; omega)]
    unfold scan
    conv_lhs => rw [← List.take_append_drop remaining a.buffer, run_append]
    rw [hp, opening_skipping, run_skipping hpos (List.length_take_of_le hrest)]
    rfl
  | case9 a remaining hp hrest =>
    unfold scan
    rw [hp, opening_skipping, run_skipping_short (by omega)]
    rfl

lemma quiet_pull {a : Accumulator} (hs : Sound a) (h : ∀ payload, a.pull.1 ≠ some (.ok payload)) :
    Quiet a.pull.2 := by
  have hlen := hs.len
  fun_induction pull a with
  | case1 a => exact quiet_reset a
  | case2 a hp hb hroom =>
    unfold Quiet scan
    rw [hp, opening_header,
      run_header (delimiter_notMem hb) (by simp only [List.length_nil]; omega)]
    rfl
  | case3 a hp _ rest hb hlt header hn ih =>
    exact ih (sound_malformed hs hp hlt) h (by simp only; omega)
  | case4 a _ _ _ hb hlt _ n _ hover ih =>
    exact ih (sound_oversized hs hb hover) h (by simp only; omega)
  | case5 a _ _ _ hb _ _ n hn hfit ih => exact ih (sound_fitting hs hb hn hfit) h hlen
  | case6 a h n hp hshort =>
    have hph := hs.phase
    simp only [PhaseSound, hp] at hph
    obtain ⟨⟨u, rest, hbuf, hu, rfl, hparse⟩, hfit⟩ := hph
    have hrest := congrArg List.length hbuf
    simp only [List.length_append, List.length_singleton] at hrest
    unfold Quiet scan
    rw [hp, hbuf, opening_body, run_frame_short hu (by omega) hparse hfit (by omega)]
  | case7 a k n => exact absurd rfl (h ((a.buffer.drop k).take n))
  | case8 a remaining _ _ ih =>
    exact ih (sound_drop hs remaining) h (by simp only [List.length_drop]; omega)
  | case9 => rfl

lemma length_pull {a : Accumulator} (hs : Sound a) {payload : Bytes}
    (h : a.pull.1 = some (.ok payload)) : a.pull.2.buffer.length < a.buffer.length := by
  fun_induction pull a with
  | case1 => simp at h
  | case2 => simp at h
  | case3 a hp _ rest hb hlt header hn ih => exact lt_trans (ih (sound_malformed hs hp hlt) h) hlt
  | case4 a _ _ _ hb hlt _ n _ hover ih => exact lt_trans (ih (sound_oversized hs hb hover) h) hlt
  | case5 a _ _ _ hb _ _ n hn hfit ih => exact ih (sound_fitting hs hb hn hfit) h
  | case6 => simp at h
  | case7 a k n hp hall =>
    obtain ⟨u, -, hk, -⟩ := payload_split hs hp (by omega)
    simp only [List.length_drop]
    omega
  | case8 a remaining _ _ ih =>
    have := ih (sound_drop hs remaining) h
    simp only [List.length_drop] at this
    omega
  | case9 => simp at h

/-! ### Several pulls -/

lemma pulls_frame (count : Nat) (a : Accumulator) :
    (a.pulls count).2.capacity = a.capacity ∧ (a.pulls count).2.staleAfter = a.staleAfter ∧
      (a.pulls count).2.lastReceipt = a.lastReceipt ∧ (a.pulls count).2.dropped = a.dropped := by
  induction count generalizing a with
  | zero => exact ⟨rfl, rfl, rfl, rfl⟩
  | succ count ih =>
    have hf := pull_frame a
    rcases h : a.pull with ⟨_ | _ | payload, b⟩ <;> simp only [h] at hf <;> simp only [pulls, h]
    · exact hf
    · exact hf
    · obtain ⟨h1, h2, h3, h4⟩ := ih b
      exact ⟨h1.trans hf.1, h2.trans hf.2.1, h3.trans hf.2.2.1, h4.trans hf.2.2.2⟩

lemma pulls_scan (count : Nat) {a : Accumulator} (hs : Sound a) (hset : Settled a) :
    Sound (a.pulls count).2 ∧ Settled (a.pulls count).2 ∧
      a.scan = (a.pulls count).2.scan.after (a.pulls count).1 := by
  induction count generalizing a with
  | zero => exact ⟨hs, hset, rfl⟩
  | succ count ih =>
    have h1 := sound_pull hs
    have h2 := settled_pull a
    have h3 := scan_pull hs
    rcases h : a.pull with ⟨_ | _ | payload, b⟩ <;> simp only [h] at h1 h2 h3 <;>
      simp only [pulls, h]
    · exact ⟨h1, h2, h3⟩
    · exact ⟨h1, h2, h3⟩
    · obtain ⟨i1, i2, i3⟩ := ih h1 h2
      exact ⟨i1, i2, by rw [h3, i3, after_after]; rfl⟩

lemma quiet_pulls {count : Nat} {a : Accumulator} (hs : Sound a) (h : a.buffer.length < count) :
    Quiet (a.pulls count).2 := by
  induction count generalizing a with
  | zero => omega
  | succ count ih =>
    have h1 := sound_pull hs
    have h2 := quiet_pull hs
    have h3 (payload : Bytes) : a.pull.1 = some (.ok payload) → _ := length_pull hs
    rcases hp : a.pull with ⟨_ | _ | payload, b⟩ <;> simp only [hp] at h1 h2 h3 <;>
      simp only [pulls, hp]
    · exact h2 (by simp)
    · exact h2 (by simp)
    · have := h3 payload rfl
      exact ih h1 (by omega)

/-! ### Taking in bytes -/

/-- The gap since the last receipt is within the limit. -/
def InTime (a : Accumulator) (now : Time) : Prop :=
  ∀ last, a.lastReceipt = some last → elapsed last now ≤ a.staleAfter

lemma expire_eq {a : Accumulator} {now : Time} (h : InTime a now) : a.expire now = a := by
  unfold expire
  rcases hl : a.lastReceipt with _ | last
  · rfl
  · have := h last hl
    simp [Nat.not_lt.mpr this]

lemma expire_cases (a : Accumulator) (now : Time) : a.expire now = a ∨ a.expire now = a.reset := by
  unfold expire
  split
  · split
    · exact .inr rfl
    · exact .inl rfl
  · exact .inl rfl

lemma skim_frame (a : Accumulator) (data : Bytes) :
    (a.skim data).1.capacity = a.capacity ∧ (a.skim data).1.staleAfter = a.staleAfter ∧
      (a.skim data).1.lastReceipt = a.lastReceipt ∧ (a.skim data).1.dropped = a.dropped := by
  unfold skim
  split <;> exact ⟨rfl, rfl, rfl, rfl⟩

lemma skim_scan {a : Accumulator} (hs : Sound a) (hset : Settled a) (data : Bytes) :
    Sound (a.skim data).1 ∧
      (∀ remaining, (a.skim data).1.phase = .skipping remaining → (a.skim data).2 = []) ∧
      Settled (a.skim data).1 ∧
      run a.capacity a.scan data = run a.capacity (a.skim data).1.scan (a.skim data).2 := by
  rcases hp : a.phase with _ | ⟨h, n⟩ | remaining
  · simp only [skim, hp]
    exact ⟨hs, by simp, hset, trivial⟩
  · simp only [skim, hp]
    exact ⟨hs, by simp, hset, trivial⟩
  · have hbuf := hset remaining hp
    have hpos : 0 < remaining := by simpa [PhaseSound, hp] using hs.phase
    have hscan : a.scan = ⟨[], .skipping remaining, [], a.malformed⟩ := by simp [scan, hp, hbuf]
    simp only [skim, hp, hscan]
    by_cases hlen : remaining ≤ data.length
    · -- the body ends within the data
      refine ⟨⟨hs.pos, hs.len, by simp [PhaseSound, skipped, hlen]⟩, by simp [skipped, hlen],
        by simp [Settled, skipped, hlen], ?_⟩
      conv_lhs => rw [← List.take_append_drop remaining data, run_append]
      rw [run_skipping hpos (List.length_take_of_le hlen)]
      simp [scan, hbuf, skipped, hlen]
    · have hlt : data.length < remaining := by omega
      have hdrop : data.drop remaining = [] := List.drop_of_length_le (by omega)
      refine ⟨⟨hs.pos, hs.len, ?_⟩, fun _ _ => hdrop, fun _ _ => hbuf, ?_⟩
      · simp only [PhaseSound, skipped, hlen, if_false]
        omega
      · rw [run_skipping_short hlt, hdrop]
        simp [scan, hbuf, skipped, hlen]

lemma append_scan {a : Accumulator} (hs : Sound a) {data : Bytes} (hroom : data.length ≤ a.room) :
    Sound (a.append data) ∧ (a.append data).scan = run a.capacity a.scan data := by
  have hlen := hs.len
  have htake : data.take a.room = data := List.take_of_length_le hroom
  unfold room at hroom
  refine ⟨⟨hs.pos, ?_, ?_⟩, ?_⟩
  · simp only [append, htake, List.length_append]
    omega
  · have hph := hs.phase
    rcases hp : a.phase with _ | ⟨h, n⟩ | remaining <;> simp only [PhaseSound, hp] at hph <;>
      simp only [PhaseSound, append, hp]
    · obtain ⟨⟨u, rest, hbuf, hu⟩, hfit⟩ := hph
      exact ⟨⟨u, rest ++ data.take a.room, by simp [hbuf], hu⟩, hfit⟩
    · exact hph
  · simp only [scan, append, htake, run_append]

/-- Taking in bytes, none of them dropped, carries the scan on over them. -/
lemma feed_scan {a : Accumulator} (hs : Sound a) (hset : Settled a) {data : Bytes} {now : Time}
    (hgap : InTime a now) (hkeep : (a.feed data now).dropped = a.dropped) :
    Sound (a.feed data now) ∧ Settled (a.feed data now) ∧
      (a.feed data now).scan = run a.capacity a.scan data := by
  set b : Accumulator := { a with lastReceipt := some now } with hb
  have hfeed : a.feed data now = (b.skim data).1.append (b.skim data).2 := by
    simp only [feed, expire_eq hgap, ← hb]
  obtain ⟨hcap, -, -, hdropped⟩ := skim_frame b data
  obtain ⟨h1, h2, h3, h4⟩ := skim_scan (a := b) ⟨hs.pos, hs.len, hs.phase⟩ hset data
  have hroom : (b.skim data).2.length ≤ (b.skim data).1.room := by
    have hdropped' : b.dropped = a.dropped := rfl
    rw [hfeed] at hkeep
    simp only [append] at hkeep
    omega
  obtain ⟨h5, h6⟩ := append_scan h1 hroom
  rw [hfeed]
  refine ⟨h5, ?_, ?_⟩
  · intro remaining hp
    have hp' : (b.skim data).1.phase = .skipping remaining := hp
    simp [append, h2 remaining hp', h3 remaining hp']
  · rw [h6, hcap, ← h4]
    rfl

lemma feed_frame (a : Accumulator) (data : Bytes) (now : Time) :
    (a.feed data now).capacity = a.capacity ∧ (a.feed data now).staleAfter = a.staleAfter ∧
      (a.feed data now).lastReceipt = some now ∧ a.dropped ≤ (a.feed data now).dropped := by
  have hexpire : (a.expire now).capacity = a.capacity ∧ (a.expire now).staleAfter = a.staleAfter ∧
      (a.expire now).dropped = a.dropped := by
    unfold expire
    split
    · split <;> exact ⟨rfl, rfl, rfl⟩
    · exact ⟨rfl, rfl, rfl⟩
  obtain ⟨h1, h2, h3, h4⟩ := skim_frame { a.expire now with lastReceipt := some now } data
  refine ⟨h1.trans hexpire.1, h2.trans hexpire.2.1, h3, ?_⟩
  simp only [feed, append]
  rw [h4, hexpire.2.2]
  exact Nat.le_add_right _ _

/-! ### Deliveries -/

/-- Bytes received at one time, and how many items are pulled before more bytes come. -/
structure Receipt where
  data : Bytes
  time : Time
  pulled : Nat

def stream (d : List Receipt) : Bytes := d.flatMap Receipt.data

/-- No gap between two receipts exceeds the limit. -/
def Timely (staleAfter : Nat) (d : List Receipt) : Prop :=
  d.IsChain fun r s => elapsed r.time s.time ≤ staleAfter

instance (staleAfter : Nat) (d : List Receipt) : Decidable (Timely staleAfter d) :=
  inferInstanceAs (Decidable (d.IsChain fun r s => elapsed r.time s.time ≤ staleAfter))

def receive (a : Accumulator) (r : Receipt) : List Item × Accumulator :=
  (a.feed r.data r.time).pulls r.pulled

/-- Takes in a delivery; gives all items pulled meanwhile. -/
def deliver : Accumulator → List Receipt → List Item × Accumulator
  | a, [] => ([], a)
  | a, r :: rest =>
    let (items, a) := a.receive r
    let (more, a) := deliver a rest
    (items ++ more, a)

/-- What a delivery comes to when all that is left is pulled at its end: the bytes still
buffered, the phase, the items first to last and the number of spans discarded. -/
def outcome (a : Accumulator) (d : List Receipt) : Scan :=
  let (items, a) := a.deliver d
  let (last, a) := a.drain
  ⟨a.buffer, a.phase, items ++ last, a.malformed⟩

lemma receive_frame (a : Accumulator) (r : Receipt) :
    (a.receive r).2.capacity = a.capacity ∧ (a.receive r).2.staleAfter = a.staleAfter ∧
      (a.receive r).2.lastReceipt = some r.time ∧ a.dropped ≤ (a.receive r).2.dropped := by
  obtain ⟨f1, f2, f3, f4⟩ := feed_frame a r.data r.time
  obtain ⟨p1, p2, p3, p4⟩ := pulls_frame r.pulled (a.feed r.data r.time)
  exact ⟨p1.trans f1, p2.trans f2, p3.trans f3, le_of_le_of_eq f4 p4.symm⟩

lemma receive_scan {a : Accumulator} {r : Receipt} (hs : Sound a) (hset : Settled a)
    (hgap : InTime a r.time) (hkeep : (a.receive r).2.dropped = a.dropped) :
    Sound (a.receive r).2 ∧ Settled (a.receive r).2 ∧
      run a.capacity a.scan r.data = (a.receive r).2.scan.after (a.receive r).1 := by
  have hpull : (a.receive r).2.dropped = (a.feed r.data r.time).dropped :=
    (pulls_frame r.pulled _).2.2.2
  obtain ⟨f1, f2, f3⟩ := feed_scan hs hset hgap (hpull.symm.trans hkeep)
  obtain ⟨p1, p2, p3⟩ := pulls_scan r.pulled f1 f2
  exact ⟨p1, p2, f3.symm.trans p3⟩

lemma inTime_receive {a : Accumulator} {r : Receipt} {now : Time}
    (h : elapsed r.time now ≤ a.staleAfter) : InTime (a.receive r).2 now := by
  obtain ⟨-, hstale, hlast, -⟩ := receive_frame a r
  intro last hl
  have hr : r.time = last := Option.some.inj (hlast.symm.trans hl)
  rw [← hr, hstale]
  exact h

lemma run_scan_trans {a b c : Accumulator} {u v : Bytes} {items more : List Item}
    (hcap : b.capacity = a.capacity) (hu : run a.capacity a.scan u = b.scan.after items)
    (hv : run b.capacity b.scan v = c.scan.after more) :
    run a.capacity a.scan (u ++ v) = c.scan.after (items ++ more) :=
  calc run a.capacity a.scan (u ++ v)
      = run a.capacity (b.scan.after items) v := by rw [run_append, hu]
    _ = (run b.capacity b.scan v).after items := by rw [run_after, hcap]
    _ = c.scan.after (items ++ more) := by rw [hv, after_after]

lemma dropped_le_deliver (d : List Receipt) (a : Accumulator) :
    a.dropped ≤ (a.deliver d).2.dropped := by
  induction d generalizing a with
  | nil => exact le_rfl
  | cons r rest ih => exact le_trans (receive_frame a r).2.2.2 (ih (a.receive r).2)

/-- A delivery without loss carries the scan on over its stream, and what has been pulled is
what has come out of the scan. -/
lemma deliver_scan {d : List Receipt} {a : Accumulator} (hs : Sound a) (hset : Settled a)
    (hgap : ∀ r ∈ d.head?, InTime a r.time) (hd : Timely a.staleAfter d)
    (hkeep : (a.deliver d).2.dropped = a.dropped) :
    Sound (a.deliver d).2 ∧ Settled (a.deliver d).2 ∧
      run a.capacity a.scan (stream d) = (a.deliver d).2.scan.after (a.deliver d).1 := by
  induction d generalizing a with
  | nil => exact ⟨hs, hset, rfl⟩
  | cons r rest ih =>
    obtain ⟨hcap, hstale, -, hle⟩ := receive_frame a r
    have hle' := dropped_le_deliver rest (a.receive r).2
    change ((a.receive r).2.deliver rest).2.dropped = a.dropped at hkeep
    -- no byte is dropped, neither now nor later
    obtain ⟨p1, p2, p3⟩ := receive_scan hs hset (hgap r rfl) (by omega)
    have hd' := List.isChain_cons.mp hd
    have hgap' : ∀ s ∈ rest.head?, InTime (a.receive r).2 s.time :=
      fun s hmem => inTime_receive (hd'.1 s hmem)
    obtain ⟨i1, i2, i3⟩ := ih p1 p2 hgap' (by rw [hstale]; exact hd'.2) (by omega)
    exact ⟨i1, i2, run_scan_trans hcap p3 i3⟩

lemma outcome_eq_run {capacity staleAfter : Nat} (hc : 1 ≤ capacity) {d : List Receipt}
    (hd : Timely staleAfter d)
    (hkeep : ((new capacity staleAfter).deliver d).2.dropped = 0) :
    (new capacity staleAfter).outcome d = run capacity start (stream d) := by
  set b := ((new capacity staleAfter).deliver d).2
  obtain ⟨hs, hset, hscan⟩ := deliver_scan (sound_new hc) (settled_new capacity staleAfter)
    (fun _ _ _ h => by simp [new] at h) hd hkeep
  obtain ⟨-, -, hlast⟩ := pulls_scan (b.buffer.length + 1) hs hset
  have hquiet : Quiet b.drain.2 := quiet_pulls hs (Nat.lt_succ_self _)
  calc (new capacity staleAfter).outcome d
      = (Scan.after b.drain.1 ⟨b.drain.2.buffer, b.drain.2.phase, [], b.drain.2.malformed⟩).after
          ((new capacity staleAfter).deliver d).1 := by simp [outcome, Scan.after, b]
    _ = b.scan.after ((new capacity staleAfter).deliver d).1 := by
        rw [← hquiet, drain, ← hlast]
    _ = run capacity start (stream d) := hscan.symm

/-- **Chunking and pulling do not matter.** Two deliveries of one stream, neither with a gap too
long nor with a byte dropped, come to the same: the scan of the stream. -/
theorem delivery_irrelevant {capacity staleAfter : Nat} (hc : 1 ≤ capacity)
    {d e : List Receipt} (hstream : stream d = stream e)
    (hd : Timely staleAfter d) (he : Timely staleAfter e)
    (hkeep : ((new capacity staleAfter).deliver d).2.dropped = 0)
    (hkeep' : ((new capacity staleAfter).deliver e).2.dropped = 0) :
    (new capacity staleAfter).outcome d = (new capacity staleAfter).outcome e ∧
      (new capacity staleAfter).outcome d = run capacity start (stream d) := by
  have h := outcome_eq_run hc hd hkeep
  exact ⟨by rw [h, outcome_eq_run hc he hkeep', hstream], h⟩

/-- The stream `x;2;ok7;1234567aaaaaa1;z1`, pulled from as early as possible. -/
def eager : List Receipt :=
  [⟨[120, 59, 50], 0, 5⟩, ⟨[59, 111, 107], 1500, 5⟩, ⟨[55, 59, 49, 50], 1500, 5⟩,
    ⟨[51, 52, 53, 54, 55, 97, 97], 1510, 5⟩, ⟨[97, 97, 97, 97], 2000, 5⟩,
    ⟨[49, 59, 122, 49], 2000, 5⟩]

/-- The same stream, pulled from as late as six bytes of room allow, the clock stepping back. -/
def reluctant : List Receipt :=
  [⟨[120], 0, 0⟩, ⟨[59, 50, 59, 111, 107], 100, 1⟩, ⟨[55, 59], 50, 1⟩,
    ⟨[49, 50, 51, 52, 53, 54, 55, 97, 97, 97, 97, 97], 50, 0⟩, ⟨[97], 1000, 1⟩,
    ⟨[49, 59, 122], 2400, 0⟩, ⟨[49], 2500, 0⟩]

theorem delivery_irrelevant_eager_reluctant :
    stream eager = stream reluctant ∧ Timely 1500 eager ∧ Timely 1500 reluctant ∧
      ((new 6 1500).deliver eager).2.dropped = 0 ∧
      ((new 6 1500).deliver reluctant).2.dropped = 0 ∧
      (new 6 1500).outcome eager = (new 6 1500).outcome reluctant ∧
      (new 6 1500).outcome eager =
        ⟨[49], .header, [.ok [111, 107], .error (.headerOverflow 6), .ok [122]], 1⟩ := by
  have hstream : stream eager = stream reluctant := by decide
  have hd : Timely 1500 eager := by decide
  have he : Timely 1500 reluctant := by decide
  have hkeep : ((new 6 1500).deliver eager).2.dropped = 0 := by decide +kernel
  have hkeep' : ((new 6 1500).deliver reluctant).2.dropped = 0 := by decide +kernel
  obtain ⟨h1, h2⟩ := delivery_irrelevant (by decide) hstream hd he hkeep hkeep'
  exact ⟨hstream, hd, he, hkeep, hkeep', h1, h2.trans rfl⟩

end HomeHub.Accumulator
