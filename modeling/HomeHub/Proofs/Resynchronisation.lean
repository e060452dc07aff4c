import HomeHub.Proofs.Delivery
import HomeHub.Proofs.HeaderLaws

/-!
What is framed comes out again, whatever stands between the frames.

A stream of frames, of frames too long for the accumulator and of spans that are no header means to
the scan exactly the payloads of the frames: after each of them the scan stands at a header again.
An accumulator that is drained after each feed, and is never fed more than it has room for, has read
what the scan has read.
-/

namespace HomeHub

/-! ### Spans of a stream -/

/-- What a peer may send: frames that fit, and what has to be passed over. -/
inductive Span
  | frame (payload : Bytes)
  /-- A header, by its digits, and the body it declares. -/
  | oversized (digits : List Nat) (body : Bytes)
  /-- Bytes that are no length, before a semicolon. -/
  | malformed (bytes : Bytes)

namespace Span

def bytes : Span → Bytes
  | frame payload => Frame.encode payload
  | oversized digits body => Frame.numeral digits ++ [Frame.delimiter] ++ body
  | malformed bytes => bytes ++ [Frame.delimiter]

def payload? : Span → Option Bytes
  | frame payload => some payload
  | oversized _ _ => none
  | malformed _ => none

def isMalformed : Span → Bool
  | frame _ => false
  | oversized _ _ => false
  | malformed _ => true

def Valid (capacity : Nat) : Span → Prop
  | frame payload =>
    Frame.frameLength payload.length ≤ capacity ∧ payload.length < 10 ^ Frame.maxHeaderDigits
  | oversized digits body =>
    0 < digits.length ∧ digits.length ≤ Frame.maxHeaderDigits ∧ (∀ d ∈ digits, d < 10) ∧
      body.length = Decimal.ofDigits digits ∧ digits.length + 1 ≤ capacity ∧
      capacity < digits.length + 1 + body.length
  | malformed bytes =>
    bytes.length < capacity ∧ Frame.delimiter ∉ bytes ∧ Frame.parseLength bytes = none

instance (capacity : Nat) : DecidablePred (Valid capacity)
  | frame _ => inferInstanceAs (Decidable (_ ∧ _))
  | oversized _ _ => inferInstanceAs (Decidable (_ ∧ _ ∧ _ ∧ _ ∧ _ ∧ _))
  | malformed _ => inferInstanceAs (Decidable (_ ∧ _ ∧ _))

def stream (spans : List Span) : Bytes := spans.flatMap bytes

end Span

namespace FrameScan

variable {capacity : Nat} {items : List Item} {malformed : Nat}

lemma run_span {s : Span} (hv : s.Valid capacity) :
    run capacity ⟨[], .header, items, malformed⟩ s.bytes =
      ⟨[], .header, items ++ (s.payload?.map .ok).toList,
        malformed + if s.isMalformed then 1 else 0⟩ := by
  cases s with
  | frame payload =>
    obtain ⟨hfit, hshort⟩ := hv
    have hds : ∀ d ∈ Decimal.digits payload.length, d < 10 := fun _ => Decimal.lt_of_mem_digits
    have hparse : Frame.parseLength (Frame.numeral (Decimal.digits payload.length)) =
        some payload.length := by
      rw [Frame.parseLength_numeral hds (Decimal.length_digits_pos _)
        (Decimal.length_digits_le (by decide) hshort), Decimal.ofDigits_digits]
    rw [Frame.frameLength, Frame.headerLength, ← Frame.length_digits,
      ← Frame.length_numeral] at hfit
    rw [Span.bytes, Frame.encode_eq, List.append_cons,
      run_frame (Frame.delimiter_notMem_numeral hds) (by omega) hparse hfit]
    simp [Span.payload?, Span.isMalformed]
  | oversized digits body =>
    obtain ⟨hpos, hshort, hds, hbody, hroom, hover⟩ := hv
    have hparse := Frame.parseLength_numeral hds hpos hshort
    rw [← hbody] at hparse
    rw [← Frame.length_numeral] at hroom hover
    have hdelim := Frame.delimiter_notMem_numeral hds
    rw [Span.bytes, run_append, run_oversized hdelim (by omega) hparse hover,
      run_skipping (by omega) rfl]
    simp [Span.payload?, Span.isMalformed]
  | malformed bytes =>
    obtain ⟨hlen, hdelim, hparse⟩ := hv
    rw [Span.bytes, run_malformed hdelim hlen hparse]
    simp [Span.payload?, Span.isMalformed]

lemma run_spans {spans : List Span} (hv : ∀ s ∈ spans, s.Valid capacity) :
    run capacity ⟨[], .header, items, malformed⟩ (Span.stream spans) =
      ⟨[], .header, items ++ (spans.filterMap Span.payload?).map .ok,
        malformed + spans.countP Span.isMalformed⟩ := by
  induction spans generalizing items malformed with
  | nil => simp [Span.stream]
  | cons s spans ih =>
    rw [List.forall_mem_cons] at hv
    rw [Span.stream, List.flatMap_cons, run_append, run_span hv.1, ← Span.stream, ih hv.2,
      List.filterMap_cons, List.countP_cons, Nat.add_assoc, Nat.add_comm (List.countP _ _),
      List.append_assoc]
    cases s <;> rfl

end FrameScan

/-! ### Drained feeds -/

namespace Accumulator

open FrameScan

/-- Bytes received at one time, after which all that they complete is pulled. -/
structure Feed where
  data : Bytes
  time : Time

def content (feeds : List Feed) : Bytes := feeds.flatMap Feed.data

def intake (a : Accumulator) (f : Feed) : List Item × Accumulator := (a.feed f.data f.time).drain

/-- Takes in one feed after the other; gives all items. -/
def intakes : Accumulator → List Feed → List Item × Accumulator
  | a, [] => ([], a)
  | a, f :: rest =>
    let (items, a) := a.intake f
    let (more, a) := intakes a rest
    (items ++ more, a)

/-- No feed is larger than the free room at its moment. -/
def Roomy : Accumulator → List Feed → Prop
  | _, [] => True
  | a, f :: rest => f.data.length ≤ a.room ∧ Roomy (a.intake f).2 rest

/-- No gap between two feeds exceeds the limit. -/
def Steady (staleAfter : Nat) (feeds : List Feed) : Prop :=
  feeds.IsChain fun f g => elapsed f.time g.time ≤ staleAfter

instance (staleAfter : Nat) (feeds : List Feed) : Decidable (Steady staleAfter feeds) :=
  inferInstanceAs (Decidable (feeds.IsChain fun f g => elapsed f.time g.time ≤ staleAfter))

instance decidableRoomy : (a : Accumulator) → (feeds : List Feed) → Decidable (Roomy a feeds)
  | _, [] => inferInstanceAs (Decidable True)
  | a, f :: rest =>
    have := decidableRoomy (a.intake f).2 rest
    inferInstanceAs (Decidable (_ ∧ _))

variable {a : Accumulator} {f : Feed} {feeds : List Feed}

lemma intakes_append (a : Accumulator) (feeds more : List Feed) :
    a.intakes (feeds ++ more) = ((a.intakes feeds).1 ++ ((a.intakes feeds).2.intakes more).1,
      ((a.intakes feeds).2.intakes more).2) := by
  induction feeds generalizing a with
  | nil => rfl
  | cons f rest ih => simp [intakes, ih]

/-- The receipt that a drained feed is: it is pulled from more often than it has bytes. -/
def Feed.receipt (a : Accumulator) (f : Feed) : Receipt :=
  ⟨f.data, f.time, (a.feed f.data f.time).buffer.length + 1⟩

lemma intake_eq (a : Accumulator) (f : Feed) : a.intake f = a.receive (f.receipt a) := rfl

lemma dropped_feed {data : Bytes} {now : Time} (hgap : InTime a now)
    (hroom : data.length ≤ a.room) : (a.feed data now).dropped = a.dropped := by
  set b : Accumulator := { a with lastReceipt := some now } with hb
  obtain ⟨hcap, -, -, hdropped⟩ := skim_frame b data
  have hrest : (b.skim data).2.length ≤ data.length ∧ (b.skim data).1.buffer = a.buffer := by
    unfold skim
    split
    · exact ⟨by simp, rfl⟩
    · exact ⟨le_rfl, rfl⟩
  have hle : (b.skim data).2.length ≤ (b.skim data).1.room := by
    rw [room, hcap, hrest.2]
    exact le_trans hrest.1 hroom
  simp only [feed, expire_eq hgap, ← hb, append, hdropped, Nat.sub_eq_zero_of_le hle]
  rfl

/-- A drained feed that there is room for carries the scan on over its bytes, and leaves nothing
that could be pulled. -/
lemma intake_scan (hs : Sound a) (hset : Settled a) (hgap : InTime a f.time)
    (hroom : f.data.length ≤ a.room) :
    Sound (a.intake f).2 ∧ Settled (a.intake f).2 ∧ Quiet (a.intake f).2 ∧
      (a.intake f).2.dropped = a.dropped ∧
      run a.capacity a.scan f.data = (a.intake f).2.scan.after (a.intake f).1 := by
  have hfeed := dropped_feed hgap hroom
  have hkeep : (a.intake f).2.dropped = a.dropped := (pulls_frame _ _).2.2.2.trans hfeed
  obtain ⟨h1, h2, h3⟩ := receive_scan (r := f.receipt a) hs hset hgap hkeep
  exact ⟨h1, h2, quiet_pulls (feed_scan hs hset hgap hfeed).1 (Nat.lt_succ_self _), hkeep, h3⟩

lemma intakes_scan (hs : Sound a) (hset : Settled a) (hq : Quiet a)
    (hgap : ∀ f ∈ feeds.head?, InTime a f.time) (hsteady : Steady a.staleAfter feeds)
    (hroom : Roomy a feeds) :
    Quiet (a.intakes feeds).2 ∧ (a.intakes feeds).2.dropped = a.dropped ∧
      run a.capacity a.scan (content feeds) =
        (a.intakes feeds).2.scan.after (a.intakes feeds).1 := by
  induction feeds generalizing a with
  | nil => exact ⟨hq, rfl, rfl⟩
  | cons f rest ih =>
    obtain ⟨hfits, hrest⟩ := hroom
    obtain ⟨h1, h2, h3, hkeep, hscan⟩ := intake_scan hs hset (hgap f rfl) hfits
    obtain ⟨hcap, hstale, -⟩ := receive_frame a (f.receipt a)
    rw [← intake_eq] at hcap hstale
    have hsteady' := List.isChain_cons.mp hsteady
    have hgap' : ∀ g ∈ rest.head?, InTime (a.intake f).2 g.time :=
      fun g hmem => inTime_receive (r := f.receipt a) (hsteady'.1 g hmem)
    obtain ⟨i1, i2, i3⟩ := ih h1 h2 h3 hgap' (by rw [hstale]; exact hsteady'.2) hrest
    exact ⟨i1, i2.trans hkeep, run_scan_trans hcap hscan i3⟩

/-- **Round trip with resynchronisation.** However a stream of frames and of what has to be passed
over is cut into feeds, the payloads of its frames come out, in order and nothing else, every
malformed span is counted, and the accumulator ends empty and at a header. -/
theorem intakes_spans {capacity staleAfter : Nat} (hc : 1 ≤ capacity) {spans : List Span}
    (hv : ∀ s ∈ spans, s.Valid capacity) {feeds : List Feed}
    (hcut : content feeds = Span.stream spans) (hsteady : Steady staleAfter feeds)
    (hroom : Roomy (new capacity staleAfter) feeds) :
    ((new capacity staleAfter).intakes feeds).1 = (spans.filterMap Span.payload?).map .ok ∧
      ((new capacity staleAfter).intakes feeds).2.buffer = [] ∧
      ((new capacity staleAfter).intakes feeds).2.phase = .header ∧
      ((new capacity staleAfter).intakes feeds).2.malformed = spans.countP Span.isMalformed ∧
      ((new capacity staleAfter).intakes feeds).2.dropped = 0 := by
  obtain ⟨hquiet, hdropped, hscan⟩ := intakes_scan (sound_new hc) (settled_new capacity staleAfter)
    rfl (fun _ _ _ h => by simp [new] at h) hsteady hroom
  set items := ((new capacity staleAfter).intakes feeds).1
  set b := ((new capacity staleAfter).intakes feeds).2
  have hend : Scan.mk b.buffer b.phase items b.malformed =
      ⟨[], .header, (spans.filterMap Span.payload?).map .ok, spans.countP Span.isMalformed⟩ :=
    calc Scan.mk b.buffer b.phase items b.malformed
        = b.scan.after items := by rw [hquiet, Scan.after, List.append_nil]
      _ = run capacity start (Span.stream spans) := by
          rw [← hscan, scan_new, hcut]
          rfl
      _ = _ := by rw [start, run_spans hv, List.nil_append, Nat.zero_add]
  obtain ⟨h1, h2, h3, h4⟩ := Scan.mk.inj hend
  exact ⟨h3, h1, h2, h4, hdropped⟩

/-- The spans `x;`, `2;ok`, `007;` before a body of seven bytes with semicolons, `0;` and `;`. -/
def mixed : List Span :=
  [.malformed [120], .frame [111, 107], .oversized [0, 0, 7] [49, 59, 50, 59, 59, 97, 98],
    .frame [], .malformed []]

/-- Their bytes, cut inside headers and bodies. -/
def mixedFeeds : List Feed :=
  [⟨[120, 59, 50, 59], 0⟩, ⟨[111, 107, 48, 48], 1500⟩, ⟨[55, 59, 49, 59], 1400⟩,
    ⟨[50, 59, 59, 97, 98, 48], 2000⟩, ⟨[59, 59], 2001⟩]

theorem intakes_spans_mixed :
    (∀ s ∈ mixed, s.Valid 6) ∧ content mixedFeeds = Span.stream mixed ∧
      Steady 1500 mixedFeeds ∧ Roomy (new 6 1500) mixedFeeds ∧
      ((new 6 1500).intakes mixedFeeds).1 = [.ok [111, 107], .ok []] ∧
      ((new 6 1500).intakes mixedFeeds).2.buffer = [] ∧
      ((new 6 1500).intakes mixedFeeds).2.phase = .header ∧
      ((new 6 1500).intakes mixedFeeds).2.malformed = 2 ∧
      ((new 6 1500).intakes mixedFeeds).2.dropped = 0 := by
  have hv : ∀ s ∈ mixed, s.Valid 6 := by decide +kernel
  have hcut : content mixedFeeds = Span.stream mixed := by decide +kernel
  have hsteady : Steady 1500 mixedFeeds := by decide
  have hroom : Roomy (new 6 1500) mixedFeeds := by decide +kernel
  exact ⟨hv, hcut, hsteady, hroom, intakes_spans (by decide) hv hcut hsteady hroom⟩

end Accumulator

end HomeHub
