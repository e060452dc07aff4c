import HomeHub.Proofs.Resynchronisation

/-!
Feeds that come at any time. A feed within the room is taken in whole, also if it comes so late that
an unfinished frame is abandoned; and as long as none is abandoned, the items that come out are
those that a scan reads. So frames come out in whatever pieces they are fed, and fed one by one they
do at any times.
-/

namespace HomeHub.Accumulator

open FrameScan

variable {a : Accumulator} {f : Feed} {feeds more : List Feed} {capacity staleAfter : Nat}

/-- All that has been received is taken in and pulled as far as it is complete. -/
structure Drained (a : Accumulator) : Prop where
  sound : Sound a
  settled : Settled a
  quiet : Quiet a

lemma drained_new (hpos : 1 ≤ capacity) : Drained (new capacity staleAfter) :=
  ⟨sound_new hpos, settled_new capacity staleAfter, rfl⟩

lemma Drained.within (h : Drained a) :
    Scan.Within a.capacity ⟨a.buffer, a.phase, [], a.malformed⟩ := by
  have hstart : Scan.Within a.capacity ⟨[], opening a.phase, [], a.malformed⟩ := by
    refine ⟨h.sound.pos, fun k n hbody => ?_⟩
    rcases hp : a.phase with _ | _ | _ <;> simp [hp] at hbody
  rw [← h.quiet]
  exact within_run h.sound.pos hstart

lemma Drained.length_lt (h : Drained a) : a.buffer.length < a.capacity := h.within.held

/-! ### Feeds at any time -/

/-- The accumulator as it meets bytes received now: what is stale is gone, and so is the time of
the last receipt. -/
def refreshed (a : Accumulator) (now : Time) : Accumulator :=
  { a.expire now with lastReceipt := none }

lemma intake_refreshed (a : Accumulator) (f : Feed) :
    (a.refreshed f.time).intake f = a.intake f := rfl

lemma inTime_refreshed (a : Accumulator) (now : Time) : InTime (a.refreshed now) now :=
  fun _ hlast => by cases hlast

lemma drained_refreshed (h : Drained a) (now : Time) : Drained (a.refreshed now) ∧
    (a.refreshed now).dropped = a.dropped ∧ a.room ≤ (a.refreshed now).room := by
  rcases a.expire_cases now with he | he
  · have hsame : a.refreshed now = { a with lastReceipt := none } := by rw [refreshed, he]
    rw [hsame]
    exact ⟨⟨⟨h.sound.pos, h.sound.len, h.sound.phase⟩, h.settled, h.quiet⟩, rfl, le_rfl⟩
  · have hreset : a.refreshed now = { a with lastReceipt := none }.reset := by
      rw [refreshed, he]
      rfl
    rw [hreset]
    refine ⟨⟨⟨h.sound.pos, Nat.zero_le _, trivial⟩, fun _ _ => rfl, rfl⟩, rfl, ?_⟩
    exact Nat.sub_le_sub_left (Nat.zero_le _) _

/-- A drained feed that there is room for loses nothing for lack of it, whenever it comes. -/
lemma intake_drained (h : Drained a) (hroom : f.data.length ≤ a.room) : Drained (a.intake f).2 ∧
    (a.intake f).2.capacity = a.capacity ∧ (a.intake f).2.dropped = a.dropped := by
  obtain ⟨hd, hdropped, hmore⟩ := drained_refreshed h f.time
  obtain ⟨h1, h2, h3, h4, -⟩ :=
    intake_scan hd.sound hd.settled (inTime_refreshed a f.time) (hroom.trans hmore)
  rw [intake_refreshed] at h1 h2 h3 h4
  exact ⟨⟨h1, h2, h3⟩, (receive_frame a (f.receipt a)).1, h4.trans hdropped⟩

lemma intakes_drained (h : Drained a) (hroom : Roomy a feeds) : Drained (a.intakes feeds).2 ∧
    (a.intakes feeds).2.capacity = a.capacity ∧ (a.intakes feeds).2.dropped = a.dropped := by
  induction feeds generalizing a with
  | nil => exact ⟨h, rfl, rfl⟩
  | cons f rest ih =>
    obtain ⟨hf, hcap, hdropped⟩ := intake_drained h hroom.1
    obtain ⟨hrest, hcap', hdropped'⟩ := ih hf hroom.2
    exact ⟨hrest, hcap'.trans hcap, hdropped'.trans hdropped⟩

lemma roomy_append :
    Roomy a (feeds ++ more) ↔ Roomy a feeds ∧ Roomy (a.intakes feeds).2 more := by
  induction feeds generalizing a with
  | nil => simp [Roomy, intakes]
  | cons f rest ih => simp [Roomy, intakes, ih, and_assoc]

/-! ### Feeds in time -/

/-- No feed comes so late that an unfinished frame is abandoned. -/
def Unbroken : Accumulator → List Feed → Prop
  | _, [] => True
  | a, f :: rest => a.expire f.time = a ∧ Unbroken (a.intake f).2 rest

lemma scan_intake (h : Drained a) (htime : a.expire f.time = a) (hroom : f.data.length ≤ a.room) :
    run a.capacity a.scan f.data = (a.intake f).2.scan.after (a.intake f).1 := by
  have hsame : a.refreshed f.time = { a with lastReceipt := none } := by rw [refreshed, htime]
  obtain ⟨hd, -, hmore⟩ := drained_refreshed h f.time
  obtain ⟨-, -, -, -, hscan⟩ :=
    intake_scan hd.sound hd.settled (inTime_refreshed a f.time) (hroom.trans hmore)
  rw [intake_refreshed, hsame] at hscan
  exact hscan

lemma scan_intakes (h : Drained a) (htime : Unbroken a feeds) (hroom : Roomy a feeds) :
    run a.capacity a.scan (content feeds) = (a.intakes feeds).2.scan.after (a.intakes feeds).1 := by
  induction feeds generalizing a with
  | nil => rfl
  | cons f rest ih =>
    obtain ⟨hd, hcap, -⟩ := intake_drained h hroom.1
    exact run_scan_trans hcap (scan_intake h htime.1 hroom.1) (ih hd htime.2 hroom.2)

lemma items_intakes (h : Drained a) (htime : Unbroken a feeds) (hroom : Roomy a feeds) :
    (run a.capacity a.scan (content feeds)).items = (a.intakes feeds).1 := by
  rw [scan_intakes h htime hroom, (intakes_drained h hroom).1.quiet]
  exact List.append_nil _

/-! ### Frames -/

variable {payload : Bytes} {payloads : List Bytes}

/-- Nothing is buffered, and a header comes next. -/
def Clear (a : Accumulator) : Prop := a.buffer = [] ∧ a.phase = .header

lemma Clear.expire_eq (h : Clear a) (now : Time) : a.expire now = a := by
  rcases hl : a.lastReceipt with _ | last <;> simp [expire, hl, hasPartial, h.1, h.2]

lemma Drained.scan_eq (h : Drained a) (hc : Clear a) : a.scan = ⟨[], .header, [], a.malformed⟩ := by
  rw [h.quiet, hc.1, hc.2]

lemma run_frames (hv : ∀ p ∈ payloads, (Span.frame p).Valid capacity) {items : List Item}
    {malformed : Nat} :
    run capacity ⟨[], .header, items, malformed⟩ (payloads.flatMap Frame.encode) =
      ⟨[], .header, items ++ payloads.map .ok, malformed⟩ := by
  have h : run capacity ⟨[], .header, items, malformed⟩
      (Span.stream (payloads.map Span.frame)) = _ := run_spans (by simpa using hv)
  have hstream : Span.stream (payloads.map Span.frame) = payloads.flatMap Frame.encode := by
    rw [Span.stream, List.flatMap_map]
    rfl
  have hpayloads : (payloads.map Span.frame).filterMap Span.payload? = payloads := by
    rw [List.filterMap_map]
    exact List.filterMap_some
  have hcount : (payloads.map Span.frame).countP Span.isMalformed = 0 := by
    simp [List.countP_eq_zero, Span.isMalformed]
  rw [hstream, hpayloads, hcount] at h
  exact h

lemma intakes_frames (h : Drained a) (hc : Clear a)
    (hv : ∀ p ∈ payloads, (Span.frame p).Valid a.capacity)
    (hcut : content feeds = payloads.flatMap Frame.encode) (htime : Unbroken a feeds)
    (hroom : Roomy a feeds) : (a.intakes feeds).1 = payloads.map .ok := by
  rw [← items_intakes h htime hroom, hcut, h.scan_eq hc, run_frames hv]
  rfl

lemma clear_intake (h : Drained a) (hc : Clear a) (hv : (Span.frame payload).Valid a.capacity)
    (hdata : f.data = Frame.encode payload) :
    f.data.length ≤ a.room ∧ Clear (a.intake f).2 := by
  have hroom : f.data.length ≤ a.room := by
    rw [hdata, Frame.length_encode, room, hc.1]
    exact hv.1
  have hscan := scan_intake h (hc.expire_eq f.time) hroom
  have hrun : run a.capacity ⟨[], .header, [], a.malformed⟩ ([payload].flatMap Frame.encode) = _ :=
    run_frames (by simpa using hv)
  rw [List.flatMap_singleton, ← hdata, ← h.scan_eq hc, hscan, (intake_drained h hroom).1.quiet]
    at hrun
  obtain ⟨hbuffer, hphase, -⟩ := Scan.mk.inj hrun
  exact ⟨hroom, hbuffer, hphase⟩

lemma roomy_frames (h : Drained a) (hc : Clear a)
    (hv : ∀ p ∈ payloads, (Span.frame p).Valid a.capacity)
    (hcut : feeds.map Feed.data = payloads.map Frame.encode) :
    Roomy a feeds ∧ Unbroken a feeds := by
  induction payloads generalizing a feeds with
  | nil =>
    obtain rfl := List.map_eq_nil_iff.mp hcut
    exact ⟨trivial, trivial⟩
  | cons payload payloads ih =>
    obtain ⟨f, rest, rfl, hdata, hrest⟩ := List.map_eq_cons_iff.mp hcut
    rw [List.forall_mem_cons] at hv
    obtain ⟨hroom, hclear⟩ := clear_intake h hc hv.1 hdata
    obtain ⟨hd, hcap, -⟩ := intake_drained h hroom
    obtain ⟨hrooms, htimes⟩ := ih hd hclear (by rw [hcap]; exact hv.2) hrest
    exact ⟨⟨hroom, hrooms⟩, hc.expire_eq f.time, htimes⟩

lemma intake_frame (h : Drained a) (hc : Clear a) (hv : (Span.frame payload).Valid a.capacity)
    (hdata : f.data = Frame.encode payload) : (a.intake f).1 = [.ok payload] := by
  have hone : ∀ p ∈ [payload], (Span.frame p).Valid a.capacity := List.forall_mem_singleton.mpr hv
  have hcut : [f].map Feed.data = [payload].map Frame.encode := by
    rw [List.map_singleton, List.map_singleton, hdata]
  obtain ⟨hroom, htime⟩ := roomy_frames h hc hone hcut
  have hitems := intakes_frames h hc hone (by simp [content, hdata]) htime hroom
  simpa only [intakes, List.append_nil, List.map_singleton] using hitems

end HomeHub.Accumulator
