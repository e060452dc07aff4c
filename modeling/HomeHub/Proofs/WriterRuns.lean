import Mathlib.Tactic.Lemma
import Mathlib.Tactic.SplitIfs
import HomeHub.Proofs.Runs
import HomeHub.Session.Sink

/-!
A writer between those who queue frames and its sink. Sends, the progress of the task and the
dropping of the handle come in any order, and the sink takes what it likes, when it likes.

What has been queued is at every moment what the sink has taken, then what is left of the frame in
hand, then the queue. Nothing else is needed to see that frames are neither lost nor doubled nor
written in another order.
-/

namespace HomeHub

namespace Writer

/-- The bytes that a call hands over. -/
def Call.bytes : Call → Bytes
  | write bytes => bytes
  | flush => []
  | shutdown => []

/-- What is left of the frame in hand. -/
def Stage.rest : Stage → Bytes
  | .writing rest _ => rest
  | _ => []

/-- The bytes that are still to be written. -/
def pending (w : Writer) : Bytes := w.stage.rest ++ w.queue.flatten

/-! ### What a step can do -/

/-- The steps of the task, with the calls that it makes. -/
inductive Moves (w : Writer) : List Call → Writer → Prop
  | stay : Moves w [] w
  | take {frame : Bytes} {queue : List Bytes} : w.stage = .idle → w.queue = frame :: queue →
      Moves w [] { w with queue, stage := .writing frame 1 }
  | next {frame : Bytes} {queue : List Bytes} {burst : Nat} : w.stage = .writing [] burst →
      w.queue = frame :: queue → burst < maxBurst →
      Moves w [] { w with queue, stage := .writing frame (burst + 1) }
  | write {rest : Bytes} {burst count : Nat} : w.stage = .writing rest burst → 0 < count →
      count ≤ rest.length →
      Moves w [.write (rest.take count)] { w with stage := .writing (rest.drop count) burst }
  | pause {burst : Nat} : w.stage = .writing [] burst → (w.queue = [] ∨ maxBurst ≤ burst) →
      Moves w [] { w with stage := .flushing }
  | flush : w.stage = .flushing → Moves w [.flush] { w with stage := .idle }
  | close : w.stage = .idle → w.queue = [] → w.held = false →
      Moves w [] { w with stage := .closing }
  | shutdown : w.stage = .closing → Moves w [.shutdown] { w with stage := .done }
  | fail {b : UInt8} {rest : Bytes} {burst : Nat} : w.stage = .writing (b :: rest) burst →
      Moves w [] w.fail
  /-- The sink takes nothing, now or ever. -/
  | refuse {b : UInt8} {rest : Bytes} {burst : Nat} : w.stage = .writing (b :: rest) burst →
      Moves w [.write []] w.fail
  | failFlush : w.stage = .flushing → Moves w [] w.fail

lemma moves_accept (w : Writer) (count : Nat) :
    Moves w (w.step (.accept count)).2 (w.step (.accept count)).1 := by
  simp only [step]
  split
  · rename_i rest burst hstage
    split_ifs with hfit hzero
    · exact .stay
    · rcases rest with _ | ⟨b, rest⟩
      · simp at hfit
      · exact .refuse hstage
    · exact .write hstage (Nat.pos_of_ne_zero hzero) (by simp at hfit; omega)
  · exact .stay

lemma moves_step (w : Writer) (e : Event) : Moves w (w.step e).2 (w.step e).1 := by
  cases e with
  | accept count => exact moves_accept w count
  | take =>
    simp only [step]
    split
    · rename_i hstage hqueue
      exact .take hstage hqueue
    · rename_i hstage hqueue
      split_ifs with hheld
      · exact .stay
      · exact .close hstage hqueue (Bool.eq_false_iff.mpr hheld)
    · exact .stay
  | next =>
    simp only [step]
    split
    · rename_i hstage hqueue
      split_ifs with hburst
      · exact .next hstage hqueue hburst
      · exact .pause hstage (.inr (Nat.le_of_not_lt hburst))
    · rename_i hstage hqueue
      exact .pause hstage (.inl hqueue)
    · exact .stay
  | flushed =>
    simp only [step]
    split
    · exact .flush ‹_›
    · exact .stay
  | fail =>
    simp only [step]
    split
    · exact .fail ‹_›
    · exact .failFlush ‹_›
    · exact .stay
  | shutdown =>
    simp only [step]
    split
    · exact .shutdown ‹_›
    · exact .stay

lemma Moves.held {w w' : Writer} {made : List Call} (h : Moves w made w') : w'.held = w.held := by
  cases h <;> rfl

end Writer

namespace WriterRuns

open Writer (Call)

/-! ### Steps -/

/-- What is seen of a step. -/
inductive Event
  | sent (frame : Bytes) (result : Except SendFault Unit)
  | released
  /-- The task has gone on, and has made these calls. -/
  | worked (calls : List Call)

inductive Step (w : Writer) : Event → Writer → Prop
  | send (frame : Bytes) : w.held = true → Step w (.sent frame (w.send frame).1) (w.send frame).2
  | release : w.held = true → Step w .released w.release
  | work (e : Writer.Event) : Step w (.worked (w.step e).2) (w.step e).1

/-! ### What a log tells -/

/-- The frames that were queued. -/
def queued (log : List Event) : List Bytes :=
  log.filterMap fun
    | .sent frame (.ok ()) => some frame
    | _ => none

/-- The calls that the sink has received. -/
def calls (log : List Event) : List Call :=
  log.flatMap fun
    | .worked calls => calls
    | _ => []

/-- The bytes that the sink has taken in some calls. -/
def taken (calls : List Call) : Bytes := calls.flatMap Call.bytes

def written (log : List Event) : Bytes := taken (calls log)

variable {capacity : Nat} {log more : List Event} {w w' : Writer} {e : Event}
  {frames : List Bytes} {made made' : List Call} {frame : Bytes}

lemma queued_append (log more : List Event) : queued (log ++ more) = queued log ++ queued more :=
  List.filterMap_append

lemma calls_append (log more : List Event) : calls (log ++ more) = calls log ++ calls more :=
  List.flatMap_append

lemma taken_append (made made' : List Call) : taken (made ++ made') = taken made ++ taken made' :=
  List.flatMap_append

/-! ### The invariant -/

/-- After these frames have been queued and these calls made. -/
structure Inv (capacity : Nat) (frames : List Bytes) (made : List Call) (w : Writer) : Prop where
  slots : w.slots = max capacity 1
  bounded : w.queue.length ≤ w.slots
  /-- All that was queued has been taken by the sink or is still to be written. -/
  kept : w.stage ≠ .failed → taken made ++ w.pending = frames.flatten
  lost : w.stage = .failed → taken made <+: frames.flatten
  closed : w.stage = .closing ∨ w.stage = .done → w.held = false ∧ w.queue = []
  unshut : w.stage ≠ .done → .shutdown ∉ made
  shut : w.stage = .done → ∃ before, made = before ++ [.shutdown] ∧ .shutdown ∉ before

lemma inv_new (capacity : Nat) : Inv capacity [] [] (.new capacity) where
  slots := rfl
  bounded := Nat.zero_le _
  kept _ := rfl
  lost h := by cases h
  closed h := by rcases h with h | h <;> cases h
  unshut _ := List.not_mem_nil
  shut h := by cases h

namespace Inv

lemma taken_first (hi : Inv capacity frames made w) : taken made <+: frames.flatten := by
  by_cases h : w.stage = .failed
  · exact hi.lost h
  · exact ⟨w.pending, hi.kept h⟩

lemma taken_of_done (hi : Inv capacity frames made w) (h : w.stage = .done) :
    taken made = frames.flatten := by
  have hkept := hi.kept (by simp [h])
  have hempty := (hi.closed (.inr h)).2
  simpa [Writer.pending, h, hempty, Writer.Stage.rest] using hkept

/-- At work, neither at the end nor closing. -/
def Live (w : Writer) : Prop := w.stage ≠ .closing ∧ w.stage ≠ .done ∧ w.stage ≠ .failed

lemma of_live (hlive : Live w) (hslots : w.slots = max capacity 1)
    (hbounded : w.queue.length ≤ w.slots) (hkept : taken made ++ w.pending = frames.flatten)
    (hunshut : .shutdown ∉ made) : Inv capacity frames made w where
  slots := hslots
  bounded := hbounded
  kept _ := hkept
  lost h := absurd h hlive.2.2
  closed h := by
    rcases h with h | h
    · exact absurd h hlive.1
    · exact absurd h hlive.2.1
  unshut _ := hunshut
  shut h := absurd h hlive.2.1

end Inv

/-! ### Sends -/

lemma send_cases (w : Writer) (frame : Bytes) :
    (w.isGone = true ∧ w.send frame = (.error .closed, w)) ∨
    (w.isGone = false ∧ w.slots ≤ w.queue.length ∧
      w.send frame = (.error (.queueFull w.slots), w)) ∨
    (w.isGone = false ∧ w.queue.length < w.slots ∧
      w.send frame = (.ok (), { w with queue := w.queue ++ [frame] })) := by
  unfold Writer.send
  split_ifs with hgone hfull
  · exact .inl ⟨hgone, rfl⟩
  · exact .inr (.inl ⟨Bool.eq_false_iff.mpr hgone, hfull, rfl⟩)
  · exact .inr (.inr ⟨Bool.eq_false_iff.mpr hgone, Nat.lt_of_not_le hfull, rfl⟩)

lemma isGone_eq_false_iff : w.isGone = false ↔ w.stage ≠ .done ∧ w.stage ≠ .failed := by
  simp [Writer.isGone]

lemma inv_queued (hi : Inv capacity frames made w) (hheld : w.held = true)
    (hgone : w.isGone = false) (hroom : w.queue.length < w.slots) (frame : Bytes) :
    Inv capacity (frames ++ [frame]) made { w with queue := w.queue ++ [frame] } := by
  obtain ⟨hdone, hfailed⟩ := isGone_eq_false_iff.mp hgone
  have hclosing : w.stage ≠ .closing := by
    intro h
    rw [(hi.closed (.inl h)).1] at hheld
    cases hheld
  refine .of_live ⟨hclosing, hdone, hfailed⟩ hi.slots ?_ ?_ (hi.unshut hdone)
  · rw [List.length_append]
    exact hroom
  · have hkept := hi.kept hfailed
    simp only [Writer.pending, List.flatten_append, List.flatten_singleton] at hkept ⊢
    rw [← hkept, List.append_assoc, List.append_assoc]

lemma inv_send (hi : Inv capacity frames made w) (hheld : w.held = true) (frame : Bytes) :
    Inv capacity (frames ++ queued [.sent frame (w.send frame).1]) made (w.send frame).2 := by
  rcases send_cases w frame with ⟨-, h⟩ | ⟨-, -, h⟩ | ⟨hgone, hroom, h⟩
  · rw [h]
    exact (List.append_nil frames).symm ▸ hi
  · rw [h]
    exact (List.append_nil frames).symm ▸ hi
  · rw [h]
    exact inv_queued hi hheld hgone hroom frame

lemma inv_release (hi : Inv capacity frames made w) : Inv capacity frames made w.release :=
  { hi with closed := fun h => ⟨rfl, (hi.closed h).2⟩ }

/-! ### The task -/

/-- At work the task only moves bytes from what is pending to the sink. -/
lemma inv_live (hi : Inv capacity frames made w) (hw : w.stage ≠ .done ∧ w.stage ≠ .failed)
    (hlive : Inv.Live w') (hslots : w'.slots = w.slots)
    (hlen : w'.queue.length ≤ w.queue.length) (hpending : taken made' ++ w'.pending = w.pending)
    (hunshut : .shutdown ∉ made') : Inv capacity frames (made ++ made') w' := by
  refine .of_live hlive (hslots.trans hi.slots) ?_ ?_ ?_
  · rw [hslots]
    exact Nat.le_trans hlen hi.bounded
  · rw [taken_append, List.append_assoc, hpending]
    exact hi.kept hw.2
  · rw [List.mem_append, not_or]
    exact ⟨hi.unshut hw.1, hunshut⟩

lemma inv_fail (hi : Inv capacity frames made w) (hw : w.stage ≠ .done)
    (hmade : taken made' = [] ∧ .shutdown ∉ made') :
    Inv capacity frames (made ++ made') w.fail where
  slots := hi.slots
  bounded := Nat.zero_le _
  kept h := absurd rfl h
  lost _ := by
    rw [taken_append, hmade.1, List.append_nil]
    exact hi.taken_first
  closed h := by rcases h with h | h <;> cases h
  unshut _ := by
    rw [List.mem_append, not_or]
    exact ⟨hi.unshut hw, hmade.2⟩
  shut h := by cases h

lemma inv_close (hi : Inv capacity frames made w) (hstage : w.stage = .idle) (hqueue : w.queue = [])
    (hheld : w.held = false) : Inv capacity frames made { w with stage := .closing } where
  slots := hi.slots
  bounded := hi.bounded
  kept _ := by simpa [Writer.pending, hstage, Writer.Stage.rest] using hi.kept
  lost h := by cases h
  closed _ := ⟨hheld, hqueue⟩
  unshut _ := hi.unshut (by simp [hstage])
  shut h := by cases h

lemma inv_shutdown (hi : Inv capacity frames made w) (hstage : w.stage = .closing) :
    Inv capacity frames (made ++ [.shutdown]) { w with stage := .done } where
  slots := hi.slots
  bounded := hi.bounded
  kept _ := by
    have hkept := hi.kept (by simp [hstage])
    rw [taken_append]
    simpa [taken, Call.bytes, Writer.pending, hstage, Writer.Stage.rest] using hkept
  lost h := by cases h
  closed _ := hi.closed (.inl hstage)
  unshut h := absurd rfl h
  shut _ := ⟨made, rfl, hi.unshut (by simp [hstage])⟩

lemma inv_moves (hi : Inv capacity frames made w) (h : Writer.Moves w made' w') :
    Inv capacity frames (made ++ made') w' := by
  cases h with
  | stay => rwa [List.append_nil]
  | take hstage hqueue =>
    exact inv_live hi (by simp [hstage]) (by simp [Inv.Live]) rfl (by simp [hqueue])
      (by simp [taken, Writer.pending, hstage, hqueue, Writer.Stage.rest]) (by simp)
  | next hstage hqueue =>
    exact inv_live hi (by simp [hstage]) (by simp [Inv.Live]) rfl (by simp [hqueue])
      (by simp [taken, Writer.pending, hstage, hqueue, Writer.Stage.rest]) (by simp)
  | @write rest burst count hstage =>
    refine inv_live hi (by simp [hstage]) (by simp [Inv.Live]) rfl (Nat.le_refl _) ?_ (by simp)
    have hsplit := List.take_append_drop count rest
    simp only [taken, Writer.pending, hstage, Writer.Stage.rest, List.flatMap_singleton, Call.bytes]
    rw [← List.append_assoc, hsplit]
  | pause hstage =>
    exact inv_live hi (by simp [hstage]) (by simp [Inv.Live]) rfl (Nat.le_refl _)
      (by simp [taken, Writer.pending, hstage, Writer.Stage.rest]) (by simp)
  | flush hstage =>
    exact inv_live hi (by simp [hstage]) (by simp [Inv.Live]) rfl (Nat.le_refl _)
      (by simp [taken, Call.bytes, Writer.pending, hstage, Writer.Stage.rest]) (by simp)
  | close hstage hqueue hheld =>
    rw [List.append_nil]
    exact inv_close hi hstage hqueue hheld
  | shutdown hstage => exact inv_shutdown hi hstage
  | fail hstage => exact inv_fail hi (by simp [hstage]) ⟨rfl, List.not_mem_nil⟩
  | refuse hstage => exact inv_fail hi (by simp [hstage]) ⟨rfl, by simp⟩
  | failFlush hstage => exact inv_fail hi (by simp [hstage]) ⟨rfl, List.not_mem_nil⟩

lemma inv_step (hi : Inv capacity (queued log) (calls log) w) (h : Step w e w') :
    Inv capacity (queued (log ++ [e])) (calls (log ++ [e])) w' := by
  rw [queued_append, calls_append]
  cases h with
  | send frame hheld =>
    rw [show calls [.sent frame _] = [] from rfl, List.append_nil]
    exact inv_send hi hheld frame
  | release =>
    rw [show calls [.released] = [] from rfl, show queued [.released] = [] from rfl,
      List.append_nil, List.append_nil]
    exact inv_release hi
  | work e =>
    have hmoves := w.moves_step e
    rw [show queued [.worked (w.step e).2] = [] from rfl, List.append_nil]
    simpa [calls] using inv_moves hi hmoves

/-! ### After the end -/

lemma isGone_moves (hgone : w.isGone = true) (h : Writer.Moves w made w') : made = [] ∧ w' = w := by
  have hnot : ¬ (w.stage ≠ .done ∧ w.stage ≠ .failed) := by
    rw [← isGone_eq_false_iff, hgone]
    decide
  cases h with
  | stay => exact ⟨rfl, rfl⟩
  | _ hstage => exact absurd (by simp [hstage]) hnot

lemma isGone_step (hgone : w.isGone = true) (h : Step w e w') : w'.isGone = true ∧
    calls [e] = [] ∧ ∀ frame result, e = .sent frame result → result = .error .closed := by
  cases h with
  | send frame =>
    rcases send_cases w frame with ⟨-, h⟩ | ⟨hnot, -⟩ | ⟨hnot, -⟩
    · rw [h]
      exact ⟨hgone, rfl, fun _ _ he => (Event.sent.inj he).2.symm⟩
    · rw [hgone] at hnot
      cases hnot
    · rw [hgone] at hnot
      cases hnot
  | release => exact ⟨hgone, rfl, fun _ _ he => by cases he⟩
  | work e =>
    obtain ⟨hmade, hsame⟩ := isGone_moves hgone (w.moves_step e)
    rw [hsame, hmade]
    exact ⟨hgone, rfl, fun _ _ he => by cases he⟩

lemma isGone_run (hgone : w.isGone = true) (hrun : Run Step w more w') : w'.isGone = true ∧
    calls more = [] ∧ ∀ frame result, .sent frame result ∈ more → result = .error .closed := by
  refine hrun.invariant (I := fun log v => v.isGone = true ∧ calls log = [] ∧
    ∀ frame result, .sent frame result ∈ log → result = .error .closed)
    ⟨hgone, rfl, fun _ _ h => by cases h⟩ ?_
  intro log v e v' ⟨hv, hcalls, hsent⟩ hstep
  obtain ⟨hv', hcalls', hsent'⟩ := isGone_step hv hstep
  refine ⟨hv', by rw [calls_append, hcalls, hcalls', List.append_nil], fun frame result h => ?_⟩
  rcases List.mem_append.mp h with h | h
  · exact hsent frame result h
  · exact hsent' frame result (List.mem_singleton.mp h).symm

/-! ### Sinks -/

/-- What a writer does on a sink until it waits is a run. -/
theorem exists_run_sink (fuel : Nat) (w : Writer) (s : Sink) : ∃ log,
    Run Step w log (Sink.run fuel w s).1 ∧ (Sink.run fuel w s).2.log = s.log ++ calls log := by
  induction fuel generalizing w s with
  | zero => exact ⟨[], .nil, (List.append_nil _).symm⟩
  | succ fuel ih =>
    unfold Sink.run
    split
    · exact ⟨[], .nil, (List.append_nil _).symm⟩
    · rename_i e _
      obtain ⟨log, hrun, hlog⟩ := ih (w.step e).1 (s.note (w.step e).2)
      refine ⟨[.worked (w.step e).2] ++ log, (Run.nil.snoc (.work e)).trans hrun, ?_⟩
      rw [calls_append, hlog]
      simp [Sink.note, calls]

/-! ### Results -/

/-- What is to be said of a writer after a run. -/
structure Faithful (capacity : Nat) (log : List Event) (w : Writer) : Prop where
  bounded : w.queue.length ≤ max capacity 1
  accepts : ∀ frame, (w.send frame).1 = .ok () ↔
    w.isGone = false ∧ w.queue.length < max capacity 1
  appends : ∀ frame, (w.send frame).1 = .ok () ↔ (w.send frame).2.queue = w.queue ++ [frame]
  refuses : ∀ frame why, (w.send frame).1 = .error why →
    (why = .queueFull (max capacity 1) ∨ why = .closed) ∧ (w.send frame).2 = w
  first : written log <+: (queued log).flatten
  finished : w.stage = .done → written log = (queued log).flatten ∧
    ∃ before, calls log = before ++ [.shutdown] ∧ .shutdown ∉ before
  stopped : w.isGone = true → ∀ more w', Run Step w more w' →
    calls more = [] ∧ ∀ frame result, .sent frame result ∈ more → result = .error .closed

/-- **Neither lost nor doubled nor out of order.** In any run the sink has taken a first part of the
frames that were queued, one after the other: all of them, and then one shutdown, if the task ends
well. After the end nothing more is written or queued, and at no time do more frames wait than there
are slots. -/
theorem faithful_of_run (hrun : Run Step (.new capacity) log w) : Faithful capacity log w := by
  have hi : Inv capacity (queued log) (calls log) w :=
    hrun.invariant (I := fun log w => Inv capacity (queued log) (calls log) w)
      (inv_new capacity) inv_step
  refine ⟨hi.slots ▸ hi.bounded, fun frame => ?_, fun frame => ?_, fun frame why h => ?_,
    hi.taken_first, fun h => ⟨?_, hi.shut h⟩, fun hgone more w' hmore => (isGone_run hgone hmore).2⟩
  · rcases send_cases w frame with ⟨hgone, h⟩ | ⟨hgone, hfull, h⟩ | ⟨hgone, hroom, h⟩
    · simp [h, hgone]
    · simp [h, ← hi.slots, Nat.not_lt.mpr hfull]
    · simp [h, hgone, ← hi.slots, hroom]
  · rcases send_cases w frame with ⟨-, h⟩ | ⟨-, -, h⟩ | ⟨-, -, h⟩ <;> simp [h]
  · rw [← hi.slots]
    rcases send_cases w frame with ⟨-, hs⟩ | ⟨-, -, hs⟩ | ⟨-, -, hs⟩ <;> rw [hs] at h ⊢
    · exact ⟨.inr (Except.error.inj h).symm, rfl⟩
    · exact ⟨.inl (Except.error.inj h).symm, rfl⟩
    · cases h
  · have hkept := hi.kept (by simp [h])
    have hempty := (hi.closed (.inr h)).2
    simpa [written, Writer.pending, h, hempty, Writer.Stage.rest] using hkept

/-- With one slot: `ab` is queued, `c` is refused and then queued while `ab` is being written byte
by byte, and the handle is dropped with `c` still in the queue. -/
def handover : List Event :=
  [.sent [97, 98] (.ok ()), .sent [99] (.error (.queueFull 1)), .worked [], .sent [99] (.ok ()),
    .worked [.write [97]], .released, .worked [.write [98]], .worked [], .worked [.write [99]],
    .worked [], .worked [.flush], .worked [], .worked [.shutdown]]

theorem faithful_of_run_handover : ∃ w, Run Step (.new 1) handover w ∧ w.stage = .done ∧
    Faithful 1 handover w ∧ written handover = [97, 98, 99] := by
  have hnew : Run Step (Writer.new 1) [] _ := .nil
  have hqueued := (hnew.snoc (.send [97, 98] rfl)).snoc (.send [99] rfl)
  have htaken := (hqueued.snoc (.work .take)).snoc (.send [99] rfl)
  have hreleased := (htaken.snoc (.work (.accept 1))).snoc (.release rfl)
  have hfirst := (hreleased.snoc (.work (.accept 1))).snoc (.work .next)
  have hwritten := hfirst.snoc (.work (.accept 1))
  have hflushed := (hwritten.snoc (.work .next)).snoc (.work .flushed)
  have hdone : Run Step (.new 1) handover _ :=
    (hflushed.snoc (.work .take)).snoc (.work .shutdown)
  exact ⟨_, hdone, rfl, faithful_of_run hdone, rfl⟩

end WriterRuns

end HomeHub
