import Mathlib.Algebra.GroupWithZero.Nat
import Mathlib.Logic.Function.Basic
import HomeHub.Board
import HomeHub.Flash.Memory
import HomeHub.Proofs.HandshakeLaws
import HomeHub.Proofs.Runs

/-!
The flash is only touched while the secondary core stands still and the interrupts are masked.

Any number of ticks may be under way, and the lock of the flash lets one of them write at a time. A
write is told here phase by phase: between two of its phases the secondary core may take a step,
and other ticks may begin or end. Where the write stands determines what is masked and what the
primary core may rely on.
-/

namespace HomeHub.Quiescence

open Store (WriteResult)

/-! ### Runs -/

/-- How far a write has come. -/
inductive Phase
  | locked
  | pausing
  | halted
  /-- The interrupts are masked. -/
  | masked (token : Nat)
  | erased (token : Nat)
  | flashed (token : Nat) (result : WriteResult)
  | restored (result : WriteResult)
  | resuming (result : WriteResult)
  /-- A resumption has not been acknowledged in time. -/
  | late (result : WriteResult)
  /-- Nothing is left but to give back the lock. -/
  | done (result : WriteResult)

structure Writer where
  tick : Nat
  record : Record
  phase : Phase

/-- How far a tick has come. -/
inductive TickPhase
  | idle
  /-- It has taken its snapshot and waits for the lock of the flash. -/
  | waiting (record : Record)
  | writing
  | wrote (result : WriteResult)

structure St (δ : Type) where
  handshake : Handshake
  interrupts : Interrupts
  flash : δ
  store : Store
  /-- The tick that has the lock of the flash. -/
  writer : Option Writer
  ticks : Nat → TickPhase

inductive Event
  | masked (token : Nat)
  | restored (token : Nat)
  | touched (operation : Flash.Operation)
  /-- A pause has succeeded. -/
  | halted
  /-- A resumption is requested. -/
  | released
  | polled
  | returned (result : WriteResult)
  | silent

variable {δ : Type}

/-- A store with a secondary core that has been attached. -/
def opened (store : Store) (flash : δ) : St δ :=
  ⟨Handshake.new.take .attach, Interrupts.new, flash, store, none, fun _ => .idle⟩

def St.reach (s : St δ) (w : Writer) (phase : Phase) : St δ :=
  { s with writer := some { w with phase } }

/-- The first phase of a tick. -/
def St.begin (s : St δ) (i : Nat) (now : Time) : St δ :=
  match s.store.start now with
  | (.clean, store) => { s with store }
  | (.deferred, store) => { s with store }
  | (.attempt record, store) =>
    { s with store, ticks := Function.update s.ticks i (.waiting record) }

/-- What others see of a step of the secondary core. -/
def seen : Handshake.Step → Event
  | .poll => .polled
  | _ => .silent

variable [Flash δ]

/-- The next step of a write. -/
def advance (s : St δ) (w : Writer) : Event × St δ :=
  match w.phase with
  | .locked => (.silent, { s.reach w .pausing with handshake := s.handshake.take .requestPause })
  | .pausing =>
    let handshake := s.handshake.take .concludePause
    if handshake.primary = .halted then (.halted, { s.reach w .halted with handshake })
    else (.silent, { s.reach w (.done .notHalted) with handshake })
  | .halted =>
    let (token, interrupts) := s.interrupts.mask
    (.masked token, { s.reach w (.masked token) with interrupts })
  | .masked token =>
    match Flash.erase s.flash s.store.config.offset with
    | .error why => (.touched .erase, s.reach w (.flashed token (.failed why)))
    | .ok flash => (.touched .erase, { s.reach w (.erased token) with flash })
  | .erased token =>
    match Flash.program s.flash s.store.config.offset w.record.toPage with
    | .error why => (.touched .program, s.reach w (.flashed token (.failed why)))
    | .ok flash => (.touched .program, { s.reach w (.flashed token .written) with flash })
  | .flashed token result =>
    (.restored token,
      { s.reach w (.restored result) with interrupts := s.interrupts.restore token })
  | .restored result =>
    (.released, { s.reach w (.resuming result) with handshake := s.handshake.take .requestResume })
  | .resuming result =>
    let handshake := s.handshake.take .concludeResume
    if handshake.primary = .outside then (.silent, { s.reach w (.done result) with handshake })
    else (.silent, { s.reach w (.late result) with handshake })
  | .late result =>
    (.released, { s.reach w (.resuming result) with handshake := s.handshake.take .requestResume })
  | .done result =>
    (.returned result,
      { s with writer := none, ticks := Function.update s.ticks w.tick (.wrote result) })

inductive Step : St δ → Event → St δ → Prop
  | update {s : St δ} (record : Record) : Step s .silent { s with store := s.store.update record }
  | requestWrite {s : St δ} : Step s .silent { s with store := s.store.requestWrite }
  | begin {s : St δ} {i : Nat} (now : Time) : s.ticks i = .idle → Step s .silent (s.begin i now)
  /-- A tick takes the lock of the flash. -/
  | lock {s : St δ} {i : Nat} {record : Record} : s.ticks i = .waiting record →
      s.writer = none →
      Step s .silent { s with
        writer := some ⟨i, record, .locked⟩, ticks := Function.update s.ticks i .writing }
  | write {s : St δ} {w : Writer} : s.writer = some w → Step s (advance s w).1 (advance s w).2
  | finish {s : St δ} {i : Nat} {result : WriteResult} : s.ticks i = .wrote result →
      Step s .silent { s with
        store := (s.store.finish result).2, ticks := Function.update s.ticks i .idle }
  | secondary {s : St δ} {c : Handshake.Step} : c.isSecondary = true →
      s.handshake.possible c = true →
      Step s (seen c) { s with handshake := s.handshake.take c }

/-! ### What a log tells -/

def tokensAfter (tokens : List Nat) : Event → List Nat
  | .masked token => token :: tokens
  | .restored token => tokens.erase token
  | _ => tokens

/-- The tokens of the interrupt mask that have not been restored. -/
def outstanding (log : List Event) : List Nat := log.foldl tokensAfter []

def haltedAfter (halted : Bool) : Event → Bool
  | .halted => true
  | .released => false
  | _ => halted

/-- Whether a pause has succeeded, and no resumption has been requested since. -/
def isHalted (log : List Event) : Bool := log.foldl haltedAfter false

variable {s t : St δ} {log : List Event} {e : Event} {w : Writer}

lemma outstanding_snoc : outstanding (log ++ [e]) = tokensAfter (outstanding log) e := by
  rw [outstanding, List.foldl_append]
  rfl

lemma isHalted_snoc : isHalted (log ++ [e]) = haltedAfter (isHalted log) e := by
  rw [isHalted, List.foldl_append]
  rfl

/-! ### What a phase stands for -/

namespace Phase

def primary : Phase → Handshake.Primary
  | .locked => .outside
  | .pausing => .pausing
  | .halted => .halted
  | .masked _ => .halted
  | .erased _ => .halted
  | .flashed _ _ => .halted
  | .restored _ => .halted
  | .resuming _ => .resuming
  | .late _ => .halted
  | .done _ => .outside

def tokens : Phase → List Nat
  | .masked token => [token]
  | .erased token => [token]
  | .flashed token _ => [token]
  | _ => []

/-- Whether the phase lies between a successful pause and the resumption. -/
def isHalted : Phase → Bool
  | .halted => true
  | .masked _ => true
  | .erased _ => true
  | .flashed _ _ => true
  | .restored _ => true
  | _ => false

end Phase

/-- The phase of the write, which is as good as one that has not begun if there is none. -/
def St.phase (s : St δ) : Phase :=
  match s.writer with
  | some w => w.phase
  | none => .locked

def total (i : Interrupts) : Nat := (List.range (i.masked + 1)).sum

structure Inv (log : List Event) (s : St δ) : Prop where
  coherent : s.handshake.Coherent
  primary : s.handshake.primary = s.phase.primary
  tokens : outstanding log = s.phase.tokens
  halted : isHalted log = s.phase.isHalted
  still : s.phase.isHalted = true → s.handshake.Still
  sum : s.interrupts.restored + s.phase.tokens.sum = total s.interrupts

omit [Flash δ] in
lemma inv_opened (store : Store) (flash : δ) : Inv [] (opened store flash) where
  coherent := Handshake.coherent_start
  primary := rfl
  tokens := rfl
  halted := rfl
  still h := by cases h
  sum := rfl

omit [Flash δ] in
lemma inv_next {p q : Phase} (hi : Inv log s) (hp : s.phase = p) (hq : t.phase = q)
    (hcoh : t.handshake.Coherent) (hprim : t.handshake.primary = q.primary)
    (htok : tokensAfter p.tokens e = q.tokens) (hhalt : haltedAfter p.isHalted e = q.isHalted)
    (hstill : q.isHalted = true → t.handshake.Still)
    (hsum : t.interrupts.restored + q.tokens.sum = total t.interrupts) : Inv (log ++ [e]) t := by
  subst hp hq
  refine ⟨hcoh, hprim, ?_, ?_, hstill, hsum⟩
  · rw [outstanding_snoc, hi.tokens, htok]
  · rw [isHalted_snoc, hi.halted, hhalt]

omit [Flash δ] in
lemma inv_silent (hi : Inv log s) (hh : t.handshake = s.handshake)
    (hint : t.interrupts = s.interrupts) (hp : t.phase = s.phase) :
    Inv (log ++ [.silent]) t := by
  refine inv_next hi rfl hp ?_ ?_ rfl rfl ?_ ?_
  · rw [hh]
    exact hi.coherent
  · rw [hh]
    exact hi.primary
  · rw [hh]
    exact hi.still
  · rw [hint]
    exact hi.sum

omit [Flash δ] in
lemma inv_secondary {c : Handshake.Step} (hi : Inv log s) (hc : c.isSecondary = true)
    (hp : s.handshake.possible c = true) :
    Inv (log ++ [seen c]) { s with handshake := s.handshake.take c } := by
  have hattach : c ≠ .attach := by
    rintro rfl
    cases hc
  have htok : tokensAfter s.phase.tokens (seen c) = s.phase.tokens := by cases c <;> rfl
  have hhalt : haltedAfter s.phase.isHalted (seen c) = s.phase.isHalted := by cases c <;> rfl
  refine inv_next hi rfl rfl (Handshake.coherent_take hi.coherent hp hattach) ?_ htok hhalt ?_
    hi.sum
  · exact (Handshake.primary_take hc).trans hi.primary
  · -- a core that is to stand still could not have taken the step
    intro h
    rw [Handshake.not_possible_of_still (hi.still h) hc] at hp
    cases hp

lemma inv_write (hi : Inv log s) (hw : s.writer = some w) :
    Inv (log ++ [(advance s w).1]) (advance s w).2 := by
  have hphase : s.phase = w.phase := by rw [St.phase, hw]
  obtain ⟨hcoh, hprim, -, -, hstill, hsum⟩ := id hi
  rw [hphase] at hprim hstill hsum
  cases hp : w.phase with
  | locked =>
    rw [hp] at hphase hprim hsum
    simp only [advance, hp]
    exact inv_next hi hphase rfl (Handshake.coherent_requestPause hcoh hprim) rfl rfl rfl
      (fun h => by cases h) hsum
  | pausing =>
    rw [hp] at hphase hprim hsum
    have hc := Handshake.coherent_concludePause hcoh hprim
    simp only [advance, hp]
    split
    · rename_i hhalted
      exact inv_next hi hphase rfl hc hhalted rfl rfl
        (fun _ => Handshake.still_of_concludePause hcoh hprim hhalted) hsum
    · -- the request has been withdrawn
      rename_i hhalted
      refine inv_next hi hphase rfl hc ?_ rfl rfl (fun h => by cases h) hsum
      exact Handshake.primary_concludePause.resolve_left hhalted
  | halted =>
    rw [hp] at hphase hprim hstill hsum
    simp only [advance, hp]
    refine inv_next (q := .masked (s.interrupts.masked + 1)) hi hphase rfl hcoh hprim rfl rfl
      hstill ?_
    -- no token is out, so the sum grows by the new one alone
    have htotal : total s.interrupts.mask.2 = total s.interrupts + (s.interrupts.masked + 1) := by
      rw [total, Interrupts.mask, List.range_succ, List.sum_append, List.sum_singleton]
      rfl
    simp only [Phase.tokens, List.sum_nil] at hsum
    simp only [Phase.tokens, List.sum_singleton, htotal, ← hsum]
    rfl
  | masked token =>
    rw [hp] at hphase hprim hstill hsum
    simp only [advance, hp]
    split
    · exact inv_next hi hphase rfl hcoh hprim rfl rfl hstill hsum
    · exact inv_next hi hphase rfl hcoh hprim rfl rfl hstill hsum
  | erased token =>
    rw [hp] at hphase hprim hstill hsum
    simp only [advance, hp]
    split
    · exact inv_next hi hphase rfl hcoh hprim rfl rfl hstill hsum
    · exact inv_next hi hphase rfl hcoh hprim rfl rfl hstill hsum
  | flashed token result =>
    rw [hp] at hphase hprim hstill hsum
    simp only [advance, hp]
    refine inv_next (q := .restored result) hi hphase rfl hcoh hprim ?_ rfl hstill ?_
    · simp [tokensAfter, Phase.tokens]
    · simpa [Phase.tokens, Interrupts.restore, total] using hsum
  | restored result =>
    rw [hp] at hphase hprim hsum
    simp only [advance, hp]
    exact inv_next hi hphase rfl (Handshake.coherent_requestResume hcoh hprim) rfl rfl rfl
      (fun h => by cases h) hsum
  | resuming result =>
    rw [hp] at hphase hprim hsum
    have hc := Handshake.coherent_concludeResume hcoh hprim
    simp only [advance, hp]
    split
    · rename_i houtside
      exact inv_next hi hphase rfl hc houtside rfl rfl (fun h => by cases h) hsum
    · -- late: the resumption is requested once more
      rename_i houtside
      refine inv_next hi hphase rfl hc ?_ rfl rfl (fun h => by cases h) hsum
      exact Handshake.primary_concludeResume.resolve_left houtside
  | late result =>
    rw [hp] at hphase hprim hsum
    simp only [advance, hp]
    exact inv_next hi hphase rfl (Handshake.coherent_requestResume hcoh hprim) rfl rfl rfl
      (fun h => by cases h) hsum
  | done result =>
    rw [hp] at hphase hprim hsum
    simp only [advance, hp]
    exact inv_next hi hphase rfl hcoh hprim rfl rfl (fun h => by cases h) hsum

omit [Flash δ] in
lemma begin_eq (s : St δ) (i : Nat) (now : Time) :
    (s.begin i now).handshake = s.handshake ∧ (s.begin i now).interrupts = s.interrupts ∧
      (s.begin i now).writer = s.writer := by
  unfold St.begin
  split <;> exact ⟨rfl, rfl, rfl⟩

lemma inv_step (hi : Inv log s) (hs : Step s e t) : Inv (log ++ [e]) t := by
  cases hs with
  | update record => exact inv_silent hi rfl rfl rfl
  | requestWrite => exact inv_silent hi rfl rfl rfl
  | begin now hidle =>
    obtain ⟨hh, hint, hw⟩ := begin_eq s _ now
    exact inv_silent hi hh hint (by rw [St.phase, St.phase, hw])
  | lock hwait hfree => exact inv_silent hi rfl rfl (by simp only [St.phase, hfree])
  | write hw => exact inv_write hi hw
  | finish hwrote => exact inv_silent hi rfl rfl rfl
  | secondary hc hp => exact inv_secondary hi hc hp

/-! ### Whole writes -/

lemma exists_run_flashed {s₀ : St δ} {i : Nat} {record : Record} (hr : Run Step s₀ log s)
    (hw : s.writer = some ⟨i, record, .halted⟩) :
    ∃ log', Run Step s₀ log' { s with
      interrupts := s.interrupts.mask.2.restore s.interrupts.mask.1
      flash := (Store.flashRecord s.flash s.store.config.offset record).2
      writer := some ⟨i, record, .restored
        (Store.flashRecord s.flash s.store.config.offset record).1⟩ } := by
  have h1 := hr.snoc (.write hw)
  have h2 := h1.snoc (.write rfl)
  rcases he : Flash.erase s.flash s.store.config.offset with why | erased <;>
    simp only [advance, St.reach, he] at h2 <;>
    simp only [Store.flashRecord, he]
  · have h3 := h2.snoc (.write rfl)
    exact ⟨_, h3⟩
  · have h3 := h2.snoc (.write rfl)
    rcases hp : Flash.program erased s.store.config.offset record.toPage with why | programmed <;>
      simp only [advance, St.reach, hp] at h3
    · have h4 := h3.snoc (.write rfl)
      exact ⟨_, h4⟩
    · have h4 := h3.snoc (.write rfl)
      exact ⟨_, h4⟩

/-- A board on which a tick has come to a phase of its write. -/
def onBoard (b : Board δ) (store : Store) (ticks : Nat → TickPhase) (w : Writer) : St δ :=
  ⟨⟨b.cores.link, .outside, b.cores.secondary⟩, b.interrupts, b.flash, store, some w, ticks⟩

/-- A write on a board, taken as a whole, is a run of its phases. -/
theorem write_run (b : Board δ) (store : Store) (ticks : Nat → TickPhase) (timeout i : Nat)
    (record : Record)
    (hb : Handshake.Coherent ⟨b.cores.link, .outside, b.cores.secondary⟩) :
    ∃ log, Run Step (onBoard b store ticks ⟨i, record, .locked⟩) log
      (onBoard (b.write timeout store.config.offset record).2 store ticks
        ⟨i, record, .done (b.write timeout store.config.offset record).1⟩) := by
  obtain ⟨⟨link, secondary, stuck⟩, interrupts, flash⟩ := b
  have h0 : Run Step (onBoard ⟨⟨link, secondary, stuck⟩, interrupts, flash⟩ store ticks
    ⟨i, record, .locked⟩) [] _ := .nil
  have h1 := h0.snoc (.write rfl)
  cases hb with
  | idle =>
    by_cases hanswer : timeout = 0 ∨ stuck = true
    · have h2 := h1.snoc (.write rfl)
      simp only [Board.write, Cores.pause_unanswered hanswer]
      exact ⟨_, h2⟩
    · -- the core answers in time, and parks
      rw [not_or, Bool.not_eq_true] at hanswer
      obtain ⟨htimeout, rfl⟩ := hanswer
      have h2 := h1.snoc (.secondary (c := .checkpoint) rfl rfl)
      have h3 := h2.snoc (.write rfl)
      obtain ⟨log, h4⟩ := exists_run_flashed h3 rfl
      have h5 := h4.snoc (.write rfl)
      have h6 := h5.snoc (.secondary (c := .leave) rfl rfl)
      have h7 := h6.snoc (.write rfl)
      simp only [Board.write, Cores.pause_answered htimeout, Cores.resumeFully_parked]
      exact ⟨_, h7⟩
  | absent =>
    have h2 := h1.snoc (.write rfl)
    obtain ⟨log, h3⟩ := exists_run_flashed h2 rfl
    have h4 := h3.snoc (.write rfl)
    have h5 := h4.snoc (.write rfl)
    simp only [Board.write, Cores.pause_absent, Cores.resumeFully_absent]
    exact ⟨_, h5⟩

/-! ### The result -/

lemma step_touched {token : Nat} (hw : s.writer = some w) (hp : w.phase = .masked token) :
    Step s (.touched .erase) (advance s w).2 := by
  have h := Step.write hw
  have he : (advance s w).1 = .touched .erase := by
    simp only [advance, hp]
    split <;> rfl
  rwa [he] at h

lemma step_returned {result : WriteResult} (hw : s.writer = some w) (hp : w.phase = .done result) :
    Step s (.returned result) (advance s w).2 := by
  have h := Step.write hw
  have he : (advance s w).1 = .returned result := by simp only [advance, hp]
  rwa [he] at h

lemma exists_writer (hs : Step s e t) (hsilent : e ≠ .silent) (hpolled : e ≠ .polled) :
    ∃ w, s.writer = some w ∧ e = (advance s w).1 ∧ t = (advance s w).2 := by
  cases hs with
  | write hw => exact ⟨_, hw, rfl, rfl⟩
  | @secondary c hc hp =>
    cases c with
    | poll => exact absurd rfl hpolled
    | _ => exact absurd rfl hsilent
  | _ => exact absurd rfl hsilent

lemma masked_of_touched {operation : Flash.Operation}
    (h : (advance s w).1 = .touched operation) :
    w.phase.tokens ≠ [] ∧ w.phase.isHalted = true := by
  cases hp : w.phase with
  | masked token | erased token => exact ⟨List.cons_ne_nil _ _, rfl⟩
  | pausing | resuming result =>
    simp only [advance, hp] at h
    split at h <;> cases h
  | _ =>
    simp only [advance, hp] at h
    cases h

lemma phase_of_returned {result : WriteResult} (h : (advance s w).1 = .returned result) :
    w.phase = .done result := by
  cases hp : w.phase with
  | done outcome =>
    simp only [advance, hp, Event.returned.injEq] at h
    rw [h]
  | pausing | resuming outcome =>
    simp only [advance, hp] at h
    split at h <;> cases h
  | masked token | erased token =>
    simp only [advance, hp] at h
    split at h <;> cases h
  | _ =>
    simp only [advance, hp] at h
    cases h

lemma advance_ne_polled : (advance s w).1 ≠ .polled := by
  intro h
  cases hp : w.phase with
  | pausing | resuming result | masked token | erased token =>
    simp only [advance, hp] at h
    split at h <;> cases h
  | _ =>
    simp only [advance, hp] at h
    cases h

lemma possible_of_polled (hs : Step s .polled t) : s.handshake.possible .poll = true := by
  generalize he : Event.polled = e at hs
  cases hs with
  | write hw => exact absurd he.symm advance_ne_polled
  | @secondary c hc hp =>
    cases c with
    | poll => exact hp
    | _ => cases he
  | _ => cases he

/-- **The flash is only touched in quiet.** Whenever it is erased or programmed, the interrupts are
masked and the secondary core stands still; the core does not poll from the moment a pause has
succeeded until the resumption is requested; and when a write returns, whatever it came to, every
token has been given back and the link is as if there had been no pause. -/
theorem flash_quiesced {store : Store} {flash : δ} (hrun : Run Step (opened store flash) log s) :
    (∀ operation t, Step s (.touched operation) t → outstanding log ≠ [] ∧ s.handshake.Still) ∧
    (isHalted log = true → ∀ t, ¬ Step s .polled t) ∧
    (∀ result t, Step s (.returned result) t → outstanding log = [] ∧
      s.interrupts.restored = total s.interrupts ∧ s.handshake.link.state = .running) := by
  have hi := hrun.invariant (inv_opened store flash) inv_step
  have hwriter {w : Writer} (hw : s.writer = some w) : s.phase = w.phase := by rw [St.phase, hw]
  refine ⟨?_, ?_, ?_⟩
  · intro operation t hs
    obtain ⟨w, hw, he, -⟩ := exists_writer hs (by simp) (by simp)
    have hmasked := masked_of_touched he.symm
    rw [← hwriter hw] at hmasked
    rw [hi.tokens]
    exact ⟨hmasked.1, hi.still hmasked.2⟩
  · intro hhalted t hs
    have hstill := hi.still (hi.halted.symm.trans hhalted)
    have hp := possible_of_polled hs
    rw [Handshake.not_possible_of_still hstill rfl] at hp
    cases hp
  · intro result t hs
    obtain ⟨w, hw, he, -⟩ := exists_writer hs (by simp) (by simp)
    have hphase : s.phase = .done result := (hwriter hw).trans (phase_of_returned he.symm)
    have hsum := hi.sum
    have hprim := hi.primary
    rw [hphase] at hsum hprim
    refine ⟨?_, hsum, Handshake.state_of_outside hi.coherent hprim⟩
    rw [hi.tokens, hphase]
    rfl

/-- A write, looked at when it erases and when it returns. -/
theorem flash_quiesced_during_write :
    ∃ (store : Store) (log log' : List Event) (s s' : St MemoryFlash) (result : WriteResult),
      Run Step (opened store (MemoryFlash.new 4096)) log s ∧ (∃ t, Step s (.touched .erase) t) ∧
      outstanding log ≠ [] ∧ s.handshake.Still ∧
      Run Step (opened store (MemoryFlash.new 4096)) log' s' ∧ (∃ t, Step s' (.returned result) t) ∧
      outstanding log' = [] ∧ s'.handshake.link.state = .running := by
  have h0 : Run Step (opened ⟨⟨1000, 2000, 0⟩, Record.empty, true, none, 0⟩
    (MemoryFlash.new 4096)) [] _ := .nil
  have h1 := h0.snoc (.begin (i := 0) 0 rfl)
  have h2 := h1.snoc (.lock (i := 0) rfl rfl)
  have h3 := h2.snoc (.write rfl)
  have h4 := h3.snoc (.secondary (c := .checkpoint) rfl rfl)
  have h5 := h4.snoc (.write rfl)
  have h6 := h5.snoc (.write rfl)
  obtain ⟨log, h7⟩ := exists_run_flashed h5 rfl
  have h8 := h7.snoc (.write rfl)
  have h9 := h8.snoc (.secondary (c := .leave) rfl rfl)
  have h10 := h9.snoc (.write rfl)
  obtain ⟨hmasked, -, -⟩ := flash_quiesced h6
  obtain ⟨-, -, hreturned⟩ := flash_quiesced h10
  refine ⟨_, _, _, _, _, _, h6, ⟨_, step_touched rfl rfl⟩, ?_, ?_, h10,
    ⟨_, step_returned rfl rfl⟩, ?_, ?_⟩
  · exact (hmasked .erase _ (step_touched rfl rfl)).1
  · exact (hmasked .erase _ (step_touched rfl rfl)).2
  · exact (hreturned _ _ (step_returned rfl rfl)).1
  · exact (hreturned _ _ (step_returned rfl rfl)).2.2

end HomeHub.Quiescence
