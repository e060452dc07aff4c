import Mathlib.Tactic.ByContra
import HomeHub.Proofs.HandshakeLaws
import HomeHub.Proofs.Runs

/-!
The secondary core is never left parked, and no core sleeps through what it waits for.

A core that has to wait sleeps until a signal and then looks at the link again. The primary core
is woken by its timeout too, the secondary core by nothing else, so whatever a sleeper may wait for
has to come with a signal. It does, because a section without a signal leaves the link as it was.
-/

namespace HomeHub

namespace Handshake

/-! ### Signals -/

/-- Whether a step ends with a signal to those who wait on the link. -/
def signals (h : Handshake) : Step → Bool
  | .requestPause => h.link.attached
  | .concludePause => !h.link.isHalted
  | .requestResume => !h.link.isResumed
  | .concludeResume => false
  | .attach => false
  | .checkpoint => h.link.mustPark
  | .leave => true
  | .poll => false
  | .detach => true

/-- Whether the primary core waits for something that has not come. -/
def primaryWaits (h : Handshake) : Bool :=
  match h.primary with
  | .pausing => !h.link.isHalted
  | .resuming => !h.link.isResumed
  | .outside => false
  | .halted => false

/-- Whether the secondary core has to stay in its checkpoint. -/
def secondaryWaits (h : Handshake) : Bool := h.secondary == .parked && h.link.mustStay

/-- Whether the core that would take a step has something to wait for. -/
def waits (h : Handshake) (c : Step) : Bool :=
  if c.isSecondary then h.secondaryWaits else h.primaryWaits

variable {h : Handshake} {c : Step}

lemma link_take (hi : Coherent h) (hc : c ≠ .attach) (hq : h.signals c = false) :
    (h.take c).link = h.link := by
  cases c with
  | requestPause =>
    have hatt : h.link.attached = false := hq
    simp [take, CoreLink.requestPause, hatt]
  | concludePause =>
    have hover : h.link.isHalted = true := by simpa [signals] using hq
    simp [take, CoreLink.concludePause, hover]
  | requestResume => cases hi <;> first | rfl | cases hq
  | concludeResume => rfl
  | attach => exact absurd rfl hc
  | checkpoint =>
    have hpark : h.link.mustPark = false := hq
    simp [take, hpark]
  | poll => rfl
  | leave => cases hq
  | detach => cases hq

lemma secondary_take (hc : c.isSecondary = false) (hattach : c ≠ .attach) :
    (h.take c).secondary = h.secondary := by
  cases c with
  | requestPause => rfl
  | concludePause => rfl
  | requestResume => rfl
  | concludeResume => rfl
  | attach => exact absurd rfl hattach
  | _ => cases hc

lemma secondaryWaits_take (hi : Coherent h) (hc : c.isSecondary = false) (hattach : c ≠ .attach)
    (hq : h.signals c = false) : (h.take c).secondaryWaits = h.secondaryWaits := by
  rw [secondaryWaits, secondaryWaits, secondary_take hc hattach, link_take hi hattach hq]

lemma primaryWaits_take (hi : Coherent h) (hc : c.isSecondary = true)
    (hq : h.signals c = false) : (h.take c).primaryWaits = h.primaryWaits := by
  have hattach : c ≠ .attach := by
    rintro rfl
    cases hc
  rw [primaryWaits, primaryWaits, primary_take hc, link_take hi hattach hq]

/-- How many steps an episode still takes when no wait times out. -/
def distance (h : Handshake) : Nat :=
  match h.primary with
  | .outside => 0
  | .resuming => if h.link.isResumed then 1 else 2
  | .halted => 3
  | .pausing => if h.link.isHalted then 4 else 5

/-- During an episode one of the cores can bring its end nearer, and has not to wait for that. -/
lemma exists_nearer (hi : Coherent h) (ho : h.primary ≠ .outside) :
    ∃ c, h.possible c = true ∧ c ≠ .attach ∧ h.waits c = false ∧
      (h.take c).distance < h.distance := by
  cases hi with
  | idle => exact absurd rfl ho
  | requested => exact ⟨.checkpoint, by decide⟩
  | parked => exact ⟨.concludePause, by decide⟩
  | halted | late | lateResumed => exact ⟨.requestResume, by decide⟩
  | resuming => exact ⟨.leave, by decide⟩
  | resumed => exact ⟨.concludeResume, by decide⟩
  | absent p =>
    cases p with
    | outside => exact absurd rfl ho
    | pausing => exact ⟨.concludePause, by decide⟩
    | halted => exact ⟨.requestResume, by decide⟩
    | resuming => exact ⟨.concludeResume, by decide⟩

end Handshake

/-- The two cores, and which of them sleep. -/
structure Waits where
  handshake : Handshake
  primaryAsleep : Bool
  secondaryAsleep : Bool

namespace Waits

open Handshake

/-! ### Runs -/

inductive Act
  /-- A step of a core that is awake. A wait ends so when what it waits for has come. -/
  | step (c : Handshake.Step)
  /-- The wait of the primary core ends by its timeout. -/
  | timeOut
  /-- A core wakes without a signal. -/
  | wakePrimary
  | wakeSecondary
  /-- A core that was woken looks at the link, and has to wait on. -/
  | sleepPrimary
  | sleepSecondary

/-- Whether the core that would take a step sleeps. -/
def asleep (s : Waits) (c : Handshake.Step) : Bool :=
  if c.isSecondary then s.secondaryAsleep else s.primaryAsleep

/-- Which acts can be done. The secondary core has been attached before, and is not replaced. -/
def possible (s : Waits) : Act → Bool
  | .step c => s.handshake.possible c && c != .attach && !s.asleep c && !s.handshake.waits c
  | .timeOut => s.handshake.possible .concludePause || s.handshake.possible .concludeResume
  | .wakePrimary => s.primaryAsleep
  | .wakeSecondary => s.secondaryAsleep
  | .sleepPrimary => !s.primaryAsleep && s.handshake.primaryWaits
  | .sleepSecondary => !s.secondaryAsleep && s.handshake.secondaryWaits

/-- A step of one core. At its end that core sleeps if it has to wait, and a signal wakes the
other. -/
def pass (s : Waits) (c : Handshake.Step) : Waits :=
  let h := s.handshake.take c
  let quiet := !s.handshake.signals c
  if c.isSecondary then ⟨h, s.primaryAsleep && quiet, h.secondaryWaits⟩
  else ⟨h, h.primaryWaits, s.secondaryAsleep && quiet⟩

/-- The section that ends the wait of the primary core. -/
def conclusion (h : Handshake) : Handshake.Step :=
  if h.primary = .pausing then .concludePause else .concludeResume

def take (s : Waits) : Act → Waits
  | .step c => s.pass c
  | .timeOut => s.pass (conclusion s.handshake)
  | .wakePrimary => { s with primaryAsleep := false }
  | .wakeSecondary => { s with secondaryAsleep := false }
  | .sleepPrimary => { s with primaryAsleep := true }
  | .sleepSecondary => { s with secondaryAsleep := true }

def Step (s : Waits) (a : Act) (t : Waits) : Prop := s.possible a = true ∧ t = s.take a

/-- The secondary core has just been attached. -/
def attached : Waits := ⟨Handshake.new.take .attach, false, false⟩

variable {s t u : Waits} {a : Act} {c : Handshake.Step} {log : List Act}

/-! ### Whoever sleeps is right to -/

structure Inv (s : Waits) : Prop where
  coherent : s.handshake.Coherent
  primary : s.primaryAsleep = true → s.handshake.primaryWaits = true
  secondary : s.secondaryAsleep = true → s.handshake.secondaryWaits = true

lemma inv_attached : Inv attached where
  coherent := coherent_start
  primary h := by cases h
  secondary h := by cases h

lemma inv_pass (hi : Inv s) (hp : s.handshake.possible c = true) (hc : c ≠ .attach) :
    Inv (s.pass c) := by
  have hcoh := coherent_take hi.coherent hp hc
  cases hsec : c.isSecondary with
  | true =>
    rw [pass, if_pos hsec]
    refine ⟨hcoh, ?_, id⟩
    intro h
    rw [Bool.and_eq_true, Bool.not_eq_true'] at h
    rw [primaryWaits_take hi.coherent hsec h.2]
    exact hi.primary h.1
  | false =>
    rw [pass, if_neg (by simp [hsec])]
    refine ⟨hcoh, id, ?_⟩
    intro h
    rw [Bool.and_eq_true, Bool.not_eq_true'] at h
    rw [secondaryWaits_take hi.coherent hsec hc h.2]
    exact hi.secondary h.1

lemma possible_conclusion (h : s.possible .timeOut = true) :
    s.handshake.possible (conclusion s.handshake) = true := by
  simp only [possible, Handshake.possible, Bool.or_eq_true, beq_iff_eq] at h
  rcases h with h | h <;> simp [conclusion, Handshake.possible, h]

lemma conclusion_ne_attach (h : Handshake) : conclusion h ≠ .attach := by
  unfold conclusion
  split <;> simp

lemma possible_step (h : s.possible (.step c) = true) :
    s.handshake.possible c = true ∧ c ≠ .attach := by
  simp only [possible, Bool.and_eq_true, bne_iff_ne] at h
  exact h.1.1

lemma inv_step (hi : Inv s) (hs : Step s a t) : Inv t := by
  obtain ⟨hp, rfl⟩ := hs
  cases a with
  | step c =>
    obtain ⟨hc, hattach⟩ := possible_step hp
    exact inv_pass hi hc hattach
  | timeOut => exact inv_pass hi (possible_conclusion hp) (conclusion_ne_attach _)
  | wakePrimary => exact ⟨hi.coherent, nofun, hi.secondary⟩
  | wakeSecondary => exact ⟨hi.coherent, hi.primary, nofun⟩
  | sleepPrimary =>
    simp only [possible, Bool.and_eq_true] at hp
    exact ⟨hi.coherent, fun _ => hp.2, hi.secondary⟩
  | sleepSecondary =>
    simp only [possible, Bool.and_eq_true] at hp
    exact ⟨hi.coherent, hi.primary, fun _ => hp.2⟩

/-! ### The end of an episode -/

lemma not_asleep (hi : Inv s) (hw : s.handshake.waits c = false) : s.asleep c = false := by
  refine Bool.eq_false_iff.mpr fun hs => Bool.eq_false_iff.mp hw ?_
  cases hsec : c.isSecondary with
  | true =>
    simp only [asleep, waits, hsec, if_true] at hs ⊢
    exact hi.secondary hs
  | false =>
    simp only [asleep, waits, hsec, Bool.false_eq_true, if_false] at hs ⊢
    exact hi.primary hs

lemma possible_of_not_waits (hi : Inv s) (hp : s.handshake.possible c = true) (hc : c ≠ .attach)
    (hw : s.handshake.waits c = false) : s.possible (.step c) = true := by
  simp [possible, hp, hc, hw, not_asleep hi hw]

lemma handshake_pass : (s.pass c).handshake = s.handshake.take c := by
  unfold pass
  split <;> rfl

/-- No episode gets stuck: it can be brought to its end, even if no wait times out any more. -/
lemma exists_run_outside (hi : Inv s) :
    ∃ log t, Run Step s log t ∧ t.handshake.primary = .outside ∧ .timeOut ∉ log := by
  -- induction on how far the end is
  generalize hd : s.handshake.distance = d
  induction d using Nat.strongRecOn generalizing s with
  | _ d ih =>
    by_cases ho : s.handshake.primary = .outside
    · exact ⟨[], s, .nil, ho, by simp⟩
    · obtain ⟨c, hp, hattach, hw, hlt⟩ := exists_nearer hi.coherent ho
      have hstep : Step s (.step c) (s.pass c) := ⟨possible_of_not_waits hi hp hattach hw, rfl⟩
      rw [← handshake_pass, hd] at hlt
      obtain ⟨log, t, hrun, hout, htime⟩ := ih _ hlt (inv_step hi hstep) rfl
      refine ⟨[.step c] ++ log, t, (Run.snoc .nil hstep).trans hrun, hout, ?_⟩
      simpa using htime

/-! ### What stays until its step is taken -/

lemma primary_pass (hp : s.possible (.step c) = true) (ho : s.handshake.primary = .outside)
    (hc : c ≠ .requestPause) : (s.pass c).handshake.primary = .outside := by
  obtain ⟨hpos, hattach⟩ := possible_step hp
  rw [handshake_pass]
  cases hsec : c.isSecondary with
  | true => exact (primary_take hsec).trans ho
  | false =>
    cases c with
    | requestPause => exact absurd rfl hc
    | concludePause | requestResume | concludeResume => simp [Handshake.possible, ho] at hpos
    | attach => exact absurd rfl hattach
    | _ => cases hsec

lemma outside_of_run (hr : Run Step s log t) (ho : s.handshake.primary = .outside)
    (hl : .step .requestPause ∉ log) : t.handshake.primary = .outside := by
  induction hr with
  | nil => exact ho
  | @snoc log t u a _ hs ih =>
    rw [List.mem_append, List.mem_singleton, not_or] at hl
    have hout := ih hl.1
    obtain ⟨hp, rfl⟩ := hs
    cases a with
    | step c =>
      refine primary_pass hp hout ?_
      rintro rfl
      exact hl.2 rfl
    | timeOut => simp [possible, Handshake.possible, hout] at hp
    | _ => exact hout

lemma parked_of_run (hr : Run Step s log t) (hpark : s.handshake.secondary = .parked)
    (hl : .step .leave ∉ log) : t.handshake.secondary = .parked := by
  induction hr with
  | nil => exact hpark
  | @snoc log t u a _ hs ih =>
    rw [List.mem_append, List.mem_singleton, not_or] at hl
    have hparked := ih hl.1
    obtain ⟨hp, rfl⟩ := hs
    cases a with
    | step c =>
      obtain ⟨hpos, hattach⟩ := possible_step hp
      rw [take, handshake_pass]
      cases hsec : c.isSecondary with
      | false => rwa [secondary_take hsec hattach]
      | true =>
        cases c with
        | leave => exact absurd rfl hl.2
        | checkpoint | poll | detach => simp [Handshake.possible, hparked] at hpos
        | _ => cases hsec
    | timeOut =>
      have hsec : (conclusion t.handshake).isSecondary = false := by
        unfold conclusion
        split <;> rfl
      rwa [take, handshake_pass, secondary_take hsec (conclusion_ne_attach _)]
    | _ => exact hparked

/-! ### The result -/

lemma step_leave (hi : Inv s) (hr : s.handshake.primary = .resuming)
    (hw : s.handshake.link.isResumed = false) :
    ∃ t, Step s (.step .leave) t ∧ t.handshake.link.state = .running ∧
      t.handshake.secondary = .working ∧ t.primaryAsleep = false := by
  have hleave : s.handshake.possible .leave = true ∧ s.handshake.waits .leave = false := by
    obtain ⟨h, primaryAsleep, secondaryAsleep⟩ := s
    obtain ⟨hcoh, -, -⟩ := hi
    cases hcoh with
    | resuming => exact ⟨rfl, rfl⟩
    | resumed => cases hw
    | absent p => cases hw
    | _ => cases hr
  refine ⟨_, ⟨possible_of_not_waits hi hleave.1 (by simp) hleave.2, rfl⟩, rfl, rfl, ?_⟩
  simp [take, pass, signals, Step.isSecondary]

lemma not_isResumed (hi : Inv s) (hr : s.handshake.primary = .resuming)
    (hs : s.primaryAsleep = true) : s.handshake.link.isResumed = false := by
  have hw := hi.primary hs
  simpa [primaryWaits, hr] using hw

lemma not_parked {h : Handshake} (hcoh : h.Coherent) (ho : h.primary = .outside) :
    h.secondary ≠ .parked := by
  cases hcoh with
  | absent p => simp
  | idle => simp
  | _ => cases ho

lemma not_mustPark {h : Handshake} (hcoh : h.Coherent) (ho : h.primary = .outside) :
    h.link.mustPark = false := by
  rw [CoreLink.mustPark, state_of_outside hcoh ho]
  rfl

lemma not_parked_of_step {u : Waits} (hi : Inv s) (ho : s.handshake.primary = .outside)
    (hs : Step s (.step .checkpoint) u) : u.handshake.secondary ≠ .parked := by
  obtain ⟨-, rfl⟩ := hs
  rw [take, handshake_pass, Handshake.take, if_neg (by simp [not_mustPark hi.coherent ho])]
  exact not_parked hi.coherent ho

lemma isResumed_of_step (hs : Step s a t) (hr : s.handshake.primary = .resuming)
    (ho : t.handshake.primary = .outside) : s.handshake.link.isResumed = true := by
  have hconclude (h : (s.handshake.take .concludeResume).primary = .outside) :
      s.handshake.link.isResumed = true := by
    by_contra hw
    simp [Handshake.take, hw] at h
  obtain ⟨hp, rfl⟩ := hs
  cases a with
  | step c =>
    obtain ⟨hpos, hattach⟩ := possible_step hp
    rw [take, handshake_pass] at ho
    cases hsec : c.isSecondary with
    | true => cases (primary_take hsec).symm.trans ho |>.symm.trans hr
    | false =>
      cases c with
      | concludeResume => exact hconclude ho
      | requestPause | concludePause | requestResume => simp [Handshake.possible, hr] at hpos
      | attach => exact absurd rfl hattach
      | _ => cases hsec
  | timeOut =>
    rw [take, handshake_pass, conclusion, if_neg (by simp [hr])] at ho
    exact hconclude ho
  | _ => cases ho.symm.trans hr

lemma not_parked_of_resumed {h : Handshake} (hcoh : h.Coherent) (hr : h.primary = .resuming)
    (hw : h.link.isResumed = true) : h.secondary ≠ .parked := by
  cases hcoh with
  | resumed => simp
  | absent p => simp
  | resuming => cases hw
  | _ => cases hr

/-- **The secondary core is never left parked.** Outside of an episode the link is running and the
core is not parked; a pause that failed parks nobody later; while a resumption is waited for, the
core has ended or can leave its checkpoint at once; a resumption succeeds only after it has left or
ended; and from any moment on the episode can be brought to its end without a timeout. -/
theorem never_left_parked (hrun : Run Step attached log s) :
    (s.handshake.primary = .outside →
      s.handshake.link.state = .running ∧ s.handshake.secondary ≠ .parked) ∧
    (∀ a t, s.handshake.primary = .pausing → Step s a t → t.handshake.primary = .outside →
      ∀ later u v, Run Step t later u → .step .requestPause ∉ later →
        Step u (.step .checkpoint) v → v.handshake.secondary ≠ .parked) ∧
    (s.handshake.primary = .resuming →
      s.primaryAsleep = true ∨ s.handshake.link.isResumed = false →
      ∃ t, Step s (.step .leave) t ∧ t.handshake.link.state = .running ∧
        t.handshake.secondary = .working ∧ t.primaryAsleep = false) ∧
    (∀ a t, s.handshake.primary = .resuming → Step s a t → t.handshake.primary = .outside →
      s.handshake.secondary ≠ .parked ∧
        ∀ before since r, Run Step attached before r → Run Step r since s →
          r.handshake.secondary = .parked → .step .leave ∈ since) ∧
    (∃ later t, Run Step s later t ∧ t.handshake.primary = .outside ∧ .timeOut ∉ later) := by
  have hi := hrun.invariant inv_attached inv_step
  refine ⟨?_, ?_, ?_, ?_, exists_run_outside hi⟩
  · intro ho
    exact ⟨state_of_outside hi.coherent ho, not_parked hi.coherent ho⟩
  · intro a t _ hs ho later u v hlater hl hv
    have hiu := hlater.invariant (I := fun _ => Inv) (inv_step hi hs) inv_step
    exact not_parked_of_step hiu (outside_of_run hlater ho hl) hv
  · intro hr hw
    exact step_leave hi hr (hw.elim (not_isResumed hi hr) id)
  · intro a t hr hs ho
    have hnot := not_parked_of_resumed hi.coherent hr (isResumed_of_step hs hr ho)
    refine ⟨hnot, fun before since r _ hsince hpark => ?_⟩
    by_contra hl
    exact hnot (parked_of_run hsince hpark hl)

/-- A pause that fails, then an episode whose resumption times out once: looked at after the
failure, in the second wait for the resumption, and at the end. -/
theorem never_left_parked_retried :
    ∃ (log log' log'' : List Act) (s s' s'' : Waits),
      (Run Step attached log s ∧ s.handshake.primary = .outside ∧
        s.handshake.secondary ≠ .parked ∧
        ∀ v, Step s (.step .checkpoint) v → v.handshake.secondary ≠ .parked) ∧
      (Run Step attached log' s' ∧ s'.handshake.primary = .resuming ∧ s'.primaryAsleep = true ∧
        ∃ t, Step s' (.step .leave) t ∧ t.handshake.link.state = .running) ∧
      (Run Step attached log'' s'' ∧ s''.handshake.primary = .resuming ∧
        (∃ t, Step s'' (.step .concludeResume) t ∧ t.handshake.primary = .outside) ∧
        s''.handshake.secondary ≠ .parked) := by
  have h0 : Run Step attached [] _ := .nil
  have h1 := h0.snoc (e := .step .requestPause) ⟨rfl, rfl⟩
  have h2 := h1.snoc (e := .timeOut) ⟨rfl, rfl⟩
  have h3 := h2.snoc (e := .step .requestPause) ⟨rfl, rfl⟩
  have h4 := h3.snoc (e := .step .checkpoint) ⟨rfl, rfl⟩
  have h5 := h4.snoc (e := .step .concludePause) ⟨rfl, rfl⟩
  have h6 := h5.snoc (e := .step .requestResume) ⟨rfl, rfl⟩
  have h7 := h6.snoc (e := .timeOut) ⟨rfl, rfl⟩
  have h8 := h7.snoc (e := .step .requestResume) ⟨rfl, rfl⟩
  have h9 := h8.snoc (e := .step .leave) ⟨rfl, rfl⟩
  obtain ⟨-, hfailed, -⟩ := never_left_parked h1
  obtain ⟨houtside, -⟩ := never_left_parked h2
  obtain ⟨-, -, hwaiting, -⟩ := never_left_parked h8
  obtain ⟨-, -, -, hresumed, -⟩ := never_left_parked h9
  obtain ⟨t, ht, hrunning, -⟩ := hwaiting rfl (.inl rfl)
  refine ⟨_, _, _, _, _, _, ⟨h2, rfl, (houtside rfl).2, ?_⟩, ⟨h8, rfl, rfl, t, ht, hrunning⟩,
    ⟨h9, rfl, ⟨_, ⟨rfl, rfl⟩, rfl⟩, (hresumed (.step .concludeResume) _ rfl ⟨rfl, rfl⟩ rfl).1⟩⟩
  intro v hv
  exact hfailed .timeOut _ rfl ⟨rfl, rfl⟩ rfl [] _ v .nil (by simp) hv

/-! ### Episodes as runs -/

/-- Two cores on which the primary one has no call under way. -/
def between (c : Cores) : Waits := ⟨⟨c.link, .outside, c.secondary⟩, false, false⟩

/-- A pause and, if it succeeds, a resumption. -/
def episode (c : Cores) (timeout : Nat) : Cores :=
  match c.pause timeout with
  | (false, c) => c
  | (true, c) => (c.resumeFully timeout).2

/-- An episode of calls, each taken as a whole, is a run. -/
theorem episode_run (c : Cores) (timeout : Nat)
    (hc : Coherent ⟨c.link, .outside, c.secondary⟩) :
    ∃ log, Run Step (between c) log (between (episode c timeout)) := by
  obtain ⟨link, secondary, stuck⟩ := c
  have h0 : Run Step (between ⟨link, secondary, stuck⟩) [] _ := .nil
  have h1 := h0.snoc (e := .step .requestPause) ⟨rfl, rfl⟩
  cases hc with
  | idle =>
    by_cases hanswer : timeout = 0 ∨ stuck = true
    · have h2 := h1.snoc (e := .timeOut) ⟨rfl, rfl⟩
      simp only [episode, Cores.pause_unanswered hanswer]
      exact ⟨_, h2⟩
    · rw [not_or, Bool.not_eq_true] at hanswer
      obtain ⟨htimeout, rfl⟩ := hanswer
      have h2 := h1.snoc (e := .step .checkpoint) ⟨rfl, rfl⟩
      have h3 := h2.snoc (e := .step .concludePause) ⟨rfl, rfl⟩
      have h4 := h3.snoc (e := .step .requestResume) ⟨rfl, rfl⟩
      have h5 := h4.snoc (e := .step .leave) ⟨rfl, rfl⟩
      have h6 := h5.snoc (e := .step .concludeResume) ⟨rfl, rfl⟩
      simp only [episode, Cores.pause_answered htimeout, Cores.resumeFully_parked]
      exact ⟨_, h6⟩
  | absent =>
    have h2 := h1.snoc (e := .step .concludePause) ⟨rfl, rfl⟩
    have h3 := h2.snoc (e := .step .requestResume) ⟨rfl, rfl⟩
    have h4 := h3.snoc (e := .step .concludeResume) ⟨rfl, rfl⟩
    simp only [episode, Cores.pause_absent, Cores.resumeFully_absent]
    exact ⟨_, h4⟩

end Waits

end HomeHub
