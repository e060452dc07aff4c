import HomeHub.Proofs.StoreCalls

/-!
The writes of a store are coalesced: attempts to write come at least an interval apart, and one
write takes up all that has been asked for before it.

The time of the last attempt carries this. A tick that comes less than an interval later, or whose
clock has stepped back behind it, does not attempt anything, so the times of the attempts go up by
an interval at least, whatever becomes of each of them.
-/

namespace HomeHub.StoreCalls

open Flash (Access)
open Store (Tick WriteResult)

/-! ### What a log tells -/

/-- Whether a tick tries to write. -/
def isAttempt : Tick → Bool
  | .clean | .deferred => false
  | .written | .skipped | .failed _ => true

/-- The times of the ticks that try to write. -/
def attempts (log : List Event) : List Time :=
  log.filterMap fun
    | .ticked now outcome _ => if isAttempt outcome then some now else none
    | _ => none

/-- The times of the ticks that carry out anything on the device. -/
def writes (log : List Event) : List Time :=
  log.filterMap fun
    | .ticked now _ (_ :: _) => some now
    | _ => none

def Event.Saves : Event → Prop
  | .ticked _ .written _ => True
  | _ => False

/-- Something has been asked for, and no later tick has written. -/
def Pending (log : List Event) : Prop :=
  ∃ before e after, log = before ++ e :: after ∧ e.Asks ∧ ∀ a ∈ after, ¬ a.Saves

variable {log more : List Event} {e : Event}

lemma attempts_append : attempts (log ++ more) = attempts log ++ attempts more :=
  List.filterMap_append

lemma writes_append : writes (log ++ more) = writes log ++ writes more := List.filterMap_append

lemma pending_snoc : Pending (log ++ [e]) ↔ e.Asks ∨ (Pending log ∧ ¬ e.Saves) := exists_last_snoc

/-- The second of two times is an interval later than the first, or more. -/
def Apart (interval : Nat) (t u : Time) : Prop := t + interval ≤ u

lemma Apart.le {interval : Nat} {t u : Int} (h : Apart interval t u) : t ≤ u := by
  have h : t + interval ≤ u := h
  omega

lemma Apart.of_le {interval : Nat} {s t u : Int} (hle : s ≤ t) (h : Apart interval t u) :
    Apart interval s u := by
  have h : t + interval ≤ u := h
  exact show s + interval ≤ u by omega

lemma countP_window_le {interval : Nat} {times : List Time}
    (h : times.Pairwise (Apart interval)) (since : Time) :
    times.countP (fun t => since ≤ t ∧ t < since + interval) ≤ 1 := by
  induction h with
  | nil => exact Nat.zero_le _
  | @cons t times ht _ ih =>
    rw [List.countP_cons]
    split
    · -- all later times lie behind the window
      rename_i hwindow
      rw [decide_eq_true_eq] at hwindow
      have hnone : times.countP (fun t => since ≤ t ∧ t < since + interval) = 0 := by
        rw [List.countP_eq_zero]
        intro u hu
        rw [decide_eq_true_eq]
        intro hu'
        have hlate := Int.add_le_add_right hwindow.1 interval
        exact absurd hu'.2 (Int.not_lt.mpr (Int.le_trans hlate (ht u hu)))
      omega
    · exact ih

/-! ### Invariants -/

variable {δ : Type} [Flash δ] {config : Store.Config} {may : Board δ → Board δ → Prop}
  {s t : St δ}

/-- The store knows the time of its last attempt, and no attempt was later. -/
structure Inv (config : Store.Config) (log : List Event) (s : St δ) : Prop where
  config_eq : s.store.config = config
  marked : s.store.dirty = true ↔ Pending log
  last_mem : ∀ last, s.store.lastWrite = some last → last ∈ attempts log
  le_last : ∀ t ∈ attempts log, ∃ last, s.store.lastWrite = some last ∧ t ≤ last
  spaced : (attempts log).Pairwise (Apart config.writeInterval)
  writes : (writes log).Sublist (attempts log)

lemma inv_opened {b : Board δ} {store : Store} (h : Store.attach b.flash config = .ok store) :
    Inv config [] ⟨store, b⟩ := by
  obtain ⟨p, -, rfl⟩ := StoreRuns.attach_eq_ok h
  refine ⟨rfl, ?_, by simp, by simp [attempts], .nil, .slnil⟩
  simp [Pending]

omit [Flash δ] in
lemma inv_quiet (hi : Inv config log s) (hattempts : attempts [e] = []) (hwrites : writes [e] = [])
    (hconfig : t.store.config = s.store.config)
    (hlast : t.store.lastWrite = s.store.lastWrite)
    (hmarked : t.store.dirty = true ↔ Pending (log ++ [e])) : Inv config (log ++ [e]) t := by
  have ha : attempts (log ++ [e]) = attempts log := by
    rw [attempts_append, hattempts, List.append_nil]
  have hw : StoreCalls.writes (log ++ [e]) = StoreCalls.writes log := by
    rw [writes_append, hwrites, List.append_nil]
  refine ⟨hconfig.trans hi.config_eq, hmarked, ?_, ?_, ?_, ?_⟩
  · rw [ha, hlast]
    exact hi.last_mem
  · rw [ha, hlast]
    exact hi.le_last
  · rw [ha]
    exact hi.spaced
  · rw [ha, hw]
    exact hi.writes

lemma apart_of_not_isLimited {s : Store} {now last : Int} (hpos : 0 < s.config.writeInterval)
    (h : s.isLimited now = false) (hlast : s.lastWrite = some last) :
    Apart s.config.writeInterval last now := by
  simp only [Store.isLimited, hlast] at h
  exact (le_elapsed_iff hpos).mp (Nat.not_lt.mp (of_decide_eq_false h))

omit [Flash δ] in
lemma inv_attempt (hpos : 0 < config.writeInterval) (hi : Inv config log s) {now : Time}
    {result : WriteResult} {accesses : List Access} {board : Board δ}
    (hdirty : s.store.dirty = true) (hlimited : s.store.isLimited now = false) :
    Inv config (log ++ [.ticked now ((attempting s.store now).finish result).1 accesses])
      ⟨((attempting s.store now).finish result).2, board⟩ := by
  have hlate (t : Time) (ht : t ∈ attempts log) : Apart config.writeInterval t now := by
    obtain ⟨last, hlast, hle⟩ := hi.le_last t ht
    have hapart := apart_of_not_isLimited (hi.config_eq ▸ hpos) hlimited hlast
    rw [hi.config_eq] at hapart
    exact hapart.of_le hle
  have hattempts : attempts [.ticked now ((attempting s.store now).finish result).1 accesses] =
      [now] := by
    cases result <;> rfl
  have hlast : ((attempting s.store now).finish result).2.lastWrite = some now := by
    cases result <;> rfl
  refine ⟨(StoreRuns.finish_config _ _).trans hi.config_eq, ?_, ?_, ?_, ?_, ?_⟩
  · -- the mark goes with a write, and comes back with anything else
    rw [pending_snoc, ← hi.marked]
    cases result <;> simp [Store.finish, attempting, Event.Asks, Event.Saves, hdirty]
  · intro last h
    rw [hlast] at h
    rw [attempts_append, hattempts, ← Option.some.inj h]
    exact List.mem_append_right _ (List.mem_singleton_self now)
  · intro t ht
    rw [attempts_append, hattempts, List.mem_append, List.mem_singleton] at ht
    refine ⟨now, hlast, ?_⟩
    rcases ht with ht | rfl
    · exact (hlate t ht).le
    · exact Int.le_refl t
  · rw [attempts_append, hattempts, List.pairwise_append]
    refine ⟨hi.spaced, List.pairwise_singleton _ _, fun t ht u hu => ?_⟩
    rw [List.mem_singleton.mp hu]
    exact hlate t ht
  · rw [attempts_append, writes_append, hattempts]
    refine hi.writes.append ?_
    cases accesses with
    | nil => exact List.nil_sublist _
    | cons => exact List.Sublist.refl _

lemma inv_step (hpos : 0 < config.writeInterval) (hi : Inv config log s) (h : Step may s e t) :
    Inv config (log ++ [e]) t := by
  cases h with
  | update record =>
    exact inv_quiet hi rfl rfl rfl rfl (iff_of_true rfl (pending_snoc.mpr (.inl trivial)))
  | requestWrite =>
    exact inv_quiet hi rfl rfl rfl rfl (iff_of_true rfl (pending_snoc.mpr (.inl trivial)))
  | tick now =>
    obtain ⟨outcome, store, board, accesses, h, hturn⟩ := exists_turn s now
    rw [h]
    cases hturn with
    | clean hdirty =>
      refine inv_quiet hi rfl rfl rfl rfl (hi.marked.trans ?_)
      simp [pending_snoc, Event.Asks, Event.Saves]
    | deferred hdirty hlimited =>
      refine inv_quiet hi rfl rfl rfl rfl (hi.marked.trans ?_)
      simp [pending_snoc, Event.Asks, Event.Saves]
    | attempt hdirty hlimited => exact inv_attempt hpos hi hdirty hlimited
  | change board =>
    refine inv_quiet hi rfl rfl rfl rfl (hi.marked.trans ?_)
    simp [pending_snoc, Event.Asks, Event.Saves]

/-! ### The result -/

/-- What a run of calls has come to. -/
structure Coalesced (config : Store.Config) (log : List Event) (s : St δ) : Prop where
  marked : s.store.dirty = true ↔ Pending log
  spaced : (attempts log).Pairwise (Apart config.writeInterval)
  window : ∀ since : Time,
    (writes log).countP (fun t => since ≤ t ∧ t < since + config.writeInterval) ≤ 1

/-- What the next tick does. -/
structure Orderly (may : Board δ → Board δ → Prop) (log : List Event) (s : St δ)
    (outcome : Tick) (accesses : List Access) (t : St δ) : Prop where
  /-- The first tick with anything to write tries to. -/
  prompt : Pending log → attempts log = [] → isAttempt outcome = true
  unchanged : outcome = .clean ∨ outcome = .deferred → t = s ∧ accesses = []
  skipped : outcome = .skipped → t.board.flash = s.board.flash ∧ accesses = []
  /-- What is programmed is the page that the record in memory is read from again. -/
  written : outcome = .written → Record.ofPage s.store.record.toPage = .ok s.store.record ∧
    accesses = [.erase s.store.config.offset,
      .program s.store.config.offset s.store.record.toPage]
  counted : t.store.writes = s.store.writes + if outcome = .written then 1 else 0
  /-- After a write there is nothing to do until something is asked for again. -/
  absorbed : outcome = .written → ∀ more u later, Run (Step may) t more u →
    (∀ e ∈ more, ¬ e.Asks) → (u.board.tick u.store later).1 = .clean

/-- A store that is not marked and that nobody asks anything of has nothing to write. -/
lemma clean_of_run (hrun : Run (Step may) s log t) (hdirty : s.store.dirty = false)
    (hasks : ∀ e ∈ log, ¬ e.Asks) : t.store.dirty = false := by
  refine hrun.invariant (I := fun log t => (∀ e ∈ log, ¬ e.Asks) → t.store.dirty = false)
    (fun _ => hdirty) (fun {log t e u} hi h hasks => ?_) hasks
  have ht := hi fun a ha => hasks a (List.mem_append_left _ ha)
  have he := hasks e (List.mem_append_right _ (List.mem_singleton_self e))
  cases h with
  | update => exact absurd trivial he
  | requestWrite => exact absurd trivial he
  | tick now =>
    obtain ⟨outcome, store, board, accesses, h, hturn⟩ := exists_turn t now
    rw [h]
    cases hturn with
    | clean => exact ht
    | deferred => exact ht
    | attempt hdirty => exact absurd (ht.symm.trans hdirty) (by decide)
  | change => exact ht

lemma tick_eq_clean (b : Board δ) {store : Store} (h : store.dirty = false) (now : Time) :
    (b.tick store now).1 = .clean := by
  simp [Board.tick, Store.tick, Store.start, h]

lemma orderly_tick (hi : Inv config log s) {now : Time} {outcome : Tick} {accesses : List Access}
    (h : ticked s now = (.ticked now outcome accesses, t)) :
    Orderly may log s outcome accesses t := by
  obtain ⟨outcome', store, board, accesses', h', hturn⟩ := exists_turn s now
  obtain ⟨he, rfl⟩ := Prod.mk.inj (h.symm.trans h')
  obtain ⟨-, rfl, rfl⟩ := Event.ticked.inj he
  cases hturn with
  | clean hdirty =>
    refine ⟨fun hp => ?_, fun _ => ⟨rfl, rfl⟩, nofun, nofun, rfl, nofun⟩
    exact absurd (hdirty.symm.trans (hi.marked.mpr hp)) (by decide)
  | deferred hdirty hlimited =>
    refine ⟨fun _ hnone => ?_, fun _ => ⟨rfl, rfl⟩, nofun, nofun, rfl, nofun⟩
    -- a store that has never tried is not held back
    rcases hlast : s.store.lastWrite with _ | last
    · simp [Store.isLimited, hlast] at hlimited
    · have := hi.last_mem last hlast
      rw [hnone] at this
      cases this
  | attempt hdirty hlimited hwrote =>
    generalize hflash : board.flash = d at hwrote
    cases hwrote with
    | notHalted => exact ⟨fun _ _ => rfl, nofun, fun _ => ⟨hflash, rfl⟩, nofun, rfl, nofun⟩
    | refused => exact ⟨fun _ _ => rfl, nofun, nofun, nofun, rfl, nofun⟩
    | torn => exact ⟨fun _ _ => rfl, nofun, nofun, nofun, rfl, nofun⟩
    | written =>
      refine ⟨fun _ _ => rfl, nofun, nofun, fun _ => ⟨Record.ofPage_toPage _, rfl⟩, rfl,
        fun _ more u later hrun hasks => ?_⟩
      exact tick_eq_clean _ (clean_of_run hrun rfl hasks) later

/-- **Writes are coalesced.** Whatever is asked of a freshly opened store, at whatever times it
ticks and whatever becomes of the writes, its attempts to write are an interval apart, so that no
window of that length holds two writes. A tick with nothing to write, or too soon, changes nothing;
one that writes erases and programs once, the page of the record in memory, and leaves nothing to
write until something is asked for again. -/
theorem coalesced_of_run (hpos : 0 < config.writeInterval) {b : Board δ} {store : Store}
    (hopen : Store.attach b.flash config = .ok store)
    (hrun : Run (Step may) ⟨store, b⟩ log s) :
    Coalesced config log s ∧ ∀ now outcome accesses t,
      ticked s now = (.ticked now outcome accesses, t) →
      Orderly may log s outcome accesses t := by
  have hi := hrun.invariant (inv_opened hopen) (inv_step hpos)
  refine ⟨⟨hi.marked, hi.spaced, countP_window_le (hi.spaced.sublist hi.writes)⟩, ?_⟩
  exact fun _ _ _ _ => orderly_tick hi

/-- A board with a blank sector. -/
def blankSector : Board MemoryFlash := .new (.new Flash.sectorSize)

/-- The same board with a secondary core that never halts. -/
def stuckSector : Board MemoryFlash := { blankSector with cores := Cores.new.spawn true }

/-- One write a second. -/
def eachSecond : Store.Config := ⟨1000, 2000, 0⟩

/-- The first attempt meets a secondary core that does not halt. The record is written a second
later, and the two updates that come then have to wait for another second. -/
theorem coalesced_of_run_skipped :
    ∃ store log s, Store.attach stuckSector.flash eachSecond = .ok store ∧
      Run (Step fun _ _ => True) ⟨store, stuckSector⟩ log s ∧
      Coalesced eachSecond log s ∧ attempts log = [0, 1000, 2000] ∧ writes log = [1000, 2000] ∧
      s.store.record = StoreRuns.seven ∧ s.store.dirty = false := by
  have hflash : stuckSector.flash = MemoryFlash.new Flash.sectorSize := rfl
  have hopen : Store.attach stuckSector.flash eachSecond =
      .ok ⟨eachSecond, Record.empty, false, none, 0⟩ := by
    rw [hflash]
    exact attach_new (by decide)
  have h0 : Run (Step fun _ _ => True)
      ⟨⟨eachSecond, Record.empty, false, none, 0⟩, stuckSector⟩ [] _ := .nil
  have h1 := (h0.snoc (.update StoreRuns.seven)).snoc (.tick 0)
  have h2 := (h1.snoc (.change blankSector trivial)).snoc (.tick 1000)
  have h3 := (h2.snoc (.update StoreRuns.eight)).snoc (.tick 1999)
  have hrun := (h3.snoc (.update StoreRuns.seven)).snoc (.tick 2000)
  have hdone := (coalesced_of_run (by decide) hopen hrun).1
  exact ⟨_, _, _, hopen, hrun, hdone, by decide +kernel⟩

end HomeHub.StoreCalls
