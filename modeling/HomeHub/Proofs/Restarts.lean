import HomeHub.Proofs.SettingsText
import HomeHub.Proofs.StoreRuns
import HomeHub.Proofs.ThermostatOperations

/-!
A thermostat, its store and the board under it, from one start to the next. Whenever the store has
nothing left to write, a restart finds the settings that are in memory.

Two things carry this. The flash holds the record of a store that is not marked, whatever has become
of the writes. And the record is either the one that the thermostat was started from, with the
settings unchanged since, or the record of the settings as they are.
-/

namespace HomeHub.Restarts

open Thermostat (Hosted)

/-! ### Runs -/

structure St (δ : Type) where
  hosted : Hosted
  board : Board δ

inductive Action
  | operate (o : Thermostat.Operation)
  | start (reading : Option Reading) (now : Time)
  | tick (now : Time)
  /-- The secondary core and the link to it come to stand in any way. -/
  | cores (cores : Cores)

variable {δ : Type}

/-- A thermostat with the settings that its store holds. -/
def opened (store : Store) (slot : Option BroadcastSlot) (board : Board δ) : St δ :=
  ⟨⟨.restored store.record, some store, slot⟩, board⟩

variable [Flash δ]

/-- The store's tick on the board. -/
def ticked (s : St δ) (store : Store) (now : Time) : St δ :=
  let (_, store, board) := s.board.tick store now
  ⟨{ s.hosted with outlets := { s.hosted.outlets with store := some store } }, board⟩

def perform (s : St δ) : Action → St δ
  | .operate o => { s with hosted := s.hosted.perform o }
  | .start reading now =>
    { s with hosted := { s.hosted with thermostat := s.hosted.thermostat.start reading now } }
  | .tick now =>
    match s.hosted.outlets.store with
    | some store => ticked s store now
    | none => s
  | .cores cores => { s with board := { s.board with cores } }

inductive Step (s : St δ) : Action → St δ → Prop
  | perform (a : Action) : Step s a (perform s a)

/-! ### What the record says of the settings -/

/-- The record is the one that the thermostat was started from, with the same settings since, or it
is the record of the settings. -/
def Tells (r : Record) (s : Settings) : Prop :=
  (Thermostat.restored r).settings = s ∨ Record.ofJson s.toJson = .ok r

lemma settings_restored {r : Record} {s : Settings} (h : Tells r s) (hs : s.InRange)
    (hread : Json.ReadsBack s.target) : (Thermostat.restored r).settings = s := by
  rcases h with h | h
  · exact h
  · simp [Thermostat.restored, Thermostat.new, Settings.ofRecord?_of_ofJson hs h hread]

lemma attach_of_loaded {d : δ} {config : Store.Config} {r : Record}
    (h : (Store.readPage d config.offset).toOption.map Store.loaded = some r) :
    Store.attach d config = .ok ⟨config, r, false, none, 0⟩ := by
  rcases hp : Store.readPage d config.offset with why | p
  · simp [hp, Except.toOption] at h
  · have hloaded : Store.loaded p = r := by simpa [hp, Except.toOption] using h
    simp [Store.attach, hp, hloaded]

/-! ### Invariants -/

variable {s t : St δ} {config : Store.Config}

/-- A store keeps what the thermostat needs to be started again. -/
structure Inv (config : Store.Config) (s : St δ) (kept : Store) : Prop where
  store : s.hosted.outlets.store = some kept
  config : kept.config = config
  page : ∃ log, StoreRuns.Inv log ⟨kept, s.board.flash, none⟩
  inRange : s.hosted.thermostat.settings.InRange
  tells : Tells kept.record s.hosted.thermostat.settings

lemma inv_opened {board : Board δ} {store : Store} (slot : Option BroadcastSlot)
    (h : Store.attach board.flash config = .ok store) :
    Inv config (opened store slot board) store where
  store := rfl
  config := by
    obtain ⟨p, -, rfl⟩ := StoreRuns.attach_eq_ok h
    rfl
  page := ⟨[], StoreRuns.inv_open h⟩
  inRange := Thermostat.inRange_restored _
  tells := .inl rfl

variable [LawfulFlash δ] {store : Store}

lemma inv_operate (hi : Inv config s store) (o : Thermostat.Operation) :
    ∃ store', Inv config (perform s (.operate o)) store' := by
  obtain ⟨hstore, hconfig, ⟨log, hpage⟩, hrange, htells⟩ := hi
  have hrange' := Thermostat.inRange_run hrange o
  rcases Thermostat.run_cases hrange o with ⟨r, he, hr, -⟩ | ⟨hs, ⟨he, -⟩ | ⟨he, -⟩⟩
  · refine ⟨store.update r, ?_, hconfig, ⟨_, StoreRuns.inv_step hpage (.update r)⟩, hrange',
      .inr hr⟩
    simp [perform, Hosted.perform, he, Outlets.applyAll, Outlets.apply, Thermostat.tell, hstore]
  · refine ⟨store, ?_, hconfig, ⟨log, hpage⟩, hrange', ?_⟩
    · simp [perform, Hosted.perform, he, Outlets.applyAll, Outlets.apply, Thermostat.tell, hstore]
    · simpa only [perform, Hosted.perform, hs] using htells
  · refine ⟨store, ?_, hconfig, ⟨log, hpage⟩, hrange', ?_⟩
    · simp [perform, Hosted.perform, he, Outlets.applyAll, hstore]
    · simpa only [perform, Hosted.perform, hs] using htells

omit [LawfulFlash δ] in
lemma record_tick (b : Board δ) (store : Store) (now : Time) :
    (b.tick store now).2.1.record = store.record := by
  rcases StoreRuns.start_cases store now with ⟨-, h⟩ | ⟨-, h⟩ | ⟨-, h⟩ <;>
    simp only [Board.tick, Store.tick, h]
  cases (b.write store.config.lockoutTimeout store.config.offset store.record).1 with
  | notHalted => rfl
  | written => rfl
  | failed why => rfl

lemma inv_ticked (hi : Inv config s store) (now : Time) :
    Inv config (ticked s store now) (s.board.tick store now).2.1 := by
  obtain ⟨-, hconfig, hpage, hrange, htells⟩ := hi
  obtain ⟨log, hrun⟩ := StoreRuns.tick_run s.board store now
  refine ⟨rfl, ?_, ?_, hrange, ?_⟩
  · have h := hrun.unchanged (f := fun s => s.store.config) StoreRuns.config_step
    exact h.trans hconfig
  · exact hrun.invariant (I := fun _ s => ∃ log, StoreRuns.Inv log s) hpage
      fun ⟨_, hi⟩ hs => ⟨_, StoreRuns.inv_step hi hs⟩
  · rw [record_tick]
    exact htells

lemma inv_step {a : Action} (hi : ∃ store, Inv config s store) (h : Step s a t) :
    ∃ store, Inv config t store := by
  obtain ⟨store, hi⟩ := hi
  cases h with
  | perform =>
    cases a with
    | operate o => exact inv_operate hi o
    | start reading now =>
      refine ⟨store, hi.store, hi.config, hi.page, ?_, ?_⟩
      · simpa [perform] using hi.inRange
      · simpa [perform] using hi.tells
    | tick now =>
      refine ⟨(s.board.tick store now).2.1, ?_⟩
      simp only [perform, hi.store]
      exact inv_ticked hi now
    | cores cores => exact ⟨store, hi.store, hi.config, hi.page, hi.inRange, hi.tells⟩

/-! ### The result -/

/-- **Settings survive a restart.** Whatever was on the flash at first and whatever has become of
the writes since, while the store is not marked a new store opens on the flash, and a thermostat
started from it has the settings of the one that is running, if their target is read back from its
text. -/
theorem settings_survive {board : Board δ} {store : Store} {slot : Option BroadcastSlot}
    {log : List Action} (hopen : Store.attach board.flash config = .ok store)
    (hrun : Run Step (opened store slot board) log s) :
    ∃ kept, s.hosted.outlets.store = some kept ∧
      (kept.dirty = false → ∃ reopened, Store.attach s.board.flash config = .ok reopened ∧
        (Json.ReadsBack s.hosted.thermostat.settings.target →
          (Thermostat.restored reopened.record).settings = s.hosted.thermostat.settings)) := by
  obtain ⟨kept, hi⟩ := hrun.invariant (I := fun _ s => ∃ store, Inv config s store)
    ⟨store, inv_opened slot hopen⟩ inv_step
  refine ⟨kept, hi.store, fun hclean => ?_⟩
  obtain ⟨_, -, hpage, -⟩ := hi.page
  obtain ⟨p, hp, hloaded⟩ := hpage hclean
  rw [hi.config] at hp
  refine ⟨⟨config, Store.loaded p, false, none, 0⟩, by simp [Store.attach, hp], fun hread => ?_⟩
  simp only at hloaded
  exact settings_restored (hloaded ▸ hi.tells) hi.inRange hread

/-- A board with a blank flash. -/
def blank : Board MemoryFlash := .new (.new 4096)

def everySecond : Store.Config := ⟨1000, 2000, 0⟩

/-- The store that opens on the blank flash. -/
def unwritten : Store := ⟨everySecond, Record.empty, false, none, 0⟩

/-- A command that sets the target temperature to 21. -/
def setTarget : Action :=
  .operate (.command .configure (.object [(Settings.targetField, .ofNat 21)]))

/-- The target temperature is written with the first tick, and a restart finds it. -/
theorem settings_survive_target :
    ∃ store log s kept reopened, Store.attach blank.flash everySecond = .ok store ∧
      Run Step (opened store none blank) log s ∧
      s.hosted.outlets.store = some kept ∧ kept.dirty = false ∧
      Store.attach s.board.flash everySecond = .ok reopened ∧
      (Thermostat.restored reopened.record).settings = ⟨Binary64.ofNat 21, true, false⟩ := by
  have hopen : Store.attach blank.flash everySecond = .ok unwritten :=
    attach_of_loaded (by decide +kernel)
  have hrun := (Run.nil.snoc (Step.perform (s := opened unwritten none blank) setTarget)).snoc
    (.perform (.tick 0))
  obtain ⟨kept, hkept, hsurvive⟩ := settings_survive hopen hrun
  have hclean : kept.dirty = false := by
    have h : (some kept).map (·.dirty) = some false := by
      rw [← hkept]
      decide +kernel
    exact Option.some.inj h
  obtain ⟨reopened, hreopened, hsettings⟩ := hsurvive hclean
  refine ⟨_, _, _, kept, reopened, hopen, hrun, hkept, hclean, hreopened, ?_⟩
  rw [hsettings (by unfold Json.ReadsBack; decide +kernel)]
  decide +kernel

end HomeHub.Restarts
