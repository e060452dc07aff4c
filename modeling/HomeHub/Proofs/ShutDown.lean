import HomeHub.Proofs.ReplyOwners
import HomeHub.Proofs.StoreCalls
import HomeHub.Server.Periodic

/-!
Whether the end of a server saves the record.

The last attempts to save it go on for five seconds, whatever the interval between two attempts is.
They save it if that interval, from the attempt before them, has passed at one of the looks at the
clock that are taken meanwhile. Otherwise the record is lost; and as nothing bounds the interval,
this can happen with settings that are accepted.
-/

namespace HomeHub

namespace Server

variable {σ δ : Type} [Flash δ]

/-- Saves the record, where the clock shows these times. -/
def flushAt (times : List Time) (s : Server σ δ) (now : Time) : Server σ δ :=
  match s.outlets.store with
  | none => s
  | some store =>
    let (store, board) := Store.flush (now + flushTimeout) times store s.board
    { s with outlets := { s.outlets with store := some store }, board }

/-- Ends the server, where the clock shows these times as the record is saved. -/
def shutDownAt (times : List Time) (s : Server σ δ) (now : Time) : Server σ δ :=
  let s := s.closeAll.2.flushAt times now
  { s with board := s.board.stopCore }

lemma shutDown_eq (s : Server σ δ) (now : Time) :
    s.shutDown now = s.shutDownAt (flushTimes now) now := rfl

end Server

namespace ShutDown

variable {σ δ : Type} [Flash δ]

/-! ### Attempts -/

/-- The secondary core gets to its checkpoint within the timeout, if there is one. -/
def Halts (cores : Cores) (timeout : Nat) : Prop := (cores.pause timeout).1 = true

/-- The interval since the last attempt has passed. -/
def Passed (store : Store) (t : Time) : Prop :=
  ∀ last, store.lastWrite = some last → store.config.writeInterval ≤ elapsed last t

/-- A store after a write at a time. -/
def written (store : Store) (t : Time) : Store :=
  { store with lastWrite := some t, dirty := false, writes := store.writes + 1 }

variable {store : Store} {b : Board δ} {t now : Time}

lemma isLimited_eq_false_iff : store.isLimited t = false ↔ Passed store t := by
  unfold Store.isLimited Passed
  cases store.lastWrite <;> simp

lemma tick_of_not_passed (hdirty : store.dirty = true) (h : ¬ Passed store t) :
    b.tick store t = (.deferred, store, b) := by
  have hlimited : store.isLimited t = true := by
    rwa [← isLimited_eq_false_iff, Bool.not_eq_false] at h
  simp only [Board.tick, Store.tick, Store.start, hdirty, hlimited, Bool.not_true,
    Bool.false_eq_true, if_false, if_true]

lemma tick_of_passed (b : Board δ) (hdirty : store.dirty = true)
    (hflash : Store.Writable b.flash store.config.offset)
    (hhalts : Halts b.cores store.config.lockoutTimeout) (h : Passed store t) :
    ∃ c : Board δ, b.tick store t = (.written, written store t, c) ∧
      c.flash = (Store.flashRecord b.flash store.config.offset store.record).2 ∧
      c.cores = ((b.cores.pause store.config.lockoutTimeout).2.resumeFully
        store.config.lockoutTimeout).2 := by
  have hlimited := isLimited_eq_false_iff.mpr h
  obtain ⟨c, hwrite, hc⟩ : ∃ c : Board δ,
      b.write store.config.lockoutTimeout store.config.offset store.record = (.written, c) ∧
        c.flash = (Store.flashRecord b.flash store.config.offset store.record).2 ∧
        c.cores = ((b.cores.pause store.config.lockoutTimeout).2.resumeFully
          store.config.lockoutTimeout).2 := by
    have hwritten := hflash.written store.record
    unfold Board.write
    rcases hp : b.cores.pause store.config.lockoutTimeout with ⟨halted, cores⟩
    obtain rfl : halted = true := (congrArg Prod.fst hp).symm.trans hhalts
    exact ⟨_, congrArg (·, _) hwritten, rfl, rfl⟩
  refine ⟨c, ?_, hc⟩
  simp only [Board.tick, Store.tick, Store.start, hdirty, hlimited, Bool.not_true,
    Bool.false_eq_true, if_false, hwrite]
  rfl

lemma flush_cases {deadline : Int} {times : List Int} (hsorted : times.Pairwise (· ≤ ·))
    (hdirty : store.dirty = true) (hflash : Store.Writable b.flash store.config.offset)
    (hhalts : Halts b.cores store.config.lockoutTimeout) :
    (∃ t ∈ times, t < deadline ∧ Passed store t ∧ ∃ c : Board δ,
      Store.flush deadline times store b = (written store t, c) ∧
        c.flash = (Store.flashRecord b.flash store.config.offset store.record).2) ∨
    (∀ t ∈ times, t < deadline → ¬ Passed store t) ∧
      Store.flush deadline times store b = (store, b) := by
  induction times with
  | nil => exact .inr ⟨by simp, rfl⟩
  | cons t later ih =>
    obtain ⟨hle, hsorted⟩ := List.pairwise_cons.mp hsorted
    by_cases hlate : deadline ≤ t
    · -- the loop ends, and all later times are past the deadline too
      refine .inr ⟨fun u hu hearly => ?_, ?_⟩
      · rcases List.mem_cons.mp hu with rfl | hu
        · omega
        · have := hle u hu
          omega
      · simp [Store.flush, hdirty, Int.not_lt.mpr hlate]
    · have hearly : t < deadline := Int.not_le.mp hlate
      by_cases hpassed : Passed store t
      · obtain ⟨c, htick, hc, -⟩ := tick_of_passed b hdirty hflash hhalts hpassed
        refine .inl ⟨t, List.mem_cons_self, hearly, hpassed, c, ?_, hc⟩
        simp only [Store.flush, hdirty, hearly, decide_true, Bool.and_self, if_true, htick]
        cases later <;> rfl
      · have hflush : Store.flush deadline (t :: later) store b =
            Store.flush deadline later store b := by
          rw [Store.flush, if_pos (by simp [hdirty, hearly]),
            tick_of_not_passed hdirty hpassed]
        rw [hflush]
        rcases ih hsorted with ⟨u, hu, hrest⟩ | ⟨hnone, hsame⟩
        · exact .inl ⟨u, List.mem_cons_of_mem t hu, hrest⟩
        · refine .inr ⟨fun u hu hu' => ?_, hsame⟩
          rcases List.mem_cons.mp hu with rfl | hu
          · exact hpassed
          · exact hnone u hu hu'

/-! ### Looks at the clock -/

/-- The times at which a loop looks at the clock that runs to a deadline and never pauses for
longer: there is one in every such span. -/
structure Paced (pause : Nat) (now deadline : Int) (times : List Int) : Prop where
  sorted : times.Pairwise (· ≤ ·)
  dense : ∀ u : Int, now ≤ u → u + pause ≤ deadline → ∃ t ∈ times, u ≤ t ∧ t < u + pause

lemma paced_flushTimes (now : Int) : Paced Server.flushPause now (now + Server.flushTimeout)
    (Server.flushTimes now) where
  sorted := by
    rw [Server.flushTimes, List.pairwise_map]
    refine List.pairwise_lt_range.imp fun {i j} hij => ?_
    have hmul : i * Server.flushPause ≤ j * Server.flushPause :=
      Nat.mul_le_mul_right _ (Nat.le_of_lt hij)
    exact Int.add_le_add_left (Int.ofNat_le.mpr hmul) now
  dense u hu hdeadline := by
    simp only [Server.flushPause, Server.flushTimeout] at hdeadline ⊢
    refine ⟨now + (((u - now + 49) / 50).toNat * 50 : Nat), List.mem_map.mpr
      ⟨((u - now + 49) / 50).toNat, List.mem_range.mpr ?_, rfl⟩, ?_, ?_⟩
    · simp only [Server.flushPause, Server.flushTimeout]
      omega
    · omega
    · omega

/-- A time that is early enough for the interval and a pause. -/
lemma Paced.exists_passed {pause : Nat} {now deadline : Int} {times : List Int}
    (h : Paced pause now deadline times) (hpause : now + pause ≤ deadline)
    (hearly : ∀ last : Int, store.lastWrite = some last →
      last + store.config.writeInterval + pause ≤ deadline) :
    ∃ t ∈ times, t < deadline ∧ Passed store t := by
  rcases hlast : store.lastWrite with _ | last
  · obtain ⟨t, ht, -, hlt⟩ := h.dense now (Int.le_refl _) hpause
    exact ⟨t, ht, by omega, fun last h => by simp [hlast] at h⟩
  · have hdue := hearly last hlast
    obtain ⟨t, ht, hle, hlt⟩ :=
      h.dense (max now (last + store.config.writeInterval)) (Int.le_max_left _ _) (by omega)
    refine ⟨t, ht, by omega, fun last' h => ?_⟩
    obtain rfl : last = last' := Option.some.inj (hlast.symm.trans h)
    unfold elapsed
    omega

lemma not_passed_of_late {last deadline t : Int} (hlast : store.lastWrite = some last)
    (hpos : 0 < store.config.writeInterval)
    (hlate : deadline ≤ last + store.config.writeInterval) (ht : t < deadline) :
    ¬ Passed store t := by
  intro hpassed
  have hdue := (le_elapsed_iff hpos).mp (hpassed last hlast)
  omega

/-! ### The result -/

/-- The store has nothing left to write, and its page holds the record that another store had. -/
structure Saved (store : Store) (s : Server σ δ) : Prop where
  clean : ∃ after, s.outlets.store = some after ∧ after.dirty = false ∧
    after.record = store.record
  page : ∃ p, Store.readPage s.board.flash store.config.offset = .ok p ∧
    Record.ofPage p = .ok store.record

lemma not_saved_of_dirty {s : Server σ δ} (hstore : s.outlets.store = some store)
    (hdirty : store.dirty = true) : ¬ Saved store s := by
  rintro ⟨⟨after, hafter, hclean, -⟩, -⟩
  rw [hstore] at hafter
  rw [← Option.some.inj hafter, hdirty] at hclean
  cases hclean

/-- What becomes of the record of a store at the end of a server. -/
structure Ended (s : Server σ δ) (store : Store) (times : List Int) (now : Int) : Prop where
  /-- It is saved if the interval has passed at one of the looks at the clock. -/
  saved_iff : Saved store (s.shutDownAt times now) ↔
    ∃ t ∈ times, t < now + Server.flushTimeout ∧ Passed store t
  /-- So it is if the interval passes a pause before the deadline. -/
  early : (∀ last : Int, store.lastWrite = some last →
      last + store.config.writeInterval + Server.flushPause ≤ now + Server.flushTimeout) →
    Saved store (s.shutDownAt times now)
  /-- And it is not if the interval does not pass before the deadline. -/
  late : ∀ last : Int, store.lastWrite = some last → 0 < store.config.writeInterval →
    now + Server.flushTimeout ≤ last + store.config.writeInterval →
    ¬ Saved store (s.shutDownAt times now)
  /-- What is not saved is still marked, and the flash is as it was. -/
  unsaved : ¬ Saved store (s.shutDownAt times now) →
    (s.shutDownAt times now).outlets = s.outlets ∧
    (s.shutDownAt times now).board.flash = s.board.flash

lemma outlets_shutDownAt {s : Server σ δ} (hstore : s.outlets.store = some store)
    (times : List Time) (now : Time) : (s.shutDownAt times now).outlets =
      { s.outlets with
        store := some (Store.flush (now + Server.flushTimeout) times store s.board).1 } := by
  have hclosed : s.closeAll.2.outlets.store = some store := hstore
  simp only [Server.shutDownAt, Server.flushAt, hclosed]
  rfl

lemma flash_shutDownAt {s : Server σ δ} (hstore : s.outlets.store = some store)
    (times : List Time) (now : Time) : (s.shutDownAt times now).board.flash =
      (Store.flush (now + Server.flushTimeout) times store s.board).2.flash := by
  have hclosed : s.closeAll.2.outlets.store = some store := hstore
  simp only [Server.shutDownAt, Server.flushAt, hclosed]
  rfl

variable [LawfulFlash δ] {s : Server σ δ} {times : List Int}

/-- The record is saved if and only if one of the attempts writes it. -/
lemma saved_cases (hstore : s.outlets.store = some store) (hdirty : store.dirty = true)
    (hflash : Store.Writable s.board.flash store.config.offset)
    (hhalts : Halts s.board.cores store.config.lockoutTimeout)
    (hsorted : times.Pairwise (· ≤ ·)) (now : Int) :
    ((∃ t ∈ times, t < now + Server.flushTimeout ∧ Passed store t) ∧
      Saved store (s.shutDownAt times now)) ∨
    ((∀ t ∈ times, t < now + Server.flushTimeout → ¬ Passed store t) ∧
      (s.shutDownAt times now).outlets = s.outlets ∧
      (s.shutDownAt times now).board.flash = s.board.flash) := by
  have houtlets := outlets_shutDownAt hstore times now
  have hdevice := flash_shutDownAt hstore times now
  rcases flush_cases hsorted hdirty hflash hhalts with
    ⟨t, ht, hearly, hpassed, c, hflush, hc⟩ | ⟨hnone, hflush⟩
  · rw [hflush] at houtlets hdevice
    refine .inl ⟨⟨t, ht, hearly, hpassed⟩, ⟨written store t, ?_, rfl, rfl⟩, ?_⟩
    · rw [houtlets]
    · refine ⟨store.record.toPage, ?_, Record.ofPage_toPage _⟩
      rw [hdevice, hc]
      exact StoreRuns.flashRecord_written hflash.readable (hflash.written _)
  · rw [hflush] at houtlets hdevice
    refine .inr ⟨hnone, ?_, hdevice⟩
    rw [houtlets, ← hstore]

/-- **What the end of a server saves.** The record of a store that is marked is saved if and only if
the interval since the last attempt has passed at one of the last looks at the clock. So it is
saved if the interval passes before the deadline and a pause ahead of it. If it does not pass
before the deadline, the store is left marked, and the flash as it was. -/
theorem ended_of_dirty (hstore : s.outlets.store = some store) (hdirty : store.dirty = true)
    (hflash : Store.Writable s.board.flash store.config.offset)
    (hhalts : Halts s.board.cores store.config.lockoutTimeout) {now : Int}
    (hpaced : Paced Server.flushPause now (now + Server.flushTimeout) times) :
    Ended s store times now := by
  have hiff : Saved store (s.shutDownAt times now) ↔
      ∃ t ∈ times, t < now + Server.flushTimeout ∧ Passed store t := by
    rcases saved_cases hstore hdirty hflash hhalts hpaced.sorted now with
      ⟨hpassed, hsaved⟩ | ⟨hnone, houtlets, -⟩
    · exact iff_of_true hsaved hpassed
    · refine iff_of_false ?_ (fun ⟨t, ht, hlt, hpassed⟩ => hnone t ht hlt hpassed)
      exact not_saved_of_dirty (houtlets ▸ hstore) hdirty
  refine ⟨hiff, fun hearly => ?_, fun last hlast hpos hlate hsaved => ?_, fun hunsaved => ?_⟩
  · have hpause : now + Server.flushPause ≤ now + Server.flushTimeout :=
      Int.add_le_add_left (by decide) now
    exact hiff.mpr (hpaced.exists_passed hpause hearly)
  · obtain ⟨t, -, hlt, hpassed⟩ := hiff.mp hsaved
    exact not_passed_of_late hlast hpos hlate hlt hpassed
  · rcases saved_cases hstore hdirty hflash hhalts hpaced.sorted now with
      ⟨-, hsaved⟩ | ⟨-, hsame⟩
    · exact absurd hsaved hunsaved
    · exact hsame

/-! ### A store that has just been written -/

open StoreRuns (seven eight)

/-- The store of a configuration on an erased device. -/
def opened (c : Config) : Store := ⟨c.storeConfig, Record.empty, false, none, 0⟩

/-- What comes of its first write. -/
def firstWrite (c : Config) : Store.Tick × Store × Board MemoryFlash :=
  (Board.new (MemoryFlash.new Flash.imageSize)).tick ((opened c).update seven) 0

/-- A server without clients whose store has been written and then updated. -/
def updated (c : Config) : Server Echo MemoryFlash :=
  { ServerRuns.idle with
    outlets := ⟨some ((firstWrite c).2.1.update eight), none⟩
    board := (firstWrite c).2.2 }

lemma pause_new (timeout : Nat) : Cores.new.pause timeout = (true, Cores.new) := by
  unfold Cores.pause Cores.wait
  split <;> rfl

lemma resume_new (timeout : Nat) : Cores.new.resume timeout = (true, Cores.new) := by
  unfold Cores.resume Cores.wait
  split <;> rfl

/-- How the store, the flash and the cores stand then. -/
structure Updated (c : Config) : Prop where
  attach : Store.attach (MemoryFlash.new Flash.imageSize) c.storeConfig = .ok (opened c)
  first : (firstWrite c).1 = .written
  store : (updated c).outlets.store = some ⟨c.storeConfig, eight, true, some 0, 1⟩
  writable : Store.Writable (updated c).board.flash c.storeConfig.offset
  halts : Halts (updated c).board.cores c.storeConfig.lockoutTimeout
  page : Store.readPage (updated c).board.flash c.storeConfig.offset = .ok seven.toPage

lemma updated_of_config (c : Config) : Updated c := by
  have halign : c.storeConfig.offset % Flash.sectorSize = 0 := by
    show Flash.targetOffset % Flash.sectorSize = 0
    decide
  have hlength : (MemoryFlash.new Flash.imageSize).image.length = Flash.imageSize :=
    List.length_replicate
  have hfits : c.storeConfig.offset + Flash.sectorSize ≤
      (MemoryFlash.new Flash.imageSize).image.length := by
    rw [hlength]
    exact Nat.le_refl _
  have hflash := MemoryFlash.writable halign hfits
  have hdirty : ((opened c).update seven).dirty = true := rfl
  have hpassed : Passed ((opened c).update seven) 0 := nofun
  obtain ⟨board, htick, hdevice, hcores⟩ :=
    tick_of_passed (Board.new (MemoryFlash.new Flash.imageSize)) hdirty hflash
      (congrArg Prod.fst (pause_new _)) hpassed
  have hfirst : firstWrite c = (.written, written ((opened c).update seven) 0, board) := htick
  have hboard : (updated c).board = board := congrArg (fun r => r.2.2) hfirst
  have hdevice : board.flash = (Store.flashRecord (MemoryFlash.new Flash.imageSize)
      c.storeConfig.offset seven).2 := hdevice
  have hcores : board.cores = Cores.new := by
    rw [hcores, Board.new, pause_new, Cores.resumeFully, resume_new]
  refine ⟨?_, by rw [hfirst], ?_, ?_, ?_, ?_⟩
  · exact StoreCalls.attach_new (Nat.le_trans (Nat.add_le_add_left (by decide) _) (hlength ▸ hfits))
  · rw [updated, hfirst]
    rfl
  · rw [hboard, hdevice]
    refine MemoryFlash.writable halign ?_
    rwa [MemoryFlash.length_flashRecord halign hfits]
  · rw [hboard, hcores]
    exact congrArg Prod.fst (pause_new _)
  · rw [hboard, hdevice]
    exact StoreRuns.flashRecord_written hflash.readable (hflash.written seven)

/-- A second between two attempts passes in time. -/
theorem ended_of_dirty_default : Updated Config.default ∧ ∃ store,
    (updated Config.default).outlets.store = some store ∧ store.dirty = true ∧
    store.record = eight ∧ Saved store ((updated Config.default).shutDown 100) := by
  have hupdated := updated_of_config Config.default
  refine ⟨hupdated, _, hupdated.store, rfl, rfl, ?_⟩
  rw [Server.shutDown_eq]
  refine (ended_of_dirty hupdated.store rfl hupdated.writable hupdated.halts
    (paced_flushTimes 100)).early fun last hlast => ?_
  obtain rfl : 0 = last := Option.some.inj hlast
  decide

/-- How the end of the server leaves the record if the interval has not passed by then. -/
structure Lost (c : Config) (now : Time) : Prop where
  marked : ∃ store, (updated c).outlets.store = some store ∧ store.dirty = true ∧
    store.record = eight ∧ ((updated c).shutDown now).outlets.store = some store ∧
    ¬ Saved store ((updated c).shutDown now)
  /-- The page still holds the record before. -/
  page : Store.readPage ((updated c).shutDown now).board.flash c.storeConfig.offset =
    .ok seven.toPage

lemma lost_of_slow {c : Config} {now : Int} (hpos : 0 < c.writeIntervalMs)
    (hslow : now + Server.flushTimeout ≤ c.writeIntervalMs) : Lost c now := by
  have hupdated := updated_of_config c
  rcases saved_cases hupdated.store rfl hupdated.writable hupdated.halts
    (paced_flushTimes now).sorted now with ⟨⟨t, -, hlt, hpassed⟩, -⟩ | ⟨-, houtlets, hdevice⟩
  · have hlate : now + Server.flushTimeout ≤ 0 + c.writeIntervalMs := by
      rwa [Int.zero_add]
    exact absurd hpassed (not_passed_of_late rfl hpos hlate hlt)
  · have hstore := (congrArg Outlets.store houtlets).trans hupdated.store
    rw [← Server.shutDown_eq] at hstore hdevice
    refine ⟨⟨_, hupdated.store, rfl, rfl, hstore, not_saved_of_dirty hstore rfl⟩, ?_⟩
    rw [hdevice]
    exact hupdated.page

/-- Settings with ten seconds between two attempts. -/
def slow : Config := { Config.default with writeIntervalMs := 10000 }

/-- Ten seconds do not: the settings are accepted, and the second record is lost. -/
theorem update_lost_at_end :
    slow.normalize = slow ∧ slow.validate = .ok () ∧ Updated slow ∧ Lost slow 100 :=
  ⟨by decide +kernel, by decide +kernel, updated_of_config slow,
    lost_of_slow (by decide) (by decide)⟩

end ShutDown

end HomeHub
