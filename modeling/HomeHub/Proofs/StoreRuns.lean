import HomeHub.Board
import HomeHub.Proofs.FlashLaws
import HomeHub.Proofs.PageRoundTrip
import HomeHub.Proofs.Runs

/-!
No update of a store is lost, in whatever order updates, requests and the three phases of its
ticks come and whatever becomes of the writes.

The mark is taken away before the record is written, and others may set it again meanwhile. What
holds all along is that a store without the mark has its record on the page, or in the hands of
the tick that is about to write it.
-/

namespace HomeHub.StoreRuns

open Store

/-! ### Runs -/

/-- How far a tick has come. -/
inductive Stage
  | holding (record : Record)
  | wrote (result : WriteResult)

/-- A store, its device and the tick that is under way. -/
structure St (δ : Type) where
  store : Store
  device : δ
  tick : Option Stage

inductive Event
  | asked
  | snapshot
  | returned (outcome : Tick)
  | silent

variable {δ : Type}

/-- The first phase of a tick. -/
def begun (s : St δ) (now : Time) : Event × St δ :=
  match s.store.start now with
  | (.clean, store) => (.returned .clean, { s with store })
  | (.deferred, store) => (.returned .deferred, { s with store })
  | (.attempt record, store) => (.snapshot, { s with store, tick := some (.holding record) })

/-- The last phase of a tick. -/
def ended (s : St δ) (result : WriteResult) : Event × St δ :=
  (.returned (s.store.finish result).1,
    { s with store := (s.store.finish result).2, tick := none })

variable [Flash δ]

/-- The second phase of a tick, with the secondary core halted. -/
def flashed (s : St δ) (record : Record) : St δ :=
  { s with
    device := (flashRecord s.device s.store.config.offset record).2
    tick := some (.wrote (flashRecord s.device s.store.config.offset record).1) }

inductive Step : St δ → Event → St δ → Prop
  | update {s : St δ} (record : Record) : Step s .asked { s with store := s.store.update record }
  | requestWrite {s : St δ} : Step s .asked { s with store := s.store.requestWrite }
  | begin {s : St δ} (now : Time) : s.tick = none → Step s (begun s now).1 (begun s now).2
  | flash {s : St δ} {record : Record} :
      s.tick = some (.holding record) → Step s .silent (flashed s record)
  /-- The secondary core does not halt. -/
  | skip {s : St δ} {record : Record} :
      s.tick = some (.holding record) → Step s .silent { s with tick := some (.wrote .notHalted) }
  /-- The device fails, for whatever reason and with whatever on the page. -/
  | fail {s : St δ} {record : Record} (why : FlashFault) (device : δ) :
      s.tick = some (.holding record) → Readable device s.store.config.offset →
      Step s .silent { s with device, tick := some (.wrote (.failed why)) }
  | finish {s : St δ} {result : WriteResult} :
      s.tick = some (.wrote result) → Step s (ended s result).1 (ended s result).2

/-! ### What has been asked for -/

/-- Something has been asked for, and no tick that took its snapshot later has written. -/
def Unsaved (log : List Event) : Prop :=
  ∃ before after, log = before ++ .asked :: after ∧
    ¬ [Event.snapshot, .returned .written].Sublist after

/-- Something has been asked for since the last snapshot. -/
def Late (log : List Event) : Prop :=
  ∃ before after, log = before ++ .asked :: after ∧ Event.snapshot ∉ after

lemma asked_snoc {log : List Event} {e : Event} {P : List Event → Prop} :
    (∃ before after, log ++ [e] = before ++ .asked :: after ∧ P after) ↔
      (e = .asked ∧ P []) ∨ ∃ before after, log = before ++ .asked :: after ∧ P (after ++ [e]) := by
  constructor
  · rintro ⟨before, after, h, hP⟩
    rcases append_singleton_cases h with ⟨he, rfl⟩ | ⟨rest, rfl, hlog⟩
    · exact Or.inl ⟨he.symm, hP⟩
    · exact Or.inr ⟨before, rest, hlog, hP⟩
  · rintro (⟨rfl, hP⟩ | ⟨before, after, rfl, hP⟩)
    · exact ⟨log, [], rfl, hP⟩
    · exact ⟨before, after ++ [e], by simp, hP⟩

lemma unsaved_asked (log : List Event) : Unsaved (log ++ [.asked]) :=
  asked_snoc.mpr (Or.inl ⟨rfl, by simp⟩)

lemma late_asked (log : List Event) : Late (log ++ [.asked]) :=
  asked_snoc.mpr (Or.inl ⟨rfl, by simp⟩)

lemma not_late_snapshot (log : List Event) : ¬ Late (log ++ [.snapshot]) := by
  rintro h
  rcases asked_snoc.mp h with ⟨h, -⟩ | ⟨-, after, -, h⟩
  · cases h
  · simp at h

lemma late_snoc {log : List Event} {e : Event} (ha : e ≠ .asked) (hs : e ≠ .snapshot) :
    Late (log ++ [e]) ↔ Late log := by
  refine asked_snoc.trans ?_
  simp [ha, Ne.symm hs, Late]

lemma unsaved_snoc {log : List Event} {e : Event} (ha : e ≠ .asked)
    (hw : e ≠ .returned .written) : Unsaved (log ++ [e]) ↔ Unsaved log := by
  have hsub (after : List Event) : [Event.snapshot, .returned .written].Sublist (after ++ [e]) ↔
      [Event.snapshot, .returned .written].Sublist after := by
    refine ⟨fun h => ?_, fun h => h.trans (List.sublist_append_left _ _)⟩
    obtain ⟨u, v, huv, hu, hv⟩ := List.sublist_append_iff.mp h
    rcases List.eq_nil_or_concat v with rfl | ⟨w, b, rfl⟩
    · simpa [huv] using hu
    · -- the completed write would be the last event
      rw [List.concat_eq_append] at huv hv
      have hb : b = e := by
        simpa using hv.subset (List.mem_append_right w (List.mem_singleton_self b))
      have huv' : [Event.snapshot] ++ [.returned .written] = (u ++ w) ++ [b] := by
        rw [List.append_assoc, ← huv]
        rfl
      obtain ⟨-, h⟩ := List.append_inj' huv' rfl
      exact absurd ((List.singleton_inj.mp h).trans hb).symm hw
  refine asked_snoc.trans ?_
  simp [ha, hsub, Unsaved]

/-- A completed write leaves what has been asked for since its snapshot. -/
lemma unsaved_written (log : List Event) :
    Unsaved (log ++ [.returned .written]) ↔ Late log := by
  have hsub (after : List Event) :
      [Event.snapshot, .returned .written].Sublist (after ++ [.returned .written]) ↔
        Event.snapshot ∈ after := by
    constructor
    · intro h
      simpa using h.subset (List.mem_cons_self ..)
    · intro h
      exact (List.singleton_sublist.mpr h).append (List.Sublist.refl _)
  refine asked_snoc.trans ?_
  simp [hsub, Late]

/-! ### Invariants -/

variable {s t : St δ} {log : List Event} {e : Event}

def Kept (s : St δ) : Prop :=
  ∃ p, readPage s.device s.store.config.offset = .ok p ∧ loaded p = s.store.record

/-- Without the mark, the record is kept or in the hands of the tick. -/
def PageInv (s : St δ) : Prop :=
  match s.tick with
  | none => s.store.dirty = false → Kept s
  | some (.holding record) => s.store.dirty = false → s.store.record = record
  | some (.wrote .written) => s.store.dirty = false → Kept s
  | some (.wrote _) => True

/-- The mark tells what has been asked for, during a tick since its snapshot. -/
def MarkInv (log : List Event) (s : St δ) : Prop :=
  match s.tick with
  | none => s.store.dirty = true ↔ Unsaved log
  | some _ => Unsaved log ∧ (s.store.dirty = true ↔ Late log)

structure Inv (log : List Event) (s : St δ) : Prop where
  readable : Readable s.device s.store.config.offset
  page : PageInv s
  mark : MarkInv log s

lemma start_cases (s : Store) (now : Time) :
    (s.dirty = false ∧ s.start now = (.clean, s)) ∨
    (s.dirty = true ∧ s.start now = (.deferred, s)) ∨
    (s.dirty = true ∧
      s.start now = (.attempt s.record, { s with lastWrite := some now, dirty := false })) := by
  unfold start
  cases s.dirty
  · exact Or.inl ⟨rfl, rfl⟩
  · cases s.isLimited now
    · exact Or.inr (Or.inr ⟨rfl, rfl⟩)
    · exact Or.inr (Or.inl ⟨rfl, rfl⟩)

lemma flashRecord_readable [LawfulFlash δ] {d : δ} {offset : Nat} (record : Record)
    (h : Readable d offset) : Readable (flashRecord d offset record).2 offset := by
  unfold flashRecord
  rcases he : Flash.erase d offset with why | e
  · exact h
  · rcases hf : Flash.program e offset record.toPage with why | f
    · simpa [hf] using LawfulFlash.readable_erase h he
    · simpa [hf] using ⟨_, LawfulFlash.readPage_program h he hf⟩

lemma flashRecord_written [LawfulFlash δ] {d : δ} {offset : Nat} {record : Record}
    (h : Readable d offset) (hw : (flashRecord d offset record).1 = .written) :
    readPage (flashRecord d offset record).2 offset = .ok record.toPage := by
  unfold flashRecord at hw ⊢
  rcases he : Flash.erase d offset with why | e
  · simp [he] at hw
  · rcases hf : Flash.program e offset record.toPage with why | f
    · simp [he, hf] at hw
    · simpa [hf] using LawfulFlash.readPage_program h he hf

lemma attach_eq_ok {d : δ} {config : Config} {store : Store} (h : attach d config = .ok store) :
    ∃ p, readPage d config.offset = .ok p ∧ store = ⟨config, loaded p, false, none, 0⟩ := by
  unfold attach at h
  rcases hp : readPage d config.offset with why | p
  · simp [hp] at h
  · simp only [hp, Except.ok.injEq] at h
    exact ⟨p, rfl, h.symm⟩

lemma inv_open {d : δ} {config : Config} {store : Store}
    (h : attach d config = .ok store) : Inv [] ⟨store, d, none⟩ := by
  obtain ⟨p, hp, rfl⟩ := attach_eq_ok h
  refine ⟨⟨p, hp⟩, fun _ => ⟨p, hp, rfl⟩, ?_⟩
  simp [MarkInv, Unsaved]

omit [Flash δ] in
lemma markInv_silent {log : List Event} {s t : St δ} {u v : Stage} (hs : s.tick = some u)
    (ht : t.tick = some v) (hd : t.store.dirty = s.store.dirty) (h : MarkInv log s) :
    MarkInv (log ++ [.silent]) t := by
  simp only [MarkInv, hs] at h
  simp only [MarkInv, ht, hd]
  rwa [unsaved_snoc (by simp) (by simp), late_snoc (by simp) (by simp)]

lemma pageInv_dirty (h : s.store.dirty = true) : PageInv s := by
  unfold PageInv
  split <;> simp [h]

lemma inv_asked (hread : Readable t.device t.store.config.offset) (hd : t.store.dirty = true) :
    Inv (log ++ [.asked]) t := by
  refine ⟨hread, pageInv_dirty hd, ?_⟩
  unfold MarkInv
  split
  · exact iff_of_true hd (unsaved_asked log)
  · exact ⟨unsaved_asked log, iff_of_true hd (late_asked log)⟩

lemma inv_begun (hi : Inv log s) (idle : s.tick = none) (now : Time) :
    Inv (log ++ [(begun s now).1]) (begun s now).2 := by
  obtain ⟨hread, hpage, hmark⟩ := hi
  simp only [MarkInv, idle] at hmark
  rcases start_cases s.store now with ⟨-, h⟩ | ⟨-, h⟩ | ⟨hd, h⟩ <;> simp only [begun, h]
  · refine ⟨hread, hpage, ?_⟩
    simp only [MarkInv, idle]
    rwa [unsaved_snoc (by simp) (by simp)]
  · refine ⟨hread, hpage, ?_⟩
    simp only [MarkInv, idle]
    rwa [unsaved_snoc (by simp) (by simp)]
  · -- the mark goes, and the snapshot is the record in memory
    refine ⟨hread, fun _ => rfl, ?_, ?_⟩
    · exact (unsaved_snoc (by simp) (by simp)).mpr (hmark.mp hd)
    · exact iff_of_false (by simp) (not_late_snapshot log)

lemma inv_flashed [LawfulFlash δ] {record : Record} (hi : Inv log s)
    (h : s.tick = some (.holding record)) : Inv (log ++ [.silent]) (flashed s record) := by
  obtain ⟨hread, hpage, hmark⟩ := hi
  refine ⟨flashRecord_readable record hread, ?_, markInv_silent h rfl rfl hmark⟩
  simp only [PageInv, h] at hpage
  rcases hw : (flashRecord s.device s.store.config.offset record).1 with _ | _ | why <;>
    simp only [PageInv, flashed, hw]
  -- not asked for anything since its snapshot, the store still has the record that was written
  intro hd
  refine ⟨record.toPage, flashRecord_written hread hw, ?_⟩
  rw [loaded_toPage]
  exact (hpage hd).symm

lemma inv_ended {result : WriteResult} (hi : Inv log s) (h : s.tick = some (.wrote result)) :
    Inv (log ++ [(ended s result).1]) (ended s result).2 := by
  obtain ⟨hread, hpage, hmark⟩ := hi
  simp only [MarkInv, h] at hmark
  cases result with
  | written =>
    simp only [PageInv, h] at hpage
    exact ⟨hread, hpage, hmark.2.trans (unsaved_written log).symm⟩
  | notHalted =>
    -- the mark is set again, and what was asked for before the snapshot is still unsaved
    refine ⟨hread, pageInv_dirty rfl, iff_of_true rfl ?_⟩
    exact (unsaved_snoc (by simp [ended, finish]) (by simp [ended, finish])).mpr hmark.1
  | failed why =>
    refine ⟨hread, pageInv_dirty rfl, iff_of_true rfl ?_⟩
    exact (unsaved_snoc (by simp [ended, finish]) (by simp [ended, finish])).mpr hmark.1

lemma inv_step [LawfulFlash δ] (hi : Inv log s) (hs : Step s e t) : Inv (log ++ [e]) t := by
  cases hs with
  | update record => exact inv_asked hi.readable rfl
  | requestWrite => exact inv_asked hi.readable rfl
  | begin now idle => exact inv_begun hi idle now
  | flash h => exact inv_flashed hi h
  | skip h => exact ⟨hi.readable, trivial, markInv_silent h rfl rfl hi.mark⟩
  | fail why device h hread => exact ⟨hread, trivial, markInv_silent h rfl rfl hi.mark⟩
  | finish h => exact inv_ended hi h

lemma start_config (s : Store) (now : Time) : (s.start now).2.config = s.config := by
  rcases start_cases s now with ⟨-, h⟩ | ⟨-, h⟩ | ⟨-, h⟩ <;> rw [h]

omit [Flash δ] in
lemma store_begun (s : St δ) (now : Time) : (begun s now).2.store = (s.store.start now).2 := by
  unfold begun
  rcases s.store.start now with ⟨_ | _ | _, _⟩ <;> rfl

lemma finish_config (s : Store) (result : WriteResult) :
    (s.finish result).2.config = s.config := by
  cases result <;> rfl

lemma config_step (hs : Step s e t) : t.store.config = s.store.config := by
  cases hs with
  | begin now =>
    rw [store_begun]
    exact start_config _ _
  | finish => exact finish_config _ _
  | _ => rfl

/-! ### Whole ticks -/

/-- What a board writes is what the second phase does to the flash, or it skips it. -/
lemma write_cases (b : Board δ) (timeout offset : Nat) (record : Record) :
    ((b.write timeout offset record).1 = .notHalted ∧
      (b.write timeout offset record).2.flash = b.flash) ∨
    ((b.write timeout offset record).1 = (flashRecord b.flash offset record).1 ∧
      (b.write timeout offset record).2.flash = (flashRecord b.flash offset record).2) := by
  unfold Board.write
  rcases b.cores.pause timeout with ⟨halted, cores⟩
  cases halted
  · exact Or.inl ⟨rfl, rfl⟩
  · exact Or.inr ⟨rfl, rfl⟩

/-- A tick of a store on a board, taken as a whole, is a run of its phases. -/
theorem tick_run (b : Board δ) (store : Store) (now : Time) :
    ∃ log, Run Step ⟨store, b.flash, none⟩ (log ++ [.returned (b.tick store now).1])
      ⟨(b.tick store now).2.1, (b.tick store now).2.2.flash, none⟩ := by
  have hbegin := Run.nil.snoc (Step.begin (s := ⟨store, b.flash, none⟩) now rfl)
  rcases start_cases store now with ⟨-, h⟩ | ⟨-, h⟩ | ⟨-, h⟩ <;>
    simp only [begun, h] at hbegin <;>
    simp only [Board.tick, Store.tick, h]
  · exact ⟨[], hbegin⟩
  · exact ⟨[], hbegin⟩
  · -- the snapshot has been taken
    rcases write_cases b store.config.lockoutTimeout store.config.offset store.record with
      ⟨hresult, hflash⟩ | ⟨hresult, hflash⟩ <;>
      rw [hresult, hflash]
    · exact ⟨_, (hbegin.snoc (.skip rfl)).snoc (.finish rfl)⟩
    · exact ⟨_, (hbegin.snoc (.flash rfl)).snoc (.finish rfl)⟩

/-! ### The result -/

/-- **No update is lost.** Whatever has become of the writes of a freshly opened store, while no
tick is under way its page holds its record unless it is marked, and it is marked as long as
something asked for has not been written. -/
theorem no_update_lost [LawfulFlash δ] {device : δ} {config : Config} {store : Store}
    (hopen : attach device config = .ok store) (hrun : Run Step ⟨store, device, none⟩ log s)
    (hidle : s.tick = none) :
    (s.store.dirty = false →
      ∃ p, readPage s.device config.offset = .ok p ∧ loaded p = s.store.record) ∧
    (s.store.dirty = true ↔ Unsaved log) := by
  obtain ⟨-, hpage, hmark⟩ := hrun.invariant (inv_open hopen) inv_step
  simp only [PageInv, MarkInv, hidle] at hpage hmark
  obtain ⟨p, -, hstore⟩ := attach_eq_ok hopen
  have hconfig : s.store.config = config := by
    rw [hrun.unchanged (f := fun s => s.store.config) config_step, hstore]
  exact ⟨fun hd => hconfig ▸ hpage hd, hmark⟩

/-- The document `7`. -/
def seven : Record := ⟨[55], by decide⟩

def eight : Record := ⟨[56], by decide⟩

/-- An update comes in while the record before it is being written. That write fails, and the next
tick writes the update. -/
theorem no_update_lost_during_write :
    ∃ (store : Store) (log : List Event) (s : St MemoryFlash),
      attach (MemoryFlash.new 4096) ⟨1000, 2000, 0⟩ = .ok store ∧
      Run Step ⟨store, MemoryFlash.new 4096, none⟩ log s ∧ s.tick = none ∧ s.store.dirty = false ∧
      (∃ p, readPage s.device 0 = .ok p ∧ loaded p = eight) ∧ ¬ Unsaved log := by
  have hlen : (MemoryFlash.new 4096).image.length = 4096 := List.length_replicate
  have hslice : Flash.slice (MemoryFlash.new 4096).image 0 256 =
      List.replicate 256 Flash.erased := by
    rw [Flash.slice, List.drop_zero, MemoryFlash.new, List.take_replicate]
    rfl
  have hpage : readPage (MemoryFlash.new 4096) 0 =
      .ok ⟨List.replicate 256 Flash.erased, List.length_replicate⟩ := by
    refine readPage_eq_ok.mpr (.trans (MemoryFlash.read_eq (by rw [hlen]; decide)) ?_)
    exact congrArg Except.ok hslice
  have hblank : loaded ⟨List.replicate 256 Flash.erased, List.length_replicate⟩ =
      Record.empty := by
    have hall : (List.replicate 256 Flash.erased).all (· == Flash.erased) = true := by
      rw [List.all_replicate]
      rfl
    rw [loaded, Record.ofPage, if_pos hall]
  have hopen : attach (MemoryFlash.new 4096) ⟨1000, 2000, 0⟩ =
      .ok ⟨⟨1000, 2000, 0⟩, Record.empty, false, none, 0⟩ := by
    simp only [attach, hpage, hblank]
  have hwrite : (flashRecord (MemoryFlash.new 4096) 0 eight).1 = .written := by decide +kernel
  have h0 : Run Step ⟨⟨⟨1000, 2000, 0⟩, Record.empty, false, none, 0⟩, MemoryFlash.new 4096, none⟩
      [] _ := .nil
  have h1 := h0.snoc (.update seven)
  have h2 := h1.snoc (.begin 0 rfl)
  have h3 := h2.snoc (.update eight)
  have h4 := h3.snoc (.fail (.broken .erase) (MemoryFlash.new 4096) rfl ⟨_, hpage⟩)
  have h5 := h4.snoc (.finish rfl)
  have h6 := h5.snoc (.begin 1000 rfl)
  have h7 := h6.snoc (.flash rfl)
  have h8 := h7.snoc (.finish (congrArg (fun r => some (Stage.wrote r)) hwrite))
  have h := no_update_lost hopen h8 rfl
  refine ⟨_, _, _, hopen, h8, rfl, rfl, h.1 rfl, fun hu => ?_⟩
  exact absurd (h.2.mpr hu) (by decide)

end HomeHub.StoreRuns
