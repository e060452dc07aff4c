import HomeHub.Proofs.StoreCalls

/-!
Power may be lost between any two operations on the flash, and what a store then opens with is a
record that was written whole, or none.

What is left behind by a cut is what the operations before it make of the initial image. A program
always follows an erase of the same sector, so it writes its page as it is; and between the two the
page is blank. Nothing else but the sector is ever touched.
-/

namespace HomeHub.StoreCalls

open Flash (Access)
open Store (Tick WriteResult)

/-! ### Cuts -/

/-- The device after an operation. -/
def carryOut (m : MemoryFlash) : Access → Except FlashFault MemoryFlash
  | .erase offset => m.erase offset
  | .program offset page => m.program offset page

/-- The device after operations, first to last. -/
def replay (m : MemoryFlash) (done : List Access) : Except FlashFault MemoryFlash :=
  done.foldlM carryOut m

/-- What the ticks of a run have carried out on the device. An operation that fails changes nothing
and is not among them. -/
def trail (log : List Event) : List Access :=
  log.flatMap fun
    | .ticked _ _ accesses => accesses
    | _ => []

/-- The record that is to be found after operations: the last one programmed, or none if there was
an erase since; at first the one that was loaded. -/
inductive Found (loaded : Record) : List Access → Record → Prop
  | untouched : Found loaded [] loaded
  | erased (done : List Access) (offset : Nat) : Found loaded (done ++ [.erase offset]) .empty
  | programmed (done : List Access) (offset : Nat) (record : Record) :
      Found loaded (done ++ [.program offset record.toPage]) record

/-- What is left of a device when the power is lost after some operations, and what a store finds
there. -/
structure Left (initial : MemoryFlash) (config : Store.Config) (loaded : Record)
    (done : List Access) (left : MemoryFlash) (record : Record) : Prop where
  replay : replay initial done = .ok left
  opens : Store.attach left config = .ok ⟨config, record, false, none, 0⟩
  found : Found loaded done record
  length : left.image.length = initial.image.length
  outside : ∀ i, i < config.offset ∨ config.offset + Flash.sectorSize ≤ i →
    left.image[i]? = initial.image[i]?

variable {initial m m' : MemoryFlash} {config : Store.Config} {loaded r r' : Record}
  {done more : List Access}

lemma Found.eq_of_program {offset : Nat}
    (h : Found loaded (done ++ [.program offset r.toPage]) r') : r' = r := by
  generalize hdone : done ++ [Access.program offset r.toPage] = accesses at h
  cases h with
  | untouched => simp at hdone
  | erased => simp at hdone
  | programmed =>
    -- a page holds one record only
    obtain ⟨-, hpage⟩ := List.append_inj' hdone rfl
    obtain ⟨-, hpage⟩ := Access.program.inj (List.singleton_inj.mp hpage)
    rw [← Store.loaded_toPage r', ← hpage, Store.loaded_toPage]

lemma Found.eq_of_erase {offset : Nat} (h : Found loaded (done ++ [.erase offset]) r) :
    r = .empty := by
  generalize hdone : done ++ [Access.erase offset] = accesses at h
  cases h with
  | untouched => simp at hdone
  | erased => rfl
  | programmed => simp at hdone

lemma replay_append :
    replay initial (done ++ more) = replay initial done >>= fun m => replay m more :=
  List.foldlM_append

lemma replay_snoc {a : Access} (h : replay initial done = .ok m) (ha : carryOut m a = .ok m') :
    replay initial (done ++ [a]) = .ok m' := by
  rw [replay_append, h]
  change replay m [a] = _
  simp only [replay, List.foldlM_cons, ha]
  rfl

lemma left_initial (hfits : config.offset + Flash.pageSize ≤ initial.image.length) :
    ∃ record, Left initial config record [] initial record := by
  have hlen : (Flash.slice initial.image config.offset Flash.pageSize).length = Flash.pageSize := by
    rw [Flash.slice, List.length_take, List.length_drop]
    omega
  exact ⟨_, rfl, attach_memory (p := ⟨_, hlen⟩) hfits rfl, .untouched, rfl, fun _ _ => rfl⟩

lemma left_erase (h : Left initial config loaded done m r)
    (he : m.erase config.offset = .ok m') :
    Left initial config loaded (done ++ [.erase config.offset]) m' .empty := by
  obtain ⟨hbounds, himage⟩ := MemoryFlash.erase_eq_ok he
  have hdata : (List.replicate Flash.sectorSize Flash.erased).length = Flash.sectorSize :=
    List.length_replicate
  have hlen : m'.image.length = m.image.length := by
    rw [himage, Flash.wiped, Flash.length_patch (by rwa [hdata])]
  have hpage : Flash.pageSize ≤ Flash.sectorSize := by decide
  refine ⟨replay_snoc h.replay he, ?_, .erased done _, hlen.trans h.length, fun i hi => ?_⟩
  · rw [← loaded_blankPage]
    refine attach_memory (by omega) ?_
    rw [himage, Flash.slice_wiped (by omega)]
    rfl
  · rw [himage, Flash.wiped, Flash.getElem?_patch (by rwa [hdata]) (by rwa [hdata])]
    exact h.outside i hi

lemma left_program {erased : MemoryFlash} (h : Left initial config loaded done m r)
    (he : m.erase config.offset = .ok erased)
    (hp : erased.program config.offset r'.toPage = .ok m') :
    Left initial config loaded
      ((done ++ [.erase config.offset]) ++ [.program config.offset r'.toPage]) m' r' := by
  have hleft := left_erase h he
  obtain ⟨hbounds, himage⟩ := MemoryFlash.erase_eq_ok he
  have hoffset : config.offset ≤ m.image.length := by omega
  obtain ⟨hslice, hfits⟩ := Flash.slice_stamped_wiped r'.toPage hoffset
  have himage' := MemoryFlash.program_eq_ok hp
  rw [← himage, ← himage'] at hslice hfits
  have hpage : Flash.pageSize ≤ Flash.sectorSize := by decide
  have hin : config.offset + Flash.pageSize ≤ erased.image.length := by
    rw [hleft.length, ← h.length]
    omega
  have hdata := Flash.length_clearBits r'.toPage hin
  have hlen : m'.image.length = erased.image.length := by
    rw [himage', Flash.stamped, Flash.length_patch (by rwa [hdata])]
  refine ⟨replay_snoc hleft.replay hp, ?_, .programmed _ _ _, hlen.trans hleft.length,
    fun i hi => ?_⟩
  · rw [attach_memory hfits hslice, Store.loaded_toPage]
  · rw [himage', Flash.stamped, Flash.getElem?_patch (by rwa [hdata]) (by rw [hdata]; omega)]
    exact hleft.outside i hi

/-! ### Runs -/

/-- The fault switches of a device, and all of the board but the device, may change at any time. -/
def Keeps (b c : Board FaultyFlash) : Prop := c.flash.memory = b.flash.memory

/-- A record that was there at first or has come with an update. -/
def Saved (loaded : Record) (log : List Event) (record : Record) : Prop :=
  record = loaded ∨ .updated record ∈ log

/-- Wherever the power is lost, a store finds a record that was saved, or none. -/
def Cuts (initial : MemoryFlash) (config : Store.Config) (loaded : Record) (log : List Event)
    (accesses : List Access) : Prop :=
  ∀ done, done <+: accesses → ∃ left record, Left initial config loaded done left record ∧
    (record = .empty ∨ Saved loaded log record)

/-- What the operations make of the initial image is what is there. -/
structure Safe (initial : MemoryFlash) (config : Store.Config) (loaded : Record)
    (log : List Event) (s : St FaultyFlash) : Prop where
  config_eq : s.store.config = config
  replay : replay initial (trail log) = .ok s.board.flash.memory
  saved : Saved loaded log s.store.record
  cuts : Cuts initial config loaded log (trail log)

variable {log : List Event} {e : Event} {s t : St FaultyFlash} {accesses : List Access}

lemma trail_snoc : trail (log ++ [e]) = trail log ++ trail [e] := List.flatMap_append

lemma trail_ticked {now : Time} {outcome : Tick} :
    trail (log ++ [.ticked now outcome accesses]) = trail log ++ accesses := by
  rw [trail_snoc]
  exact congrArg _ (List.append_nil accesses)

lemma record_finish (s : Store) (result : WriteResult) : (s.finish result).2.record = s.record := by
  cases result <;> rfl

lemma Saved.snoc (h : Saved loaded log r) : Saved loaded (log ++ [e]) r :=
  h.imp_right (List.mem_append_left [e])

lemma Cuts.snoc_event (h : Cuts initial config loaded log accesses) :
    Cuts initial config loaded (log ++ [e]) accesses := by
  intro done hdone
  obtain ⟨left, record, hleft, hsaved⟩ := h done hdone
  exact ⟨left, record, hleft, hsaved.imp_right Saved.snoc⟩

lemma Cuts.snoc {a : Access} (h : Cuts initial config loaded log accesses)
    (hleft : Left initial config loaded (accesses ++ [a]) m r)
    (hsaved : r = .empty ∨ Saved loaded log r) :
    Cuts initial config loaded log (accesses ++ [a]) := by
  intro done hdone
  rcases List.prefix_concat_iff.mp hdone with rfl | hdone
  · exact ⟨m, r, hleft, hsaved⟩
  · exact h done hdone

lemma Safe.left (h : Safe initial config loaded log s) :
    ∃ record, Left initial config loaded (trail log) s.board.flash.memory record := by
  obtain ⟨left, record, hleft, -⟩ := h.cuts (trail log) List.prefix_rfl
  obtain rfl := Except.ok.inj (hleft.replay.symm.trans h.replay)
  exact ⟨record, hleft⟩

lemma safe_opened {b : Board FaultyFlash}
    (h : Left b.flash.memory config r [] b.flash.memory r) :
    Safe b.flash.memory config r [] ⟨⟨config, r, false, none, 0⟩, b⟩ := by
  refine ⟨rfl, rfl, .inl rfl, fun done hdone => ?_⟩
  obtain rfl := List.prefix_nil.mp hdone
  exact ⟨_, r, h, .inr (.inl rfl)⟩

lemma safe_quiet (h : Safe initial config loaded log s) (htrail : trail [e] = [])
    (hconfig : t.store.config = s.store.config)
    (hmemory : t.board.flash.memory = s.board.flash.memory)
    (hsaved : Saved loaded (log ++ [e]) t.store.record) :
    Safe initial config loaded (log ++ [e]) t := by
  have htrail' : trail (log ++ [e]) = trail log := by rw [trail_snoc, htrail, List.append_nil]
  refine ⟨hconfig.trans h.config_eq, ?_, hsaved, ?_⟩
  · rw [htrail', hmemory]
    exact h.replay
  · rw [htrail']
    exact h.cuts.snoc_event

/-- Whatever becomes of a write, a cut in it leaves the record from before, none, or the new one. -/
lemma cuts_wrote {result : WriteResult} {d : FaultyFlash} (h : Safe initial config loaded log s)
    (hwrote : Store.Wrote s.board.flash config.offset s.store.record result d accesses) :
    replay initial (trail log ++ accesses) = .ok d.memory ∧
      Cuts initial config loaded log (trail log ++ accesses) := by
  obtain ⟨record, hleft⟩ := h.left
  cases hwrote with
  | notHalted =>
    rw [List.append_nil]
    exact ⟨h.replay, h.cuts⟩
  | refused =>
    rw [List.append_nil]
    exact ⟨h.replay, h.cuts⟩
  | torn he =>
    have herased := left_erase hleft (FaultyFlash.erase_eq_ok he)
    exact ⟨herased.replay, h.cuts.snoc herased (.inl rfl)⟩
  | written he hp =>
    have herased := left_erase hleft (FaultyFlash.erase_eq_ok he)
    have hwritten := left_program hleft (FaultyFlash.erase_eq_ok he) (FaultyFlash.program_eq_ok hp)
    rw [List.append_cons]
    exact ⟨hwritten.replay, (h.cuts.snoc herased (.inl rfl)).snoc hwritten (.inr h.saved)⟩

lemma safe_step (h : Safe initial config loaded log s) (hs : Step Keeps s e t) :
    Safe initial config loaded (log ++ [e]) t := by
  cases hs with
  | update record =>
    exact safe_quiet h rfl rfl rfl (.inr (List.mem_append_right _ (List.mem_singleton_self _)))
  | requestWrite => exact safe_quiet h rfl rfl rfl h.saved.snoc
  | tick now =>
    obtain ⟨outcome, store, board, accesses, heq, hturn⟩ := exists_turn s now
    rw [heq]
    cases hturn with
    | clean => exact safe_quiet h rfl rfl rfl h.saved.snoc
    | deferred => exact safe_quiet h rfl rfl rfl h.saved.snoc
    | attempt _ _ hwrote =>
      rw [h.config_eq] at hwrote
      obtain ⟨hreplay, hcuts⟩ := cuts_wrote h hwrote
      refine ⟨(StoreRuns.finish_config _ _).trans h.config_eq, ?_, ?_, ?_⟩
      · rw [trail_ticked]
        exact hreplay
      · rw [record_finish]
        exact h.saved.snoc
      · rw [trail_ticked]
        exact hcuts.snoc_event
  | change board hkeeps => exact safe_quiet h rfl rfl hkeeps h.saved.snoc

/-- **A loss of power never makes up a record.** A store opens on whatever image holds its page.
Wherever the power is lost in a run of it, whatever became of the writes, the image left behind is
as it was at first outside of the sector, and a store opens there with the record of the last
program, or with none after an erase, and so with one that was saved. -/
theorem crash_leaves_saved {b : Board FaultyFlash}
    (hfits : config.offset + Flash.pageSize ≤ b.flash.memory.image.length) :
    ∃ store, Store.attach b.flash config = .ok store ∧
      ∀ log s, Run (Step Keeps) ⟨store, b⟩ log s →
        replay b.flash.memory (trail log) = .ok s.board.flash.memory ∧
        ∀ done, done <+: trail log → ∃ left record,
          Left b.flash.memory config store.record done left record ∧
          (record = .empty ∨ Saved store.record log record) := by
  obtain ⟨record, hleft⟩ := left_initial hfits
  refine ⟨_, hleft.opens, fun log s hrun => ?_⟩
  have hsafe := hrun.invariant (safe_opened hleft) safe_step
  exact ⟨hsafe.replay, hsafe.cuts⟩

/-- A board whose programs fail from now on. -/
def failing (b : Board FaultyFlash) : Board FaultyFlash :=
  { b with flash := { b.flash with programFails := true } }

lemma keeps_failing (b : Board FaultyFlash) : Keeps b (failing b) := rfl

/-- A board with a blank sector. -/
def blankBoard : Board FaultyFlash := .new (.new (.new Flash.sectorSize))

/-- Every tick writes. -/
def eachTick : Store.Config := ⟨0, 2000, 0⟩

lemma attach_faulty (d : FaultyFlash) : Store.attach d config = Store.attach d.memory config := rfl

lemma attach_blankBoard :
    Store.attach blankBoard.flash eachTick = .ok ⟨eachTick, .empty, false, none, 0⟩ := by
  have hmemory : blankBoard.flash.memory = .new Flash.sectorSize := rfl
  rw [attach_faulty, hmemory]
  exact attach_new (by decide)

/-- The second program fails. A cut after the first one leaves its record, and a cut at the end
leaves none. -/
theorem crash_leaves_saved_torn :
    ∃ log s, Run (Step Keeps) ⟨⟨eachTick, .empty, false, none, 0⟩, blankBoard⟩ log s ∧
      trail log = [.erase 0, .program 0 StoreRuns.seven.toPage, .erase 0] ∧
      (∃ left, Left blankBoard.flash.memory eachTick .empty
        [.erase 0, .program 0 StoreRuns.seven.toPage] left StoreRuns.seven) ∧
      (∃ left, Left blankBoard.flash.memory eachTick .empty (trail log) left .empty) := by
  have hfits : eachTick.offset + Flash.pageSize ≤ blankBoard.flash.memory.image.length := by
    change _ ≤ (List.replicate Flash.sectorSize Flash.erased).length
    rw [List.length_replicate]
    decide
  obtain ⟨store, hopen, hcrash⟩ := crash_leaves_saved hfits
  obtain rfl := Except.ok.inj (hopen.symm.trans attach_blankBoard)
  obtain ⟨log, s, hrun, htrail⟩ : ∃ log s,
      Run (Step Keeps) ⟨⟨eachTick, .empty, false, none, 0⟩, blankBoard⟩ log s ∧
      trail log = [.erase 0, .program 0 StoreRuns.seven.toPage, .erase 0] := by
    have h0 : Run (Step Keeps) ⟨⟨eachTick, .empty, false, none, 0⟩, blankBoard⟩ [] _ := .nil
    have h1 := (h0.snoc (.update StoreRuns.seven)).snoc (.tick 0)
    have h2 := (h1.snoc (.change _ (keeps_failing _))).snoc (.update StoreRuns.eight)
    exact ⟨_, _, h2.snoc (.tick 0), by decide +kernel⟩
  obtain ⟨-, hcuts⟩ := hcrash log s hrun
  rw [htrail] at hcuts
  have hwritten : [.erase 0, .program 0 StoreRuns.seven.toPage] <+:
      [.erase 0, .program 0 StoreRuns.seven.toPage, Access.erase 0] := List.prefix_append _ [_]
  refine ⟨log, s, hrun, htrail, ?_, ?_⟩
  · obtain ⟨left, record, hleft, -⟩ := hcuts _ hwritten
    have hfound : Found .empty ([.erase 0] ++ [.program 0 _]) record := hleft.found
    obtain rfl := hfound.eq_of_program
    exact ⟨left, hleft⟩
  · rw [htrail]
    obtain ⟨left, record, hleft, -⟩ := hcuts _ List.prefix_rfl
    have hfound : Found .empty ([.erase 0, .program 0 _] ++ [.erase 0]) record := hleft.found
    obtain rfl := hfound.eq_of_erase
    exact ⟨left, hleft⟩

end HomeHub.StoreCalls
