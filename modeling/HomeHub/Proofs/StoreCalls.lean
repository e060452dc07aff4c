import HomeHub.Proofs.StoreRuns

/-!
A store that is called as a whole: updates, requests and ticks come one after the other, and in
between anything may happen to the board under it.

A device that keeps a trace tells which operations a tick carries out. It does what the device in it
does, so the trace of a tick is there for any device. What a tick can do is said once, in `Turn`.
-/

namespace HomeHub

open Store (Tick WriteResult flashRecord)

/-! ### Traces -/

deriving instance DecidableEq for Page

namespace Flash

/-- An operation that a device has carried out. -/
inductive Access
  | erase (offset : Nat)
  | program (offset : Nat) (page : Page)
  deriving DecidableEq

end Flash

open Flash (Access)

structure TracedFlash (δ : Type) where
  device : δ
  /-- What the device has carried out, first to last. -/
  trace : List Access

variable {δ : Type} [Flash δ]

instance : Flash (TracedFlash δ) where
  read t := Flash.read t.device
  erase t offset :=
    (Flash.erase t.device offset).map fun device => ⟨device, t.trace ++ [.erase offset]⟩
  program t offset page :=
    (Flash.program t.device offset page).map fun device =>
      ⟨device, t.trace ++ [.program offset page]⟩

/-- How a write ends, what it makes of the device and what it carries out there. -/
inductive Store.Wrote (d : δ) (offset : Nat) (record : Record) :
    WriteResult → δ → List Access → Prop
  /-- The secondary core does not halt. -/
  | notHalted : Wrote d offset record .notHalted d []
  /-- The erase fails. -/
  | refused {why : FlashFault} : Flash.erase d offset = .error why →
      Wrote d offset record (.failed why) d []
  /-- The program fails after the erase. -/
  | torn {e : δ} {why : FlashFault} : Flash.erase d offset = .ok e →
      Flash.program e offset record.toPage = .error why →
      Wrote d offset record (.failed why) e [.erase offset]
  | written {e f : δ} : Flash.erase d offset = .ok e →
      Flash.program e offset record.toPage = .ok f →
      Wrote d offset record .written f [.erase offset, .program offset record.toPage]

namespace Board

/-- The board with a device that keeps a trace from now on. -/
def traced (b : Board δ) : Board (TracedFlash δ) := ⟨b.cores, b.interrupts, ⟨b.flash, []⟩⟩

/-- What a tick carries out on the device. -/
def accesses (b : Board δ) (s : Store) (now : Time) : List Access :=
  (b.traced.tick s now).2.2.flash.trace

end Board

namespace StoreCalls

lemma erase_traced (t : TracedFlash δ) (offset : Nat) : Flash.erase t offset =
    (Flash.erase t.device offset).map fun device => ⟨device, t.trace ++ [.erase offset]⟩ := rfl

lemma program_traced (t : TracedFlash δ) (offset : Nat) (page : Page) :
    Flash.program t offset page = (Flash.program t.device offset page).map fun device =>
      ⟨device, t.trace ++ [.program offset page]⟩ := rfl

lemma exists_flashed (d : δ) (offset : Nat) (record : Record) :
    ∃ result e trace, Store.Wrote d offset record result e trace ∧
      flashRecord d offset record = (result, e) ∧
      flashRecord (⟨d, []⟩ : TracedFlash δ) offset record = (result, ⟨e, trace⟩) := by
  simp only [flashRecord, erase_traced]
  rcases he : Flash.erase d offset with why | e
  · exact ⟨_, _, _, .refused he, rfl, rfl⟩
  · simp only [Except.map, program_traced]
    rcases hf : Flash.program e offset record.toPage with why | f
    · exact ⟨_, _, _, .torn he hf, rfl, rfl⟩
    · exact ⟨_, _, _, .written he hf, rfl, rfl⟩

lemma exists_wrote (b : Board δ) (timeout offset : Nat) (record : Record) :
    ∃ result c trace, Store.Wrote b.flash offset record result c.flash trace ∧
      b.write timeout offset record = (result, c) ∧
      (b.traced.write timeout offset record).1 = result ∧
      (b.traced.write timeout offset record).2.flash.trace = trace := by
  simp only [Board.write, Board.traced]
  rcases b.cores.pause timeout with ⟨_ | _, cores⟩
  · exact ⟨_, { b with cores }, _, .notHalted, rfl, rfl, rfl⟩
  · obtain ⟨result, e, trace, hwrote, hplain, htraced⟩ := exists_flashed b.flash offset record
    simp only [hplain, htraced]
    exact ⟨result, ⟨_, _, e⟩, trace, hwrote, rfl, rfl, rfl⟩

/-! ### Opening -/

/-- A page of erased bytes. -/
def blankPage : Page := ⟨List.replicate Flash.pageSize Flash.erased, List.length_replicate⟩

lemma loaded_blankPage : Store.loaded blankPage = Record.empty := by
  have hall : blankPage.bytes.all (· == Flash.erased) = true := by
    rw [blankPage, List.all_replicate]
    rfl
  rw [Store.loaded, Record.ofPage, if_pos hall]

lemma attach_memory {m : MemoryFlash} {config : Store.Config} {p : Page}
    (hfits : config.offset + Flash.pageSize ≤ m.image.length)
    (hp : Flash.slice m.image config.offset Flash.pageSize = p.bytes) :
    Store.attach m config = .ok ⟨config, Store.loaded p, false, none, 0⟩ := by
  have hread : Store.readPage m config.offset = .ok p :=
    Store.readPage_eq_ok.mpr ((MemoryFlash.read_eq hfits).trans (congrArg _ hp))
  rw [Store.attach, hread]

lemma attach_new {size : Nat} {config : Store.Config}
    (hfits : config.offset + Flash.pageSize ≤ size) :
    Store.attach (MemoryFlash.new size) config = .ok ⟨config, Record.empty, false, none, 0⟩ := by
  have hlen : (MemoryFlash.new size).image.length = size := List.length_replicate
  have hpage : Flash.slice (MemoryFlash.new size).image config.offset Flash.pageSize =
      blankPage.bytes := by
    rw [Flash.slice, MemoryFlash.new, List.drop_replicate, List.take_replicate,
      Nat.min_eq_left (by omega)]
    rfl
  rw [attach_memory (by rwa [hlen]) hpage, loaded_blankPage]

/-! ### Ticks -/

/-- A store that is about to write. -/
def attempting (s : Store) (now : Time) : Store := { s with lastWrite := some now, dirty := false }

/-- All that a tick can do: what it comes to, the store and the board after it, and what it carries
out on the device. -/
inductive Turn (b : Board δ) (s : Store) (now : Time) :
    Tick → Store → Board δ → List Access → Prop
  | clean : s.dirty = false → Turn b s now .clean s b []
  | deferred : s.dirty = true → s.isLimited now = true → Turn b s now .deferred s b []
  | attempt {result : WriteResult} {c : Board δ} {trace : List Access} : s.dirty = true →
      s.isLimited now = false →
      Store.Wrote b.flash s.config.offset s.record result c.flash trace →
      Turn b s now ((attempting s now).finish result).1 ((attempting s now).finish result).2 c trace

lemma turn_tick (b : Board δ) (s : Store) (now : Time) :
    Turn b s now (b.tick s now).1 (b.tick s now).2.1 (b.tick s now).2.2 (b.accesses s now) := by
  simp only [Board.accesses, Board.tick, Store.tick, Store.start]
  rcases hd : s.dirty with _ | _
  · exact .clean hd
  · rcases hl : s.isLimited now with _ | _
    · obtain ⟨result, c, trace, hwrote, hplain, hresult, htrace⟩ :=
        exists_wrote b s.config.lockoutTimeout s.config.offset s.record
      simp only [hplain, htrace, Bool.not_true, Bool.false_eq_true, if_false]
      exact .attempt hd hl hwrote
    · exact .deferred hd hl

/-! ### Runs -/

/-- A store and the board that it writes with. -/
structure St (δ : Type) where
  store : Store
  board : Board δ

inductive Event
  | updated (record : Record)
  | requested
  /-- A tick, and what it has carried out on the device. -/
  | ticked (now : Time) (outcome : Tick) (accesses : List Access)
  | silent

/-- Something is asked of the store. -/
def Event.Asks : Event → Prop
  | .updated _ => True
  | .requested => True
  | _ => False

/-- A tick and what is seen of it. -/
def ticked (s : St δ) (now : Time) : Event × St δ :=
  (.ticked now (s.board.tick s.store now).1 (s.board.accesses s.store now),
    ⟨(s.board.tick s.store now).2.1, (s.board.tick s.store now).2.2⟩)

theorem exists_turn (s : St δ) (now : Time) : ∃ outcome store board accesses,
    ticked s now = (.ticked now outcome accesses, ⟨store, board⟩) ∧
      Turn s.board s.store now outcome store board accesses :=
  ⟨_, _, _, _, rfl, turn_tick s.board s.store now⟩

/-- One call, or a change of the board between two calls; `may` says which changes there are. -/
inductive Step (may : Board δ → Board δ → Prop) : St δ → Event → St δ → Prop
  | update {s : St δ} (record : Record) :
      Step may s (.updated record) { s with store := s.store.update record }
  | requestWrite {s : St δ} : Step may s .requested { s with store := s.store.requestWrite }
  | tick {s : St δ} (now : Time) : Step may s (ticked s now).1 (ticked s now).2
  | change {s : St δ} (board : Board δ) : may s.board board → Step may s .silent { s with board }

end StoreCalls

end HomeHub
