import Mathlib.Data.List.DropRight
import HomeHub.Proofs.DeviceRuns

/-!
What the cells of a flash device in memory hold after any sequence of calls.

A cell holds what all programs over it since its last erase have in common, starting from ones or,
if it was never erased, from what it held at first. A call acts on each cell by itself, and only if
it succeeds; whether it does depends on the size of the image alone, which never changes.
-/

namespace HomeHub

namespace Flash

/-! ### Images cell by cell -/

/-- The byte of a page that lies over a cell when the page is put at an offset. -/
def over? (p : Page) (offset i : Nat) : Option UInt8 :=
  if offset ≤ i then p.bytes[i - offset]? else none

lemma over?_eq_some {p : Page} {offset i : Nat} {x : UInt8} (h : over? p offset i = some x) :
    offset ≤ i ∧ i < offset + pageSize := by
  have hpage := p.length_bytes
  unfold over? at h
  split at h
  · have := (List.getElem?_eq_some_iff.mp h).1
    omega
  · cases h

section

variable {image data : Bytes} {offset : Nat}

lemma getElem?_patch_within {i : Nat} (h : offset ≤ image.length) (hi : offset ≤ i)
    (hdata : i < offset + data.length) : (patch image offset data)[i]? = data[i - offset]? := by
  have hlen : (image.take offset).length = offset := List.length_take_of_le h
  rw [patch, List.append_assoc, List.getElem?_append_right (by omega), hlen,
    List.getElem?_append_left (by omega)]

lemma getElem?_wiped (h : offset + sectorSize ≤ image.length) (i : Nat) :
    (wiped image offset)[i]? =
      if offset ≤ i ∧ i < offset + sectorSize then some erased else image[i]? := by
  have hlen : (List.replicate sectorSize erased).length = sectorSize := List.length_replicate
  split
  · rename_i hi
    rw [wiped, getElem?_patch_within (by omega) hi.1 (by omega),
      List.getElem?_replicate_of_lt (by omega)]
  · rename_i hi
    exact getElem?_patch (by omega) (by omega)

lemma getElem?_stamped (p : Page) (h : offset + pageSize ≤ image.length) (i : Nat) :
    (stamped image offset p)[i]? = image[i]?.map fun b => (over? p offset i).elim b (b &&& ·) := by
  have hcells := length_clearBits p h
  have hpage := p.length_bytes
  by_cases hi : offset ≤ i ∧ i < offset + pageSize
  · have hslice : (slice image offset pageSize)[i - offset]? = image[i]? := by
      rw [slice, List.getElem?_take_of_lt (by omega), List.getElem?_drop,
        Nat.add_sub_cancel' hi.1]
    have hbyte : i - offset < p.bytes.length := by omega
    rw [stamped, getElem?_patch_within (by omega) hi.1 (by omega), clearBits,
      List.getElem?_zipWith, hslice, over?, if_pos hi.1, List.getElem?_eq_getElem hbyte]
    cases image[i]? <;> rfl
  · have hover : over? p offset i = none := by
      rw [over?]
      split
      · exact List.getElem?_eq_none (by omega)
      · rfl
    rw [stamped, getElem?_patch (by omega) (by omega), hover]
    simp

end

end Flash

namespace FlashCells

open DeviceRuns (Request serve changed)

/-! ### Calls -/

/-- A request to a device, and what came of it. -/
structure Call where
  request : Request
  answer : Except FlashFault Bytes

inductive Step (d : MemoryFlash) : Call → MemoryFlash → Prop
  | make (r : Request) : Step d ⟨r, (serve id d r).answer⟩ (serve id d r).device

namespace Call

/-- Whether a sector was erased. -/
def isErase : Call → Bool
  | ⟨.erase _, .ok _⟩ => true
  | _ => false

/-- Whether a page was programmed. -/
def isProgram : Call → Bool
  | ⟨.program _ _, .ok _⟩ => true
  | _ => false

/-- Whether a sector was erased that a cell is in. -/
def erases (i : Nat) : Call → Bool
  | ⟨.erase offset, .ok _⟩ => offset ≤ i && i < offset + Flash.sectorSize
  | _ => false

/-- The byte that was programmed over a cell. -/
def programmed? (i : Nat) : Call → Option UInt8
  | ⟨.program offset page, .ok _⟩ => Flash.over? page offset i
  | _ => none

/-- What a cell holds after a call. -/
def cell (c : Call) (i : Nat) (b : UInt8) : UInt8 :=
  if c.erases i then Flash.erased else (c.programmed? i).elim b (b &&& ·)

end Call

/-! ### What a log tells -/

/-- The bytes programmed over a cell since it was last erased. -/
def since (i : Nat) (log : List Call) : List UInt8 :=
  (log.rtakeWhile fun c => !c.erases i).filterMap (Call.programmed? i)

/-- What a cell holds that held `b` at first. -/
def settled (i : Nat) (log : List Call) (b : UInt8) : UInt8 :=
  (since i log).foldl (· &&& ·) (if log.any (Call.erases i) then Flash.erased else b)

variable {m d e : MemoryFlash} {log : List Call} {c : Call} {i : Nat} {b x : UInt8}

lemma settled_snoc (i : Nat) (log : List Call) (c : Call) (b : UInt8) :
    settled i (log ++ [c]) b = c.cell i (settled i log b) := by
  unfold settled since Call.cell
  by_cases h : c.erases i = true
  · rw [List.rtakeWhile_concat_neg _ _ _ (by simp [h]), List.any_append]
    simp [h]
  · rw [List.rtakeWhile_concat_pos _ _ _ (by simp [h]), List.any_append]
    rcases hp : c.programmed? i with _ | x <;> simp [h, hp, List.filterMap_append]

lemma foldl_and (xs : List UInt8) (b x : UInt8) :
    xs.foldl (· &&& ·) (b &&& x) = xs.foldl (· &&& ·) b &&& x := by
  induction xs generalizing b with
  | nil => rfl
  | cons y xs ih =>
    rw [List.foldl_cons, List.foldl_cons, UInt8.and_assoc, UInt8.and_comm x y,
      ← UInt8.and_assoc, ih]

lemma settled_and (h : ∀ c ∈ log, c.erases i = false) :
    settled i log b &&& b = settled i log b := by
  have hany : log.any (Call.erases i) = false := by simpa using h
  rw [settled, hany, if_neg Bool.false_ne_true, ← foldl_and, UInt8.and_self]

/-- A byte that has been programmed since the last erase is of no more effect. -/
lemma settled_and_of_mem (h : x ∈ since i log) : settled i log b &&& x = settled i log b := by
  obtain ⟨front, back, hsince⟩ := List.append_of_mem h
  rw [settled, hsince, List.foldl_append, List.foldl_cons, ← foldl_and, UInt8.and_assoc,
    UInt8.and_self]

lemma mem_since {front back : List Call} (hc : c.programmed? i = some x)
    (hback : ∀ a ∈ c :: back, a.erases i = false) : x ∈ since i (front ++ c :: back) := by
  induction back using List.reverseRecOn with
  | nil =>
    rw [since, List.rtakeWhile_concat_pos _ _ _ (by simp [hback]), List.filterMap_append]
    simp [hc]
  | append_singleton back a ih =>
    have ha : a.erases i = false := hback a (by simp)
    have hx := ih fun a' ha' => hback a' (by simp at ha' ⊢; tauto)
    rw [← List.cons_append, ← List.append_assoc, since,
      List.rtakeWhile_concat_pos _ _ _ (by simp [ha]), List.filterMap_append]
    exact List.mem_append_left _ hx

/-! ### What a call can do -/

/-- Why a device of this size refuses a request. -/
inductive Refused (size : Nat) : Request → FlashFault → Prop
  | read {offset length : Nat} : size < offset + length →
      Refused size (.read offset length) (.outOfRange offset length size)
  | misalignedErase {offset : Nat} : offset % Flash.sectorSize ≠ 0 →
      Refused size (.erase offset) (.misaligned .erase offset Flash.sectorSize)
  | erase {offset : Nat} : offset % Flash.sectorSize = 0 → size < offset + Flash.sectorSize →
      Refused size (.erase offset) (.outOfRange offset Flash.sectorSize size)
  | misalignedProgram {offset : Nat} {page : Page} : offset % Flash.pageSize ≠ 0 →
      Refused size (.program offset page) (.misaligned .program offset Flash.pageSize)
  | program {offset : Nat} {page : Page} : offset % Flash.pageSize = 0 →
      size < offset + Flash.pageSize →
      Refused size (.program offset page) (.outOfRange offset Flash.pageSize size)

lemma Refused.unique {size : Nat} {r : Request} {why why' : FlashFault} (h : Refused size r why)
    (h' : Refused size r why') : why = why' := by
  cases h with
  | read => cases h'; rfl
  | misalignedErase h =>
    cases h' with
    | misalignedErase => rfl
    | erase halign => exact absurd halign h
  | erase h =>
    cases h' with
    | misalignedErase halign => exact absurd h halign
    | erase => rfl
  | misalignedProgram h =>
    cases h' with
    | misalignedProgram => rfl
    | program halign => exact absurd halign h
  | program h =>
    cases h' with
    | misalignedProgram halign => exact absurd h halign
    | program => rfl

/-- All that a call can do. -/
inductive Does (d : MemoryFlash) : Call → MemoryFlash → Prop
  | refuse {r : Request} {why : FlashFault} : Refused d.image.length r why →
      Does d ⟨r, .error why⟩ d
  | read {offset length : Nat} : offset + length ≤ d.image.length →
      Does d ⟨.read offset length, .ok (Flash.slice d.image offset length)⟩ d
  | erase {offset : Nat} : offset % Flash.sectorSize = 0 →
      offset + Flash.sectorSize ≤ d.image.length → Does d ⟨.erase offset, .ok []⟩
        { d with image := Flash.wiped d.image offset, erases := d.erases + 1 }
  | program {offset : Nat} {page : Page} : offset % Flash.pageSize = 0 →
      offset + Flash.pageSize ≤ d.image.length → Does d ⟨.program offset page, .ok []⟩
        { d with image := Flash.stamped d.image offset page, programs := d.programs + 1 }
  | reopen : Does d ⟨.reopen, .ok []⟩ d

lemma does_serve (d : MemoryFlash) (r : Request) :
    Does d ⟨r, (serve id d r).answer⟩ (serve id d r).device := by
  cases r with
  | read offset length =>
    by_cases hfits : offset + length ≤ d.image.length
    · have hread : (serve id d (.read offset length)).answer =
          .ok (Flash.slice d.image offset length) := MemoryFlash.read_eq hfits
      rw [hread]
      exact .read hfits
    · have hread : (serve id d (.read offset length)).answer =
          .error (.outOfRange offset length d.image.length) := by
        simp [serve, Flash.read, MemoryFlash.read, Flash.checkBounds, hfits, bind, Except.bind]
      rw [hread]
      exact .refuse (.read (Nat.lt_of_not_le hfits))
  | erase offset =>
    rcases Flash.guarded_cases .erase offset Flash.sectorSize Flash.sectorSize d.image.length
      { d with image := Flash.wiped d.image offset, erases := d.erases + 1 } with
      ⟨halign, h⟩ | ⟨halign, hfits, h⟩ | ⟨halign, hfits, h⟩
    · have hserve : serve id d (.erase offset) = ⟨.error _, d⟩ := congrArg (changed d) h
      rw [hserve]
      exact .refuse (.misalignedErase halign)
    · have hserve : serve id d (.erase offset) = ⟨.error _, d⟩ := congrArg (changed d) h
      rw [hserve]
      exact .refuse (.erase halign hfits)
    · have hserve : serve id d (.erase offset) = ⟨.ok [], _⟩ := congrArg (changed d) h
      rw [hserve]
      exact .erase halign hfits
  | program offset page =>
    rcases Flash.guarded_cases .program offset Flash.pageSize Flash.pageSize d.image.length
      { d with image := Flash.stamped d.image offset page, programs := d.programs + 1 } with
      ⟨halign, h⟩ | ⟨halign, hfits, h⟩ | ⟨halign, hfits, h⟩
    · have hserve : serve id d (.program offset page) = ⟨.error _, d⟩ := congrArg (changed d) h
      rw [hserve]
      exact .refuse (.misalignedProgram halign)
    · have hserve : serve id d (.program offset page) = ⟨.error _, d⟩ := congrArg (changed d) h
      rw [hserve]
      exact .refuse (.program halign hfits)
    · have hserve : serve id d (.program offset page) = ⟨.ok [], _⟩ := congrArg (changed d) h
      rw [hserve]
      exact .program halign hfits
  | reopen => exact .reopen

lemma does_of_step (h : Step d c e) : Does d c e := by
  cases h with
  | make r => exact does_serve d r

namespace Does

lemma length_eq (h : Does d c e) : e.image.length = d.image.length := by
  cases h with
  | refuse | read | reopen => rfl
  | erase _ hfits => exact Flash.length_wiped hfits
  | program _ hfits => exact Flash.length_stamped hfits

lemma getElem?_eq (h : Does d c e) (i : Nat) : e.image[i]? = d.image[i]?.map (c.cell i) := by
  have hsame {a : Call} (herases : a.erases i = false) (hprogrammed : a.programmed? i = none) :
      d.image[i]? = d.image[i]?.map (a.cell i) := by
    have hcell : a.cell i = id := by
      funext b
      simp [Call.cell, herases, hprogrammed]
    rw [hcell, Option.map_id, id]
  cases h with
  | @refuse r why _ => cases r <;> exact hsame rfl rfl
  | read | reopen => exact hsame rfl rfl
  | @erase offset halign hfits =>
    rw [Flash.getElem?_wiped hfits]
    split
    · rename_i hi
      rw [List.getElem?_eq_getElem (by omega), Option.map_some, Call.cell, if_pos]
      simpa [Call.erases] using hi
    · rename_i hi
      refine hsame ?_ rfl
      simp only [Call.erases]
      simp at hi ⊢
      exact hi
  | program halign hfits => exact Flash.getElem?_stamped _ hfits i

lemma answer_eq_error_iff {why : FlashFault} (h : Does d c e) :
    c.answer = .error why ↔ Refused d.image.length c.request why := by
  constructor
  · intro hwhy
    cases h with
    | refuse hrefused => cases hwhy; exact hrefused
    | read | erase | program | reopen => cases hwhy
  · intro hrefused
    cases h with
    | refuse h' => rw [hrefused.unique h']
    | read hfits =>
      cases hrefused with
      | read h => exact absurd hfits (Nat.not_le_of_lt h)
    | erase halign hfits =>
      cases hrefused with
      | misalignedErase h => exact absurd halign h
      | erase _ h => exact absurd hfits (Nat.not_le_of_lt h)
    | program halign hfits =>
      cases hrefused with
      | misalignedProgram h => exact absurd halign h
      | program _ h => exact absurd hfits (Nat.not_le_of_lt h)
    | reopen => cases hrefused

lemma eq_of_error {why : FlashFault} (h : Does d c e) (hwhy : c.answer = .error why) : e = d := by
  cases h with
  | refuse | read | reopen => rfl
  | erase | program => cases hwhy

lemma counted (h : Does d c e) : e.erases = d.erases + c.isErase.toNat ∧
    e.programs = d.programs + c.isProgram.toNat := by
  cases h with
  | @refuse r why _ => cases r <;> exact ⟨rfl, rfl⟩
  | read | erase | program | reopen => exact ⟨rfl, rfl⟩

end Does

lemma step_of_does (h : Does d c e) : Step d c e := by
  cases h with
  | @refuse r why hrefused =>
    have hserve := does_serve d r
    have hwhy : (serve id d r).answer = .error why := hserve.answer_eq_error_iff.mpr hrefused
    have hstep := Step.make (d := d) r
    rwa [hserve.eq_of_error hwhy, hwhy] at hstep
  | @read offset length hfits =>
    have hread : (serve id d (.read offset length)).answer = .ok _ := MemoryFlash.read_eq hfits
    have hstep := Step.make (d := d) (.read offset length)
    rwa [hread] at hstep
  | @erase offset halign hfits =>
    have hserve : serve id d (.erase offset) = ⟨.ok [], _⟩ :=
      congrArg (changed d) (MemoryFlash.erase_eq halign hfits)
    have hstep := Step.make (d := d) (.erase offset)
    rwa [hserve] at hstep
  | @program offset page halign hfits =>
    have hserve : serve id d (.program offset page) = ⟨.ok [], _⟩ :=
      congrArg (changed d) (MemoryFlash.program_eq_ok_iff.mpr ⟨halign, hfits, rfl⟩)
    have hstep := Step.make (d := d) (.program offset page)
    rwa [hserve] at hstep
  | reopen => exact .make .reopen

/-! ### The result -/

/-- What is to be said of a device after a run. -/
structure Nor (m : MemoryFlash) (log : List Call) (d : MemoryFlash) : Prop where
  /-- Every cell holds what the programs since its last erase have left. -/
  cells : ∀ i, d.image[i]? = m.image[i]?.map (settled i log)
  /-- Without an erase a cell only loses bits. -/
  cleared : ∀ i b b', (∀ c ∈ log, c.erases i = false) → m.image[i]? = some b →
    d.image[i]? = some b' → b' &&& b = b'
  /-- Without an erase a page that has been programmed can be programmed again, which changes no
  cell. -/
  repeated : ∀ front offset page bytes back,
    log = front ++ ⟨.program offset page, .ok bytes⟩ :: back →
    (∀ i, offset ≤ i → i < offset + Flash.pageSize → ∀ c ∈ back, c.erases i = false) →
    ∃ e, d.program offset page = .ok e ∧ e.image = d.image
  /-- Where a sector has been erased a page can be programmed. -/
  writable : ∀ offset bytes, ⟨.erase offset, .ok bytes⟩ ∈ log →
    ∀ page, ∃ e, d.program offset page = .ok e
  erases : d.erases = m.erases + log.countP Call.isErase
  programs : d.programs = m.programs + log.countP Call.isProgram
  refused : ∀ c e why, Step d c e →
    (c.answer = .error why ↔ Refused m.image.length c.request why)
  unchanged : ∀ c e why, Step d c e → c.answer = .error why → e = d
  counted : ∀ c e, Step d c e → e.erases = d.erases + c.isErase.toNat ∧
    e.programs = d.programs + c.isProgram.toNat

lemma length_of_run (hrun : Run Step m log d) : d.image.length = m.image.length :=
  hrun.unchanged (f := fun d : MemoryFlash => d.image.length) fun h => (does_of_step h).length_eq

lemma exists_does_of_run (hrun : Run Step m log d) (hc : c ∈ log) :
    ∃ d' e', Does d' c e' ∧ d'.image.length = m.image.length := by
  induction hrun with
  | nil => cases hc
  | snoc hrun hstep ih =>
    rcases List.mem_append.mp hc with hc | hc
    · exact ih hc
    · obtain rfl := List.mem_singleton.mp hc
      exact ⟨_, _, does_of_step hstep, length_of_run hrun⟩

lemma cells_of_run (hrun : Run Step m log d) (i : Nat) :
    d.image[i]? = m.image[i]?.map (settled i log) := by
  induction hrun with
  | nil =>
    have hnil : settled i [] = id := by
      funext b
      rfl
    rw [hnil, Option.map_id, id]
  | @snoc log d e c _ hstep ih =>
    have hcell : settled i (log ++ [c]) = c.cell i ∘ settled i log :=
      funext fun b => settled_snoc i log c b
    rw [(does_of_step hstep).getElem?_eq, ih, Option.map_map, hcell]

lemma counted_of_run (hrun : Run Step m log d) : d.erases = m.erases + log.countP Call.isErase ∧
    d.programs = m.programs + log.countP Call.isProgram := by
  induction hrun with
  | nil => exact ⟨rfl, rfl⟩
  | @snoc log d e c _ hstep ih =>
    have hcounted := (does_of_step hstep).counted
    have hcount (p : Call → Bool) : (log ++ [c]).countP p = log.countP p + (p c).toNat := by
      rw [List.countP_append, List.countP_singleton]
      cases p c <;> rfl
    rw [hcount, hcount, hcounted.1, hcounted.2, ih.1, ih.2, Nat.add_assoc, Nat.add_assoc]
    exact ⟨rfl, rfl⟩

lemma program_of_run {offset : Nat} {page : Page} {bytes : Bytes} (hrun : Run Step m log d)
    (hc : ⟨.program offset page, .ok bytes⟩ ∈ log) :
    offset % Flash.pageSize = 0 ∧ offset + Flash.pageSize ≤ d.image.length := by
  obtain ⟨d', e', hdoes, hsize⟩ := exists_does_of_run hrun hc
  rw [length_of_run hrun, ← hsize]
  cases hdoes with
  | program halign hfits => exact ⟨halign, hfits⟩

lemma erase_of_run {offset : Nat} {bytes : Bytes} (hrun : Run Step m log d)
    (hc : ⟨.erase offset, .ok bytes⟩ ∈ log) :
    offset % Flash.sectorSize = 0 ∧ offset + Flash.sectorSize ≤ d.image.length := by
  obtain ⟨d', e', hdoes, hsize⟩ := exists_does_of_run hrun hc
  rw [length_of_run hrun, ← hsize]
  cases hdoes with
  | erase halign hfits => exact ⟨halign, hfits⟩

/-- The cells under a page hold nothing that is not in a page programmed there before. -/
lemma stamped_of_run {front back : List Call} {offset : Nat} {page : Page} {bytes : Bytes}
    (hrun : Run Step m (front ++ ⟨.program offset page, .ok bytes⟩ :: back) d)
    (hback : ∀ i, offset ≤ i → i < offset + Flash.pageSize → ∀ c ∈ back, c.erases i = false) :
    Flash.stamped d.image offset page = d.image := by
  have hmem : ⟨.program offset page, .ok bytes⟩ ∈
      front ++ ⟨.program offset page, .ok bytes⟩ :: back :=
    List.mem_append_right _ List.mem_cons_self
  obtain ⟨-, hfits⟩ := program_of_run hrun hmem
  refine List.ext_getElem? fun i => ?_
  rw [Flash.getElem?_stamped page hfits, cells_of_run hrun, Option.map_map]
  refine congrArg (Option.map · _) (funext fun b => ?_)
  rcases hover : Flash.over? page offset i with _ | x
  · rfl
  · have hi : offset ≤ i ∧ i < offset + Flash.pageSize := Flash.over?_eq_some hover
    refine settled_and_of_mem (mem_since hover fun c hc => ?_)
    rcases List.mem_cons.mp hc with rfl | hc
    · rfl
    · exact hback i hi.1 hi.2 c hc

/-- **Programs only clear bits, and only erases set them.** After any calls a cell holds what all
programs over it since its last erase have in common. A call that is refused changes nothing, and it
is refused only where it is misaligned or does not fit. -/
theorem nor_of_run (hrun : Run Step m log d) : Nor m log d := by
  have hcells := cells_of_run hrun
  obtain ⟨herases, hprograms⟩ := counted_of_run hrun
  refine ⟨hcells, ?_, ?_, ?_, herases, hprograms, ?_, ?_, ?_⟩
  · intro i b b' hlog hb hb'
    rw [hcells, hb, Option.map_some] at hb'
    obtain rfl := Option.some.inj hb'
    exact settled_and hlog
  · rintro front offset page bytes back rfl hback
    obtain ⟨halign, hfits⟩ := program_of_run hrun (List.mem_append_right _ List.mem_cons_self)
    exact ⟨_, MemoryFlash.program_eq_ok_iff.mpr ⟨halign, hfits, rfl⟩, stamped_of_run hrun hback⟩
  · intro offset bytes hmem page
    obtain ⟨halign, hfits⟩ := erase_of_run hrun hmem
    have hpage : Flash.pageSize ≤ Flash.sectorSize := by decide
    exact ⟨_, MemoryFlash.program_eq_ok_iff.mpr ⟨Flash.mod_pageSize halign, by omega, rfl⟩⟩
  · intro c e why hstep
    rw [← length_of_run hrun]
    exact (does_of_step hstep).answer_eq_error_iff
  · intro c e why hstep
    exact (does_of_step hstep).eq_of_error
  · intro c e hstep
    exact (does_of_step hstep).counted

/-- A page of the same byte all over. -/
def plain (b : UInt8) : Page := ⟨List.replicate Flash.pageSize b, List.length_replicate⟩

/-- The calls to a device of one sector: it is erased, and programmed twice, with a program in
between that is refused. -/
def worn : List Call :=
  [⟨.erase 0, .ok []⟩, ⟨.program 0 (plain 0xF0), .ok []⟩,
    ⟨.program 7 (plain 0), .error (.misaligned .program 7 Flash.pageSize)⟩,
    ⟨.program 0 (plain 0x3C), .ok []⟩]

theorem nor_of_run_worn : ∃ d, Run Step (.new Flash.sectorSize) worn d ∧
    Nor (.new Flash.sectorSize) worn d ∧ d.image[0]? = some 0x30 := by
  have hnew : (MemoryFlash.new Flash.sectorSize).image.length = Flash.sectorSize :=
    List.length_replicate
  have herase : Run Step (.new Flash.sectorSize) (worn.take 1) _ :=
    Run.nil.snoc (step_of_does (.erase rfl (Nat.le_of_eq hnew.symm)))
  have hfirst : Run Step (.new Flash.sectorSize) (worn.take 2) _ :=
    herase.snoc (step_of_does (.program rfl (by rw [length_of_run herase, hnew]; decide)))
  have hrefused : Run Step (.new Flash.sectorSize) (worn.take 3) _ :=
    hfirst.snoc (step_of_does (.refuse (.misalignedProgram (by decide))))
  have hworn : Run Step (.new Flash.sectorSize) worn _ :=
    hrefused.snoc (step_of_does (.program rfl (by rw [length_of_run hrefused, hnew]; decide)))
  have hnor := nor_of_run hworn
  refine ⟨_, hworn, hnor, ?_⟩
  rw [hnor.cells]
  decide +kernel

end FlashCells

end HomeHub
