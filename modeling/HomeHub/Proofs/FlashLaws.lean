import HomeHub.Flash.Faulty
import HomeHub.Flash.File
import HomeHub.Proofs.Checks
import HomeHub.Store

/-!
What a store may rely on in a flash device: a page programmed into an erased sector is read back
as it was, since clearing bits of ones leaves the bits that are written. The devices in memory and
in a file have this property alike.
-/

namespace HomeHub

namespace Flash

/-! ### Images -/

section Image

variable {image data : Bytes} {offset : Nat} (h : offset ≤ image.length)
include h

lemma slice_patch {k : Nat} (hk : k ≤ data.length) :
    slice (patch image offset data) offset k = data.take k := by
  have hlen : (image.take offset).length = offset := List.length_take_of_le h
  rw [slice, patch, List.append_assoc, List.drop_left' hlen]
  exact List.take_append_of_le_length hk

lemma le_length_patch : offset + data.length ≤ (patch image offset data).length := by
  simp only [patch, List.length_append, List.length_take, List.length_drop]
  omega

end Image

section Within

variable {image tail data : Bytes} {offset length i : Nat}

lemma slice_append (h : offset + length ≤ image.length) :
    slice (image ++ tail) offset length = slice image offset length := by
  rw [slice, slice, List.drop_append_of_le_length (by omega), List.take_append_of_le_length]
  rw [List.length_drop]
  omega

lemma patch_append (h : offset + data.length ≤ image.length) :
    patch (image ++ tail) offset data = patch image offset data ++ tail := by
  rw [patch, patch, List.take_append_of_le_length (by omega), List.drop_append_of_le_length h,
    List.append_assoc, List.append_assoc, List.append_assoc]

lemma length_patch (h : offset + data.length ≤ image.length) :
    (patch image offset data).length = image.length := by
  simp only [patch, List.length_append, List.length_take, List.length_drop]
  omega

lemma getElem?_patch (h : offset + data.length ≤ image.length)
    (hi : i < offset ∨ offset + data.length ≤ i) :
    (patch image offset data)[i]? = image[i]? := by
  have hlen : (image.take offset).length = offset := List.length_take_of_le (by omega)
  rcases hi with hi | hi
  · rw [patch, List.append_assoc, List.getElem?_append_left (by omega), List.getElem?_take_of_lt hi]
  · have hdata : (image.take offset ++ data).length = offset + data.length := by
      rw [List.length_append, hlen]
    rw [patch, List.getElem?_append_right (by omega), hdata, List.getElem?_drop,
      Nat.add_sub_cancel' hi]

end Within

lemma erased_and (b : UInt8) : erased &&& b = b := by
  apply UInt8.toBitVec_inj.mp
  exact BitVec.allOnes_and

lemma clearBits_erased (page : Bytes) :
    clearBits (List.replicate page.length erased) page = page := by
  unfold clearBits
  induction page with
  | nil => rfl
  | cons b page ih =>
    rw [List.length_cons, List.replicate_succ, List.zipWith_cons_cons, erased_and, ih]

lemma checkAligned_eq_ok {operation : Operation} {offset alignment : Nat} {u : Unit} :
    checkAligned operation offset alignment = .ok u ↔ offset % alignment = 0 := by
  unfold checkAligned
  split <;> simp_all

lemma mod_pageSize {offset : Nat} (h : offset % sectorSize = 0) : offset % pageSize = 0 := by
  unfold sectorSize at h
  unfold pageSize
  omega

lemma checkBounds_eq_ok {offset length size : Nat} {u : Unit} :
    checkBounds offset length size = .ok u ↔ offset + length ≤ size := by
  unfold checkBounds
  split <;> simp_all

lemma guarded_cases {α : Type} (operation : Operation) (offset alignment length size : Nat)
    (x : α) :
    let result : Except FlashFault α := do
      checkAligned operation offset alignment
      checkBounds offset length size
      return x
    (offset % alignment ≠ 0 ∧ result = .error (.misaligned operation offset alignment)) ∨
    (offset % alignment = 0 ∧ size < offset + length ∧
      result = .error (.outOfRange offset length size)) ∨
    (offset % alignment = 0 ∧ offset + length ≤ size ∧ result = .ok x) := by
  unfold checkAligned checkBounds
  by_cases halign : offset % alignment = 0
  · rw [if_pos halign]
    by_cases hfits : offset + length ≤ size
    · rw [if_pos hfits]
      exact .inr (.inr ⟨halign, hfits, rfl⟩)
    · rw [if_neg hfits]
      exact .inr (.inl ⟨halign, Nat.lt_of_not_le hfits, rfl⟩)
  · rw [if_neg halign]
    exact .inl ⟨halign, rfl⟩

lemma guarded_eq_ok_iff {α : Type} {operation : Operation} {offset alignment length size : Nat}
    {x y : α} :
    (do checkAligned operation offset alignment
        checkBounds offset length size
        return x : Except FlashFault α) = .ok y ↔
      offset % alignment = 0 ∧ offset + length ≤ size ∧ y = x := by
  rcases guarded_cases operation offset alignment length size x with
    ⟨halign, h⟩ | ⟨halign, hfits, h⟩ | ⟨halign, hfits, h⟩
  · rw [h]
    exact ⟨nofun, fun h => absurd h.1 halign⟩
  · rw [h]
    exact ⟨nofun, fun h => absurd h.2.1 (Nat.not_le_of_lt hfits)⟩
  · rw [h, Except.ok.injEq, eq_comm]
    exact ⟨fun h => ⟨halign, hfits, h⟩, fun h => h.2.2⟩

/-- An image after the sector at an offset has been erased. -/
def wiped (image : Bytes) (offset : Nat) : Bytes :=
  patch image offset (List.replicate sectorSize erased)

/-- An image after a page has been programmed at an offset. -/
def stamped (image : Bytes) (offset : Nat) (p : Page) : Bytes :=
  patch image offset (clearBits (slice image offset pageSize) p.bytes)

lemma length_slice {image : Bytes} {offset length : Nat} (h : offset + length ≤ image.length) :
    (slice image offset length).length = length := by
  rw [slice, List.length_take, List.length_drop]
  omega

lemma length_clearBits {image : Bytes} {offset : Nat} (p : Page)
    (h : offset + pageSize ≤ image.length) :
    (clearBits (slice image offset pageSize) p.bytes).length = pageSize := by
  rw [clearBits, List.length_zipWith, length_slice h, p.length_bytes, Nat.min_self]

lemma le_length_wiped {image : Bytes} {offset : Nat} (h : offset ≤ image.length) :
    offset + sectorSize ≤ (wiped image offset).length := by
  have hlen : (List.replicate sectorSize erased).length = sectorSize := List.length_replicate
  have : offset + (List.replicate sectorSize erased).length ≤ (wiped image offset).length :=
    le_length_patch h
  rwa [hlen] at this

lemma length_wiped {image : Bytes} {offset : Nat} (h : offset + sectorSize ≤ image.length) :
    (wiped image offset).length = image.length :=
  length_patch (by rwa [List.length_replicate])

lemma length_stamped {image : Bytes} {offset : Nat} {p : Page}
    (h : offset + pageSize ≤ image.length) : (stamped image offset p).length = image.length :=
  length_patch (by rwa [length_clearBits p h])

lemma slice_wiped {image : Bytes} {offset : Nat} (h : offset ≤ image.length) :
    slice (wiped image offset) offset pageSize = List.replicate pageSize erased := by
  have hpage : pageSize ≤ sectorSize := by decide
  rw [wiped, slice_patch h (by rw [List.length_replicate]; exact hpage), List.take_replicate,
    Nat.min_eq_left hpage]

lemma slice_stamped_wiped {image : Bytes} {offset : Nat} (p : Page) (h : offset ≤ image.length) :
    slice (stamped (wiped image offset) offset p) offset pageSize = p.bytes ∧
      offset + pageSize ≤ (stamped (wiped image offset) offset p).length := by
  have hw := le_length_wiped h
  have hcells : clearBits (slice (wiped image offset) offset pageSize) p.bytes = p.bytes := by
    rw [slice_wiped h, ← p.length_bytes, clearBits_erased]
  rw [stamped, hcells, ← p.length_bytes]
  refine ⟨?_, le_length_patch (by omega)⟩
  rw [slice_patch (by omega) (Nat.le_refl _), List.take_length]

end Flash

/-! ### Devices -/

section Law

variable {δ : Type} [Flash δ]

lemma Store.readPage_eq_ok {d : δ} {offset : Nat} {p : Page} :
    Store.readPage d offset = .ok p ↔ Flash.read d offset Flash.pageSize = .ok p.bytes := by
  rcases h : Flash.read d offset Flash.pageSize with why | bs
  · simp [readPage, h]
  · by_cases hlen : bs.length = Flash.pageSize
    · simp only [readPage, h, Flash.page?, hlen, dif_pos, Except.ok.injEq]
      constructor
      · rintro rfl
        rfl
      · rintro rfl
        rfl
    · simp only [readPage, h, Flash.page?, hlen, dif_neg, not_false_eq_true, Except.ok.injEq,
        reduceCtorEq, false_iff]
      rintro rfl
      exact hlen p.length_bytes

/-- There is a page at an offset. -/
def Store.Readable (d : δ) (offset : Nat) : Prop := ∃ p, Store.readPage d offset = .ok p

lemma Store.readable_of_read {d : δ} {offset : Nat} {bs : Bytes}
    (h : Flash.read d offset Flash.pageSize = .ok bs) (hlen : bs.length = Flash.pageSize) :
    Store.Readable d offset :=
  ⟨⟨bs, hlen⟩, readPage_eq_ok.mpr h⟩

/-- A record can be written to the page at an offset, and read. -/
structure Store.Writable (d : δ) (offset : Nat) : Prop where
  readable : Store.Readable d offset
  written : ∀ record, (Store.flashRecord d offset record).1 = .written

end Law

/-- A device on which a page programmed after an erase is read back as it was. -/
class LawfulFlash (δ : Type) [Flash δ] : Prop where
  readable_erase {d e : δ} {offset : Nat} :
    Store.Readable d offset → Flash.erase d offset = .ok e → Store.Readable e offset
  readPage_program {d e f : δ} {offset : Nat} {p : Page} :
    Store.Readable d offset → Flash.erase d offset = .ok e → Flash.program e offset p = .ok f →
      Store.readPage f offset = .ok p

namespace MemoryFlash

lemma erase_eq_ok_iff {m e : MemoryFlash} {offset : Nat} : m.erase offset = .ok e ↔
    offset % Flash.sectorSize = 0 ∧ offset + Flash.sectorSize ≤ m.image.length ∧
      e = { m with image := Flash.wiped m.image offset, erases := m.erases + 1 } :=
  Flash.guarded_eq_ok_iff

lemma program_eq_ok_iff {m e : MemoryFlash} {offset : Nat} {p : Page} : m.program offset p = .ok e ↔
    offset % Flash.pageSize = 0 ∧ offset + Flash.pageSize ≤ m.image.length ∧
      e = { m with image := Flash.stamped m.image offset p, programs := m.programs + 1 } :=
  Flash.guarded_eq_ok_iff

lemma erase_eq_ok {m e : MemoryFlash} {offset : Nat} (h : m.erase offset = .ok e) :
    offset + Flash.sectorSize ≤ m.image.length ∧ e.image = Flash.wiped m.image offset := by
  obtain ⟨-, hbounds, rfl⟩ := erase_eq_ok_iff.mp h
  exact ⟨hbounds, rfl⟩

lemma program_eq_ok {m e : MemoryFlash} {offset : Nat} {p : Page}
    (h : m.program offset p = .ok e) : e.image = Flash.stamped m.image offset p := by
  obtain ⟨-, -, rfl⟩ := program_eq_ok_iff.mp h
  rfl

lemma read_eq {m : MemoryFlash} {offset length : Nat} (h : offset + length ≤ m.image.length) :
    m.read offset length = .ok (Flash.slice m.image offset length) :=
  bind_eq_ok.mpr ⟨(), Flash.checkBounds_eq_ok.mpr h, rfl⟩

instance : LawfulFlash MemoryFlash where
  readable_erase {d e offset} _ he := by
    obtain ⟨hd, himage⟩ := erase_eq_ok he
    have hoffset : offset ≤ d.image.length := by omega
    have hpage : Flash.pageSize ≤ Flash.sectorSize := by decide
    have hlen := Flash.le_length_wiped hoffset
    rw [← himage] at hlen
    refine Store.readable_of_read (read_eq (by omega)) ?_
    rw [himage, Flash.slice_wiped hoffset, List.length_replicate]
  readPage_program {d e f offset p} _ he hf := by
    obtain ⟨hd, himage⟩ := erase_eq_ok he
    have hoffset : offset ≤ d.image.length := by omega
    obtain ⟨hslice, hlen⟩ := Flash.slice_stamped_wiped p hoffset
    rw [← himage, ← program_eq_ok hf] at hslice hlen
    rw [Store.readPage_eq_ok, ← hslice]
    exact read_eq hlen

section Writable

variable {m : MemoryFlash} {offset : Nat} (halign : offset % Flash.sectorSize = 0)
  (hfits : offset + Flash.sectorSize ≤ m.image.length)
include halign hfits

lemma erase_eq : Flash.erase m offset =
    .ok { m with image := Flash.wiped m.image offset, erases := m.erases + 1 } :=
  erase_eq_ok_iff.mpr ⟨halign, hfits, rfl⟩

lemma flashRecord_eq (record : Record) : Store.flashRecord m offset record = (.written,
    ⟨Flash.stamped (Flash.wiped m.image offset) offset record.toPage, m.erases + 1,
      m.programs + 1⟩) := by
  have hpage : Flash.pageSize ≤ Flash.sectorSize := by decide
  have hbounds : offset + Flash.pageSize ≤ (Flash.wiped m.image offset).length := by
    rw [Flash.length_wiped hfits]
    omega
  have hprogram : Flash.program
      { m with image := Flash.wiped m.image offset, erases := m.erases + 1 } offset record.toPage =
      .ok ⟨Flash.stamped (Flash.wiped m.image offset) offset record.toPage, m.erases + 1,
        m.programs + 1⟩ :=
    program_eq_ok_iff.mpr ⟨Flash.mod_pageSize halign, hbounds, rfl⟩
  simp only [Store.flashRecord, erase_eq halign hfits, hprogram]

lemma writable : Store.Writable m offset where
  readable := by
    have hpage : Flash.pageSize ≤ Flash.sectorSize := by decide
    have hbounds : offset + Flash.pageSize ≤ m.image.length := by omega
    exact Store.readable_of_read (read_eq hbounds) (Flash.length_slice hbounds)
  written record := by rw [flashRecord_eq halign hfits record]

lemma length_flashRecord (record : Record) :
    (Store.flashRecord m offset record).2.image.length = m.image.length := by
  have hpage : Flash.pageSize ≤ Flash.sectorSize := by decide
  have hwiped := Flash.length_wiped hfits
  rw [flashRecord_eq halign hfits]
  exact (Flash.length_stamped (by omega)).trans hwiped

end Writable

end MemoryFlash

namespace FileFlash

lemma erase_eq_ok_iff {m e : FileFlash} {offset : Nat} : m.erase offset = .ok e ↔
    offset % Flash.sectorSize = 0 ∧ offset + Flash.sectorSize ≤ Flash.imageSize ∧
      e = ⟨Flash.wiped m.content offset⟩ :=
  Flash.guarded_eq_ok_iff

lemma erase_eq_ok {m e : FileFlash} {offset : Nat} (h : m.erase offset = .ok e) :
    offset + Flash.sectorSize ≤ Flash.imageSize ∧ e.content = Flash.wiped m.content offset := by
  obtain ⟨-, hbounds, rfl⟩ := erase_eq_ok_iff.mp h
  exact ⟨hbounds, rfl⟩

lemma read_eq_ok {m : FileFlash} {offset length : Nat} {bs : Bytes} :
    m.read offset length = .ok bs ↔
      offset + length ≤ Flash.imageSize ∧ Flash.slice m.content offset length = bs := by
  constructor
  · intro h
    obtain ⟨u, hbounds, hbs⟩ := bind_eq_ok.mp h
    exact ⟨Flash.checkBounds_eq_ok.mp hbounds, Except.ok.inj hbs⟩
  · rintro ⟨h, rfl⟩
    exact bind_eq_ok.mpr ⟨(), Flash.checkBounds_eq_ok.mpr h, rfl⟩

lemma program_eq_ok {m e : FileFlash} {offset : Nat} {p : Page}
    (h : m.program offset p = .ok e) : e.content = Flash.stamped m.content offset p := by
  obtain ⟨-, -, hrest⟩ := bind_eq_ok.mp h
  obtain ⟨-, -, hrest'⟩ := bind_eq_ok.mp hrest
  obtain ⟨current, hread, he⟩ := bind_eq_ok.mp hrest'
  obtain ⟨-, rfl⟩ := read_eq_ok.mp hread
  obtain rfl := Except.ok.inj he
  rfl

lemma offset_le_of_readable {d : FileFlash} {offset : Nat} (h : Store.Readable d offset) :
    offset ≤ d.content.length := by
  obtain ⟨p, hp⟩ := h
  obtain ⟨-, hslice⟩ := read_eq_ok.mp (Store.readPage_eq_ok.mp hp)
  have hlen := congrArg List.length hslice
  rw [p.length_bytes, Flash.slice, List.length_take, List.length_drop] at hlen
  simp only [Flash.pageSize] at hlen
  omega

instance : LawfulFlash FileFlash where
  readable_erase {d e offset} hd he := by
    obtain ⟨hbounds, hcontent⟩ := erase_eq_ok he
    have hpage : Flash.pageSize ≤ Flash.sectorSize := by decide
    refine Store.readable_of_read (read_eq_ok.mpr ⟨by omega, rfl⟩) ?_
    rw [hcontent, Flash.slice_wiped (offset_le_of_readable hd), List.length_replicate]
  readPage_program {d e f offset p} hd he hf := by
    obtain ⟨hbounds, hcontent⟩ := erase_eq_ok he
    have hpage : Flash.pageSize ≤ Flash.sectorSize := by decide
    obtain ⟨hslice, -⟩ := Flash.slice_stamped_wiped p (offset_le_of_readable hd)
    rw [← hcontent, ← program_eq_ok hf] at hslice
    exact Store.readPage_eq_ok.mpr (read_eq_ok.mpr ⟨by omega, hslice⟩)

lemma writable {f : FileFlash} {offset : Nat} (halign : offset % Flash.sectorSize = 0)
    (hfits : offset + Flash.sectorSize ≤ Flash.imageSize)
    (hlength : Flash.imageSize ≤ f.content.length) : Store.Writable f offset := by
  have hpage : Flash.pageSize ≤ Flash.sectorSize := by decide
  have hbounds : offset + Flash.pageSize ≤ Flash.imageSize := by omega
  have herase : Flash.erase f offset = .ok ⟨Flash.wiped f.content offset⟩ :=
    erase_eq_ok_iff.mpr ⟨halign, hfits, rfl⟩
  have hprogram (p : Page) : Flash.program (⟨Flash.wiped f.content offset⟩ : FileFlash) offset p =
      .ok ⟨Flash.stamped (Flash.wiped f.content offset) offset p⟩ :=
    bind_eq_ok.mpr ⟨(), Flash.checkAligned_eq_ok.mpr (Flash.mod_pageSize halign),
      bind_eq_ok.mpr ⟨(), Flash.checkBounds_eq_ok.mpr hbounds,
        bind_eq_ok.mpr ⟨_, read_eq_ok.mpr ⟨hbounds, rfl⟩, rfl⟩⟩⟩
  refine ⟨?_, fun record => ?_⟩
  · exact Store.readable_of_read (read_eq_ok.mpr ⟨hbounds, rfl⟩)
      (Flash.length_slice (Nat.le_trans hbounds hlength))
  · simp only [Store.flashRecord, herase, hprogram]

end FileFlash

namespace FaultyFlash

lemma erase_eq_ok {d e : FaultyFlash} {offset : Nat} (h : d.erase offset = .ok e) :
    d.memory.erase offset = .ok e.memory := by
  unfold erase at h
  split at h
  · cases h
  · obtain ⟨m, hm, rfl⟩ := map_eq_ok.mp h
    exact hm

lemma program_eq_ok {d e : FaultyFlash} {offset : Nat} {p : Page}
    (h : d.program offset p = .ok e) : d.memory.program offset p = .ok e.memory := by
  unfold program at h
  split at h
  · cases h
  · obtain ⟨m, hm, rfl⟩ := map_eq_ok.mp h
    exact hm

instance : LawfulFlash FaultyFlash where
  readable_erase hd he := LawfulFlash.readable_erase (δ := MemoryFlash) hd (erase_eq_ok he)
  readPage_program hd he hf :=
    LawfulFlash.readPage_program (δ := MemoryFlash) hd (erase_eq_ok he) (program_eq_ok hf)

end FaultyFlash

end HomeHub
