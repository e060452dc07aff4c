import Mathlib.Data.List.Forall2
import HomeHub.Proofs.FlashLaws
import HomeHub.Proofs.Runs

/-!
A device in a file answers as one in memory does, whatever is asked of the two and however often the
file is opened again.

The file holds the image of the device in memory and, behind it, what a longer file held from the
start. Every operation keeps within the image, so it meets the same bytes in both, and what stands
behind the image is out of its reach.
-/

namespace HomeHub

/-- The device whose image is the front of a file, filled up with erased bytes. -/
def MemoryFlash.ofContent (content : Bytes) : MemoryFlash :=
  ⟨content.take Flash.imageSize ++
    List.replicate (Flash.imageSize - content.length) Flash.erased, 0, 0⟩

namespace DeviceRuns

/-! ### Requests -/

inductive Request
  | read (offset length : Nat)
  | erase (offset : Nat)
  | program (offset : Nat) (page : Page)
  /-- The device is closed and opened again. -/
  | reopen

structure Event (δ : Type) where
  /-- What is read; no bytes for a request that reads nothing. -/
  answer : Except FlashFault Bytes
  /-- The device after the request. -/
  device : δ

variable {δ : Type}

/-- A change that is refused leaves the device as it was. -/
def changed (d : δ) : Except FlashFault δ → Event δ
  | .error why => ⟨.error why, d⟩
  | .ok e => ⟨.ok [], e⟩

/-- How a device serves a request, where `reopened` is the device opened again. -/
def serve [Flash δ] (reopened : δ → δ) (d : δ) : Request → Event δ
  | .read offset length => ⟨Flash.read d offset length, d⟩
  | .erase offset => changed d (Flash.erase d offset)
  | .program offset page => changed d (Flash.program d offset page)
  | .reopen => ⟨.ok [], reopened d⟩

def act [Flash δ] (reopened : δ → δ) (d : δ) (r : Request) : Event δ × δ :=
  (serve reopened d r, (serve reopened d r).device)

/-- What comes of requests to a file with this content. -/
def fileLog (content : Bytes) (rs : List Request) : List (Event FileFlash) :=
  (Run.play (act fun f => .attach f.content) (.attach content) rs).1

/-- What comes of requests to a device in memory with this image, which stays as it is when it is
opened again. -/
def memoryLog (content : Bytes) (rs : List Request) : List (Event MemoryFlash) :=
  (Run.play (act id) (.ofContent content) rs).1

/-! ### Twins -/

variable {beyond : Bytes} {f : FileFlash} {m : MemoryFlash}

/-- The file holds the image and nothing else but what stands behind it. -/
structure Twin (beyond : Bytes) (f : FileFlash) (m : MemoryFlash) : Prop where
  content : f.content = m.image ++ beyond
  length : m.image.length = Flash.imageSize

/-- An operation is refused for the same reason on both devices, or makes twins of them. -/
inductive Alike (beyond : Bytes) :
    Except FlashFault FileFlash → Except FlashFault MemoryFlash → Prop
  | refused (why : FlashFault) : Alike beyond (.error why) (.error why)
  | done {f : FileFlash} {m : MemoryFlash} : Twin beyond f m → Alike beyond (.ok f) (.ok m)

/-- A file is filled up where it is shorter than the image, and has more behind it where it is
longer. -/
lemma twin_attach (content : Bytes) :
    Twin (content.drop Flash.imageSize) (.attach content) (.ofContent content) := by
  rcases Nat.le_total content.length Flash.imageSize with h | h
  · refine ⟨?_, ?_⟩
    · rw [FileFlash.attach, MemoryFlash.ofContent, List.drop_eq_nil_of_le h,
        List.take_of_length_le h, List.append_nil]
    · rw [MemoryFlash.ofContent, List.take_of_length_le h, List.length_append,
        List.length_replicate, Nat.add_sub_cancel' h]
  · have hfill : Flash.imageSize - content.length = 0 := Nat.sub_eq_zero_of_le h
    refine ⟨?_, ?_⟩
    · rw [FileFlash.attach, MemoryFlash.ofContent, hfill, List.replicate_zero, List.append_nil,
        List.append_nil, List.take_append_drop]
    · rw [MemoryFlash.ofContent, hfill, List.replicate_zero, List.append_nil,
        List.length_take_of_le h]

namespace Twin

variable (h : Twin beyond f m)
include h

lemma attach_eq : FileFlash.attach f.content = f := by
  have hlen : Flash.imageSize - f.content.length = 0 := by
    rw [h.content, List.length_append, h.length]
    omega
  rw [FileFlash.attach, hlen, List.replicate_zero, List.append_nil]

lemma patch {offset erases programs : Nat} {data : Bytes}
    (hdata : offset + data.length ≤ Flash.imageSize) :
    Twin beyond ⟨Flash.patch f.content offset data⟩
      ⟨Flash.patch m.image offset data, erases, programs⟩ := by
  rw [← h.length] at hdata
  refine ⟨?_, ?_⟩
  · rw [h.content, Flash.patch_append hdata]
  · exact (Flash.length_patch hdata).trans h.length

lemma read_eq (offset length : Nat) : f.read offset length = m.read offset length := by
  simp only [FileFlash.read, MemoryFlash.read, h.length]
  rcases hb : Flash.checkBounds offset length Flash.imageSize with why | u
  · rfl
  · have hbounds := Flash.checkBounds_eq_ok.mp hb
    rw [h.content, Flash.slice_append (by rwa [h.length])]

lemma erase_alike (offset : Nat) : Alike beyond (f.erase offset) (m.erase offset) := by
  simp only [FileFlash.erase, MemoryFlash.erase, h.length]
  rcases Flash.checkAligned .erase offset Flash.sectorSize with why | -
  · exact .refused why
  · rcases hb : Flash.checkBounds offset Flash.sectorSize Flash.imageSize with why | u
    · exact .refused why
    · refine .done (h.patch ?_)
      rw [List.length_replicate]
      exact Flash.checkBounds_eq_ok.mp hb

lemma program_alike (offset : Nat) (page : Page) :
    Alike beyond (f.program offset page) (m.program offset page) := by
  simp only [FileFlash.program, MemoryFlash.program, h.length]
  rcases Flash.checkAligned .program offset Flash.pageSize with why | -
  · exact .refused why
  · rcases hb : Flash.checkBounds offset Flash.pageSize Flash.imageSize with why | u
    · exact .refused why
    · -- the page read back from the file is the one in memory
      have hbounds := Flash.checkBounds_eq_ok.mp hb
      have hread : f.read offset Flash.pageSize = .ok (Flash.slice m.image offset Flash.pageSize) :=
        (h.read_eq ..).trans (MemoryFlash.read_eq (by rwa [h.length]))
      rw [hread]
      refine .done (h.patch ?_)
      rw [Flash.length_clearBits page (by rwa [h.length])]
      exact hbounds

end Twin

/-! ### The result -/

lemma Alike.changed {x : Except FlashFault FileFlash} {y : Except FlashFault MemoryFlash}
    (h : Twin beyond f m) (hxy : Alike beyond x y) :
    (changed f x).answer = (changed m y).answer ∧
      Twin beyond (changed f x).device (changed m y).device := by
  cases hxy with
  | refused why => exact ⟨rfl, h⟩
  | done h' => exact ⟨rfl, h'⟩

lemma serve_alike (h : Twin beyond f m) (r : Request) :
    (serve (fun f => .attach f.content) f r).answer = (serve id m r).answer ∧
      Twin beyond (serve (fun f => .attach f.content) f r).device (serve id m r).device := by
  cases r with
  | read offset length => exact ⟨h.read_eq offset length, h⟩
  | erase offset => exact (h.erase_alike offset).changed h
  | program offset page => exact (h.program_alike offset page).changed h
  | reopen =>
    refine ⟨rfl, ?_⟩
    simp only [serve, h.attach_eq]
    exact h

lemma play_alike (h : Twin beyond f m) (rs : List Request) :
    List.Forall₂ (fun a b => a.answer = b.answer ∧ Twin beyond a.device b.device)
      (Run.play (act fun f => .attach f.content) f rs).1 (Run.play (act id) m rs).1 := by
  induction rs generalizing f m with
  | nil => exact .nil
  | cons r rs ih => exact .cons (serve_alike h r) (ih (serve_alike h r).2)

/-- **The two flash devices agree.** Whatever a file holds at first (nothing if it has just been
made), it answers every request as a device in memory does that has the front of it as its image;
after each of them it holds that image, and what it held behind the image is still there. -/
theorem devices_agree (content : Bytes) (rs : List Request) :
    List.Forall₂ (fun a b => a.answer = b.answer ∧
        a.device.content.take Flash.imageSize = b.device.image ∧
        a.device.content.drop Flash.imageSize = content.drop Flash.imageSize)
      (fileLog content rs) (memoryLog content rs) := by
  refine (play_alike (twin_attach content) rs).imp fun a b h => ⟨h.1, ?_, ?_⟩
  · rw [h.2.content, List.take_left' h.2.length]
  · rw [h.2.content, List.drop_left' h.2.length]

end DeviceRuns

end HomeHub
