import HomeHub.Flash.Device

/-!
A flash device in memory, which counts its erases and programs.
-/

namespace HomeHub

structure MemoryFlash where
  image : Bytes
  erases : Nat
  programs : Nat

namespace MemoryFlash

/-- A fully erased device. -/
def new (size : Nat) : MemoryFlash := ⟨List.replicate size Flash.erased, 0, 0⟩

def read (m : MemoryFlash) (offset length : Nat) : Except FlashFault Bytes := do
  Flash.checkBounds offset length m.image.length
  return Flash.slice m.image offset length

def erase (m : MemoryFlash) (offset : Nat) : Except FlashFault MemoryFlash := do
  Flash.checkAligned .erase offset Flash.sectorSize
  Flash.checkBounds offset Flash.sectorSize m.image.length
  let blank := List.replicate Flash.sectorSize Flash.erased
  return { m with image := Flash.patch m.image offset blank, erases := m.erases + 1 }

def program (m : MemoryFlash) (offset : Nat) (page : Page) : Except FlashFault MemoryFlash := do
  Flash.checkAligned .program offset Flash.pageSize
  Flash.checkBounds offset Flash.pageSize m.image.length
  let cells := Flash.clearBits (Flash.slice m.image offset Flash.pageSize) page.bytes
  return { m with image := Flash.patch m.image offset cells, programs := m.programs + 1 }

instance : Flash MemoryFlash where
  read := read
  erase := erase
  program := program

/-- Writes bytes into the image without regard to the rules of flash; what lies outside is lost. -/
def poke (m : MemoryFlash) (offset : Nat) (data : Bytes) : MemoryFlash :=
  { m with image := (Flash.patch m.image offset data).take m.image.length }

end MemoryFlash

end HomeHub
