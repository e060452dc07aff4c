import HomeHub.Flash.Device

/-!
A flash device kept in a file. A file that is missing or too short is extended with erased bytes
when it is opened; what a longer file holds past the image stays as it is.
-/

namespace HomeHub

structure FileFlash where
  /-- All bytes of the file. -/
  content : Bytes

namespace FileFlash

/-- Opens a file with this content. -/
def attach (content : Bytes) : FileFlash :=
  ⟨content ++ List.replicate (Flash.imageSize - content.length) Flash.erased⟩

def read (f : FileFlash) (offset length : Nat) : Except FlashFault Bytes := do
  Flash.checkBounds offset length Flash.imageSize
  return Flash.slice f.content offset length

def erase (f : FileFlash) (offset : Nat) : Except FlashFault FileFlash := do
  Flash.checkAligned .erase offset Flash.sectorSize
  Flash.checkBounds offset Flash.sectorSize Flash.imageSize
  return ⟨Flash.patch f.content offset (List.replicate Flash.sectorSize Flash.erased)⟩

def program (f : FileFlash) (offset : Nat) (page : Page) : Except FlashFault FileFlash := do
  Flash.checkAligned .program offset Flash.pageSize
  Flash.checkBounds offset Flash.pageSize Flash.imageSize
  let current ← f.read offset Flash.pageSize
  return ⟨Flash.patch f.content offset (Flash.clearBits current page.bytes)⟩

instance : Flash FileFlash where
  read := read
  erase := erase
  program := program

end FileFlash

end HomeHub
