import HomeHub.Flash.Memory

/-!
A flash device in memory whose erases and programs can be made to fail.
-/

namespace HomeHub

structure FaultyFlash where
  memory : MemoryFlash
  eraseFails : Bool
  programFails : Bool

namespace FaultyFlash

def new (memory : MemoryFlash) : FaultyFlash := ⟨memory, false, false⟩

def erase (f : FaultyFlash) (offset : Nat) : Except FlashFault FaultyFlash :=
  if f.eraseFails then .error (.broken .erase)
  else (f.memory.erase offset).map fun memory => { f with memory }

def program (f : FaultyFlash) (offset : Nat) (page : Page) : Except FlashFault FaultyFlash :=
  if f.programFails then .error (.broken .program)
  else (f.memory.program offset page).map fun memory => { f with memory }

instance : Flash FaultyFlash where
  read f := f.memory.read
  erase := erase
  program := program

end FaultyFlash

end HomeHub
