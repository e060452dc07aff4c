import HomeHub.Flash.File
import HomeHub.Server.Periodic
import HomeHub.Server.Setup

/-!
The program: it serves one client over its standard input and output until the input ends. Settings
are kept in the flash image, if the configuration names one.
-/

namespace HomeHub.Main

/-- The identity of the only client. -/
def clientIdentity : String := "stdio"

/-- What a path leads to. -/
def source (path : String) : IO Config.Source := do
  try
    return .file (← IO.FS.readBinFile path).toList
  catch
    | .noFileOrDirectory .. => return .missing
    | _ => return .directory

/-- The flash image at a path, or an erased one that is not kept. -/
def readFlash (path : Option String) : IO FileFlash := do
  match path with
  | none => return FileFlash.attach []
  | some path =>
    match ← source path with
    | .file content => return FileFlash.attach content
    | .missing => return FileFlash.attach []
    | .directory => throw (IO.userError ("cannot read " ++ path))

/-- Writes the flash image back. -/
def saveFlash (path : Option String) (flash : FileFlash) : IO Unit := do
  match path with
  | none => return
  | some path => IO.FS.writeBinFile path (ByteArray.mk flash.content.toArray)

def now : IO Time := do return (← IO.monoMsNow)

/-- A source of nonces that nobody can foresee. -/
def randomNonces : IO NonceSource := do
  let bytes := (← IO.getRandomBytes 32).toList
  if h : bytes.length = Cipher.keyLength then return NonceSource.keyed ⟨bytes, h⟩
  else throw (IO.userError "no random bytes")

/-- The bytes that the writers have handed over. -/
def written (s : Server Thermostat FileFlash) : Bytes :=
  s.connections.links.flatMap fun l => l.sink.log.flatMap fun c => match c with
    | .write bytes => bytes
    | _ => []

/-- Passes on what was written, and keeps the flash image. -/
def settle (path : Option String) (output : IO.FS.Stream) (s : Server Thermostat FileFlash) :
    IO (Server Thermostat FileFlash) := do
  output.write (ByteArray.mk (written s).toArray)
  output.flush
  saveFlash path s.board.flash
  return { s with connections := s.connections.clearLogs }

/-- Reads until the input or the session ends. -/
partial def serve (path : Option String) (input output : IO.FS.Stream)
    (s : Server Thermostat FileFlash) : IO (Server Thermostat FileFlash) := do
  match s.task? clientIdentity with
  | none => return s
  | some task =>
    let chunk ← input.read (USize.ofNat task.room)
    let time ← now
    if chunk.isEmpty then return s.hangUp clientIdentity
    let s := (s.receive task chunk.toList time).runWriters
    serve path input output (← settle path output ((s.turn time).drive time))

def run (o : Options) : IO UInt32 := do
  match Config.load (← source o.config) with
  | .error .io => IO.eprintln ("cannot read " ++ o.config); return 1
  | .error (.config why) => IO.eprintln ("Configuration error: " ++ why.message); return 1
  | .ok c =>
    let c := c.withOptions o
    let flash ← readFlash c.flashPath
    match Server.setUp c o.temperature (← randomNonces) flash (← IO.getEnv "HOSTNAME") (← now) with
    | .error why => IO.eprintln why.message; return 1
    | .ok s =>
      let s := s.accept clientIdentity Sink.eager (← now)
      let output ← IO.getStdout
      let s ← serve c.flashPath (← IO.getStdin) output s
      let _ ← settle c.flashPath output (s.shutDown (← now))
      return 0

end HomeHub.Main

def main (arguments : List String) : IO UInt32 := do
  match HomeHub.Options.ofArguments arguments with
  | .error why => IO.eprintln why.message; return 2
  | .ok o => HomeHub.Main.run o
