import HomeHub.Json.Number
import HomeHub.Net.SocketAddress

/-!
The options of the command line. A long option takes its value from the next argument or after an
equals sign, a short one from the next argument or from the rest of its own.
-/

namespace HomeHub

structure Options where
  /-- The path of the configuration. -/
  config : String
  bind : Option SocketAddress
  key : Option String
  /-- The path of the flash image. -/
  flash : Option String
  /-- What the temperature sensor shows. -/
  temperature : Binary64
  deriving DecidableEq, Repr

inductive OptionFault
  | unknown (argument : String)
  | missingValue (name : String)
  | badValue (name value : String)
  deriving DecidableEq, Repr

def OptionFault.message : OptionFault → String
  | .unknown argument => "unexpected argument: " ++ argument
  | .missingValue name => "a value is required for: " ++ name
  | .badValue name value => "invalid value for " ++ name ++ ": " ++ value

namespace Options

def default : Options := ⟨"homewire.toml", none, none, none, Binary64.ofNat 21⟩

inductive Name
  | config
  | bind
  | key
  | flash
  | temperature
  deriving DecidableEq, Repr

namespace Name

def all : List Name := [config, bind, key, flash, temperature]

def long : Name → String
  | config => "--config"
  | bind => "--bind"
  | key => "--key"
  | flash => "--flash"
  | temperature => "--temperature"

def short : Name → Option String
  | config => some "-c"
  | bind => some "-b"
  | key => some "-k"
  | flash => none
  | temperature => none

end Name

/-- A decimal number. -/
def readTemperature (text : String) : Option Binary64 :=
  match Json.readNumber text.toList with
  | some (n, []) => some n.toBinary64
  | _ => none

/-- Takes one option with its value. -/
def take (o : Options) (name : Name) (value : String) : Except OptionFault Options :=
  match name with
  | .config => .ok { o with config := value }
  | .bind =>
    match SocketAddress.ofString? value with
    | some address => .ok { o with bind := some address }
    | none => .error (.badValue name.long value)
  | .key => .ok { o with key := some value }
  | .flash => .ok { o with flash := some value }
  | .temperature =>
    match readTemperature value with
    | some temperature => .ok { o with temperature }
    | none => .error (.badValue name.long value)

/-- The rest of a text after a start of it. -/
def after? : (start text : List Char) → Option (List Char)
  | [], text => some text
  | _ :: _, [] => none
  | c :: start, d :: text => if c = d then after? start text else none

/-- What an argument says: an option, and its value if it stands in the same argument. -/
def recognized? (argument : String) (name : Name) : Option (Name × Option String) :=
  if argument = name.long ∨ some argument = name.short then some (name, none)
  else
    match after? (name.long.toList ++ ['=']) argument.toList with
    | some value => some (name, some (String.ofList value))
    | none =>
      name.short.bind fun short =>
        (after? short.toList argument.toList).map fun value => (name, some (String.ofList value))

def read (o : Options) : List String → Except OptionFault Options
  | [] => .ok o
  | argument :: rest =>
    match Name.all.findSome? (recognized? argument), rest with
    | none, _ => .error (.unknown argument)
    | some (name, some value), rest =>
      match o.take name value with
      | .ok o => read o rest
      | .error why => .error why
    | some (name, none), value :: rest =>
      match o.take name value with
      | .ok o => read o rest
      | .error why => .error why
    | some (name, none), [] => .error (.missingValue name.long)

/-- The options that a list of arguments gives. -/
def ofArguments (arguments : List String) : Except OptionFault Options := read default arguments

end Options

end HomeHub
