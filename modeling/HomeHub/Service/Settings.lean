import HomeHub.Json.Printer
import HomeHub.Json.Skim

/-!
Thermostat settings and their stored form. Stored settings are an object by field name, where
absent fields take their defaults, other members are passed over and a field may not stand twice,
or an array of the fields by position.
-/

namespace HomeHub

/-- What survives a restart. -/
structure Settings where
  target : Binary64
  celsius : Bool
  winter : Bool
  deriving DecidableEq, Repr

namespace Settings

/-- The lowest target temperature. -/
def minTarget : Binary64 := Binary64.ofNat 10

/-- The highest target temperature. -/
def maxTarget : Binary64 := Binary64.ofNat 38

def default : Settings := ⟨minTarget, true, false⟩

/-- A target temperature brought into range; NaN becomes the lowest one. -/
def clamp (t : Binary64) : Binary64 :=
  if t.isNaN then minTarget
  else if t.lt minTarget then minTarget
  else if maxTarget.lt t then maxTarget
  else t

/-- Whether two settings are equal as numbers and truth values. -/
def same (s t : Settings) : Bool :=
  s.target.same t.target && s.celsius == t.celsius && s.winter == t.winter

def targetField : String := "target_temperature"
def celsiusField : String := "celsius"
def winterField : String := "winter"

def toJson (s : Settings) : Json :=
  .object [(targetField, .ofBinary64 s.target), (celsiusField, .bool s.celsius),
    (winterField, .bool s.winter)]

/-- The fields found so far. -/
structure Found where
  target : Option Binary64
  celsius : Option Bool
  winter : Option Bool

/-- The settings found, the rest from the defaults. -/
def Found.settings (f : Found) : Settings :=
  ⟨f.target.getD default.target, f.celsius.getD default.celsius, f.winter.getD default.winter⟩

def readNumber : Reader Binary64 := fun s =>
  (Json.readNumber s).map fun r => (r.1.toBinary64, r.2)

def readTruth : Reader Bool
  | 't' :: 'r' :: 'u' :: 'e' :: rest => some (true, rest)
  | 'f' :: 'a' :: 'l' :: 's' :: 'e' :: rest => some (false, rest)
  | _ => none

/-- Reads the value of the member `key`. A field that has been found already is refused. -/
def readField (key : String) (f : Found) : Reader Found := fun s =>
  if key = targetField then
    if f.target.isSome then none
    else (readNumber s).map fun r => ({ f with target := some r.1 }, r.2)
  else if key = celsiusField then
    if f.celsius.isSome then none
    else (readTruth s).map fun r => ({ f with celsius := some r.1 }, r.2)
  else if key = winterField then
    if f.winter.isSome then none
    else (readTruth s).map fun r => ({ f with winter := some r.1 }, r.2)
  else (Json.skimValue s).map fun r => (f, r.2)

/-- Reads members with commas between them up to the closing brace. -/
def readMembers : (fuel : Nat) → Found → Reader Found
  | 0, _, _ => none
  | fuel + 1, f, s => do
    let (key, s) ← Json.readKey (Json.skipSpace s)
    match Json.skipSpace s with
    | ':' :: s => do
      let (f, s) ← readField key f (Json.skipSpace s)
      match Json.skipSpace s with
      | ',' :: s => readMembers fuel f s
      | '}' :: s => some (f, s)
      | _ => none
    | _ => none

/-- An item by position: `none` if the array has ended. -/
def readItem {α : Type} (first : Bool) (item : Reader α) : Reader (Option α) := fun s =>
  match Json.skipSpace s with
  | ']' :: rest => some (none, ']' :: rest)
  | ',' :: rest =>
    if first then none else (item (Json.skipSpace rest)).map fun r => (some r.1, r.2)
  | s => if first then (item s).map fun r => (some r.1, r.2) else none

/-- Reads at most three items up to the closing bracket. -/
def readItems : Reader Found := fun s => do
  let (target, s) ← readItem true readNumber s
  let (celsius, s) ← readItem false readTruth s
  let (winter, s) ← readItem false readTruth s
  match Json.skipSpace s with
  | ']' :: s => some (⟨target, celsius, winter⟩, s)
  | _ => none

def readFound : Reader Found
  | '[' :: s => readItems s
  | '{' :: s =>
    match Json.skipSpace s with
    | '}' :: s => some (⟨none, none, none⟩, s)
    | s => readMembers s.length ⟨none, none, none⟩ s
  | _ => none

/-- The settings that a stored text holds, as they stand there. -/
def ofBytes? (bs : Bytes) : Option Settings :=
  match readFound (Json.skipSpace (Json.latin1 bs)) with
  | some (f, rest) => if (Json.skipSpace rest).isEmpty then some f.settings else none
  | none => none

end Settings

end HomeHub
