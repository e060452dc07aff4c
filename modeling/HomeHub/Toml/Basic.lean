import HomeHub.Numeric.Binary64

/-!
TOML documents: values, and tables with the way in which each of them came about. A table may be
opened once by a header, may grow through dotted keys only if dotted keys began it, and is closed
for good if it was written inline.
-/

namespace HomeHub

/-- How a table came about. -/
inductive Toml.Origin
  /-- Written in braces. -/
  | inline
  /-- Opened by its own header. -/
  | header
  /-- Implied by the header of a table inside it. -/
  | implied
  /-- Begun by a dotted key. -/
  | dotted
  deriving DecidableEq, Repr

inductive Toml
  | string (s : String)
  | integer (i : Int)
  | float (x : Binary64)
  | boolean (b : Bool)
  | datetime (text : String)
  | array (items : List Toml)
  | table (origin : Toml.Origin) (entries : List (String × Toml))
  /-- The tables of one repeated header. -/
  | tables (items : List (List (String × Toml)))
  deriving Repr

namespace Toml

abbrev Entries := List (String × Toml)

def lookup (key : String) (entries : Entries) : Option Toml :=
  (entries.find? fun e => e.1 == key).map (·.2)

/-- Sets an entry in its place, or at the end. -/
def set (key : String) (value : Toml) : Entries → Entries
  | [] => [(key, value)]
  | (k, v) :: rest => if k = key then (k, value) :: rest else (k, v) :: set key value rest

/-- Changes the table at the end of a path by `change`, making the tables on the way. With
`byDots` the path is that of a dotted key, which must not enter a table opened by a header. -/
def descend (byDots : Bool) (change : Origin → Entries → Option (Origin × Entries)) :
    (path : List String) → Origin → Entries → Option (Origin × Entries)
  | [], origin, entries => change origin entries
  | key :: path, origin, entries =>
    match lookup key entries with
    | none => do
      let made := if byDots then Origin.dotted else Origin.implied
      let (o, es) ← descend byDots change path made []
      return (origin, set key (.table o es) entries)
    | some (.table o es) =>
      if o = .inline ∨ (byDots ∧ o = .header) then none
      else do
        let (o, es) ← descend byDots change path o es
        return (origin, set key (.table o es) entries)
    | some (.tables items) =>
      match items.getLast? with
      | none => none
      | some last => do
        let (_, es) ← descend byDots change path .header last
        return (origin, set key (.tables (items.dropLast ++ [es])) entries)
    | some _ => none

/-- Adds an entry under a key of which `path` is all but the last part. -/
def addEntry (path : List String) (key : String) (value : Toml) :
    Origin → Entries → Option (Origin × Entries) :=
  descend true (fun origin entries =>
    if (origin == .dotted) == path.isEmpty then none
    else if (lookup key entries).isSome then none
    else some (origin, entries ++ [(key, value)])) path

/-- Opens the table `key` by its header. -/
def openTable (key : String) (origin : Origin) (entries : Entries) : Option (Origin × Entries) :=
  match lookup key entries with
  | none => some (origin, set key (.table .header []) entries)
  | some (.table .implied es) => some (origin, set key (.table .header es) entries)
  | some _ => none

/-- Opens one more table under a repeated header. -/
def openRepeated (key : String) (origin : Origin) (entries : Entries) :
    Option (Origin × Entries) :=
  match lookup key entries with
  | none => some (origin, set key (.tables [[]]) entries)
  | some (.tables items) => some (origin, set key (.tables (items ++ [[]])) entries)
  | some _ => none

end Toml

end HomeHub
