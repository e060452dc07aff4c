import HomeHub.Toml.Number
import HomeHub.Toml.Text

/-!
Reading of TOML documents, version 1.0.
-/

namespace HomeHub.Toml

/-- Items between commas up to the closing bracket; a comma may follow the last one. -/
def readItems (item : Reader Toml) : (fuel : Nat) → (acc : List Toml) → Reader (List Toml)
  | 0, _, _ => none
  | fuel + 1, acc, s =>
    match skipLines s.length s with
    | ']' :: rest => some (acc.reverse, rest)
    | s => do
      let (v, s) ← item s
      match skipLines s.length s with
      | ',' :: rest => readItems item fuel (v :: acc) rest
      | ']' :: rest => some ((v :: acc).reverse, rest)
      | _ => none

/-- A key, an equals sign and a value. -/
def readPair (value : Reader Toml) : Reader ((List String × String) × Toml) := fun s => do
  let (key, s) ← readKey s
  match s with
  | '=' :: s => do
    let (v, s) ← value (skipBlanks s)
    return ((key, v), s)
  | _ => none

/-- Entries of an inline table between commas up to the closing brace, all on one line. -/
def readInline (value : Reader Toml) : (fuel : Nat) → Origin × Entries → Reader Entries
  | 0, _, _ => none
  | fuel + 1, (origin, entries), s => do
    let (((path, key), v), s) ← readPair value s
    let grown ← addEntry path key v origin entries
    match skipBlanks s with
    | ',' :: rest => readInline value fuel grown rest
    | '}' :: rest => some (grown.2, rest)
    | _ => none

/-- A value in which less than `depth` arrays and inline tables are nested. -/
def readValue : (depth : Nat) → Reader Toml
  | 0, _ => none
  | depth + 1, s =>
    match s with
    | [] => none
    | '[' :: rest =>
      if depth = 0 then none
      else (readItems (readValue depth) s.length [] rest).map fun r => (.array r.1, r.2)
    | '{' :: rest =>
      if depth = 0 then none
      else
        match skipBlanks rest with
        | '}' :: rest => some (.table .inline [], rest)
        | rest =>
          (readInline (readValue depth) s.length (.inline, []) rest).map fun r =>
            (.table .inline r.1, r.2)
    | '"' :: _ => (readString s).map fun r => (.string r.1, r.2)
    | '\'' :: _ => (readString s).map fun r => (.string r.1, r.2)
    | 't' :: 'r' :: 'u' :: 'e' :: rest => some (.boolean true, rest)
    | 'f' :: 'a' :: 'l' :: 's' :: 'e' :: rest => some (.boolean false, rest)
    | s => readNumeric s

/-- A table header: the path of the table, whether it is repeated, and the rest. -/
def readHeader (s : List Char) : Option ((List String × String) × Bool × List Char) :=
  match s with
  | '[' :: '[' :: rest => do
    let (key, s) ← readKey rest
    match s with
    | ']' :: ']' :: rest => some (key, true, rest)
    | _ => none
  | '[' :: rest => do
    let (key, s) ← readKey rest
    match s with
    | ']' :: rest => some (key, false, rest)
    | _ => none
  | _ => none

/-- The table being filled, as its path, and all that has been read. -/
structure Reading where
  current : List String
  entries : Entries

/-- Opens the table of a header. -/
def Reading.open? (r : Reading) (path : List String) (key : String) (repeated : Bool) :
    Option Reading := do
  let change := if repeated then openRepeated key else openTable key
  let (_, entries) ← descend false change path .header r.entries
  return ⟨path ++ [key], entries⟩

/-- Adds an entry to the table being filled. -/
def Reading.add? (r : Reading) (path : List String) (key : String) (value : Toml) :
    Option Reading := do
  let (_, entries) ← descend false (addEntry path key value) r.current .header r.entries
  return { r with entries }

/-- Reads lines up to the end of the text. -/
def readLines : (fuel : Nat) → Reading → List Char → Option Reading
  | 0, _, _ => none
  | fuel + 1, r, s =>
    match skipBlanks s with
    | [] => some r
    | c :: rest =>
      if c = '#' ∨ c = '\n' ∨ c = '\r' then do
        let s ← endLine? (c :: rest)
        readLines fuel r s
      else if c = '[' then do
        let ((path, key), repeated, s) ← readHeader (c :: rest)
        let r ← r.open? path key repeated
        let s ← endLine? s
        readLines fuel r s
      else do
        let (((path, key), v), s) ← readPair (readValue depthLimit) (c :: rest)
        let r ← r.add? path key v
        let s ← endLine? s
        readLines fuel r s

/-- The entries of a document. A byte order mark in front does not count. -/
def ofChars? (s : List Char) : Option Entries :=
  let s := match s with
    | c :: rest => if c.toNat = 0xFEFF then rest else c :: rest
    | [] => []
  (readLines (s.length + 1) ⟨[], []⟩ s).map (·.entries)

end HomeHub.Toml
