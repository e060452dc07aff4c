import HomeHub.Text.Reader

/-!
The words of TOML: blanks, comments, line ends, strings and keys.
-/

namespace HomeHub.Toml

/-- Blanks inside a line are space and tab. -/
def isBlank (c : Char) : Bool := c == ' ' || c == '\t'

def skipBlanks (s : List Char) : List Char := s.dropWhile isBlank

/-- Every character but the controls; tab is allowed. -/
def isPlain (c : Char) : Bool := c == '\t' || (0x20 ≤ c.toNat && c.toNat != 0x7F)

/-- The rest after a line end, which is a line feed with or without a carriage return. -/
def newline? : List Char → Option (List Char)
  | '\n' :: rest => some rest
  | '\r' :: '\n' :: rest => some rest
  | _ => none

/-- The rest after a comment, if one stands here. -/
def skipComment : List Char → List Char
  | '#' :: rest => rest.dropWhile isPlain
  | s => s

/-- The rest after blanks, a comment and a line end; the end of the text ends a line too. -/
def endLine? (s : List Char) : Option (List Char) :=
  match skipComment (skipBlanks s) with
  | [] => some []
  | s => newline? s

/-- Blanks, comments and line ends, as between the items of an array. -/
def skipLines : (fuel : Nat) → List Char → List Char
  | 0, s => s
  | fuel + 1, s =>
    match skipComment (skipBlanks s) with
    | [] => []
    | s =>
      match newline? s with
      | some rest => skipLines fuel rest
      | none => s

/-- A character by its code point. -/
def readCodePoint (digits : Nat) : Reader Char := fun s => do
  let (n, rest) ← Reader.hex digits 0 s
  if n.isValidChar then some (Char.ofNat n, rest) else none

/-- The character of an escape, after its backslash. -/
def readEscape : Reader Char
  | 'b' :: rest => some (Char.ofNat 0x08, rest)
  | 't' :: rest => some ('\t', rest)
  | 'n' :: rest => some ('\n', rest)
  | 'f' :: rest => some (Char.ofNat 0x0C, rest)
  | 'r' :: rest => some ('\r', rest)
  | '"' :: rest => some ('"', rest)
  | '\\' :: rest => some ('\\', rest)
  | 'u' :: rest => readCodePoint 4 rest
  | 'U' :: rest => readCodePoint 8 rest
  | _ => none

/-- The rest of a string in double quotes after its opening mark. -/
def readBasic : (fuel : Nat) → (acc : List Char) → Reader String
  | 0, _, _ => none
  | _, _, [] => none
  | fuel + 1, acc, c :: rest =>
    if c = '"' then some (String.ofList acc.reverse, rest)
    else if c = '\\' then do
      let (d, rest) ← readEscape rest
      readBasic fuel (d :: acc) rest
    else if isPlain c then readBasic fuel (c :: acc) rest
    else none

/-- The rest of a string in single quotes after its opening mark. -/
def readLiteral : (acc : List Char) → Reader String
  | _, [] => none
  | acc, c :: rest =>
    if c = '\'' then some (String.ofList acc.reverse, rest)
    else if isPlain c then readLiteral (c :: acc) rest
    else none

/-- The closing of a string in three marks: up to two more marks before it belong to the text. -/
def closeLong (mark : Char) (acc rest : List Char) : String × List Char :=
  let extra := min 2 (rest.takeWhile (· == mark)).length
  (String.ofList (acc.reverse ++ List.replicate extra mark), rest.drop extra)

/-- The rest after a backslash at a line end: it swallows all blanks and line ends. -/
def joinLines? (s : List Char) : Option (List Char) := do
  let rest ← newline? (skipBlanks s)
  return skip rest.length rest
where
  skip : (fuel : Nat) → List Char → List Char
    | 0, s => s
    | fuel + 1, s =>
      match newline? (skipBlanks s) with
      | some rest => skip fuel rest
      | none => skipBlanks s

/-- The rest of a string in three double quotes. A line end counts as a line feed. -/
def readLongBasic : (fuel : Nat) → (acc : List Char) → Reader String
  | 0, _, _ => none
  | _, _, [] => none
  | _, acc, '"' :: '"' :: '"' :: rest => some (closeLong '"' acc rest)
  | fuel + 1, acc, c :: rest =>
    if c = '\\' then
      match joinLines? rest with
      | some rest => readLongBasic fuel acc rest
      | none => do
        let (d, rest) ← readEscape rest
        readLongBasic fuel (d :: acc) rest
    else
      match newline? (c :: rest) with
      | some rest => readLongBasic fuel ('\n' :: acc) rest
      | none => if isPlain c then readLongBasic fuel (c :: acc) rest else none

/-- The rest of a string in three single quotes. -/
def readLongLiteral : (fuel : Nat) → (acc : List Char) → Reader String
  | 0, _, _ => none
  | _, _, [] => none
  | _, acc, '\'' :: '\'' :: '\'' :: rest => some (closeLong '\'' acc rest)
  | fuel + 1, acc, c :: rest =>
    match newline? (c :: rest) with
    | some rest => readLongLiteral fuel ('\n' :: acc) rest
    | none => if isPlain c then readLongLiteral fuel (c :: acc) rest else none

/-- A line end directly after the opening of a long string does not count. -/
def dropFirstNewline (s : List Char) : List Char := (newline? s).getD s

/-- A string in any of the four forms. -/
def readString : Reader String
  | '"' :: '"' :: '"' :: rest => let s := dropFirstNewline rest; readLongBasic (s.length + 1) [] s
  | '\'' :: '\'' :: '\'' :: rest =>
    let s := dropFirstNewline rest; readLongLiteral (s.length + 1) [] s
  | '"' :: rest => readBasic (rest.length + 1) [] rest
  | '\'' :: rest => readLiteral [] rest
  | _ => none

/-- The characters of a key without quotes. -/
def isBare (c : Char) : Bool := c.isAlphanum || c == '-' || c == '_'

/-- One part of a key. -/
def readKeyPart : Reader String
  | '"' :: rest => readBasic (rest.length + 1) [] rest
  | '\'' :: rest => readLiteral [] rest
  | s =>
    let word := s.takeWhile isBare
    if word.isEmpty then none else some (String.ofList word, s.dropWhile isBare)

/-- The parts of a dotted key, with blanks around them. -/
def readKeyParts : (fuel : Nat) → (acc : List String) → Reader (List String)
  | 0, _, _ => none
  | fuel + 1, acc, s => do
    let (part, s) ← readKeyPart (skipBlanks s)
    match skipBlanks s with
    | '.' :: s => readKeyParts fuel (part :: acc) s
    | s => some ((part :: acc).reverse, s)

/-- How deep values may nest, and how many parts a key may have, plus one. -/
def depthLimit : Nat := 80

/-- A key as the path to its table and its last part. -/
def readKey : Reader (List String × String) := fun s => do
  let (parts, s) ← readKeyParts (s.length + 1) [] s
  let last ← parts.getLast?
  if parts.length < depthLimit then some ((parts.dropLast, last), s) else none

end HomeHub.Toml
