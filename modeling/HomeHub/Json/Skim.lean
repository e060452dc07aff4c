import HomeHub.Json.Parser

/-!
Reading past values that nobody asked for. Only their grammar is checked: not the range of a
number, not the pairing of surrogates, not the encoding of a string, and not the nesting depth.
The text is given byte by byte, as the Latin-1 characters of those codes.
-/

namespace HomeHub.Json

/-- The bytes of a text as one character each. -/
def latin1 (bs : Bytes) : List Char := bs.map fun b => Char.ofNat b.toNat

/-- The rest after an escape whose backslash has been read. -/
def skimEscape : List Char → Option (List Char)
  | [] => none
  | c :: rest =>
    if c = 'u' then (Reader.hex 4 0 rest).map (·.2)
    else if c = '"' ∨ c = '\\' ∨ c = '/' ∨ c = 'b' ∨ c = 'f' ∨ c = 'n' ∨ c = 'r' ∨ c = 't' then
      some rest
    else none

/-- The rest after a string literal whose opening quotation mark has been read. -/
def skimString : (fuel : Nat) → List Char → Option (List Char)
  | 0, _ => none
  | _, [] => none
  | fuel + 1, c :: rest =>
    if c = '"' then some rest
    else if c = '\\' then (skimEscape rest).bind (skimString fuel)
    else if c.toNat < 0x20 then none
    else skimString fuel rest

/-- Reads past a value. -/
def skim : (fuel : Nat) → Reader Unit
  | 0, _ => none
  | _, 'n' :: 'u' :: 'l' :: 'l' :: rest => some ((), rest)
  | _, 't' :: 'r' :: 'u' :: 'e' :: rest => some ((), rest)
  | _, 'f' :: 'a' :: 'l' :: 's' :: 'e' :: rest => some ((), rest)
  | _, '"' :: rest => (skimString (rest.length + 1) rest).map fun r => ((), r)
  | fuel + 1, '[' :: rest => (readEnclosed (skim fuel) ']' rest).map fun r => ((), r.2)
  | fuel + 1, '{' :: rest =>
    let member : Reader Unit := fun s => match s with
      | '"' :: s => do
        match skipSpace (← skimString (s.length + 1) s) with
        | ':' :: s => skim fuel (skipSpace s)
        | _ => none
      | _ => none
    (readEnclosed member '}' rest).map fun r => ((), r.2)
  | _, s => (numeral s).map fun r => ((), r.2)

/-- Reads past a value of any depth. -/
def skimValue : Reader Unit := fun s => skim (s.length + 1) s

/-- A key in a byte-wise text; its bytes must be UTF-8. A character beyond ASCII is not told apart
from the bytes that spell it. -/
def readKey : Reader String := fun s => do
  let (key, rest) ← readString s
  let written := (s.take (s.length - rest.length)).map fun c => UInt8.ofNat c.toNat
  if (Utf8.decode? written).isSome then return (key, rest) else none

end HomeHub.Json
