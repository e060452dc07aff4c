import HomeHub.Json.Number
import HomeHub.Text.Reader
import HomeHub.Text.Utf8

/-!
Strict reading of JSON text: one document of at most 127 nested arrays and objects, with blanks
around its parts and nothing after it. The members of an object are put in ascending order, and
of one key the last counts.
-/

namespace HomeHub.Json

/-- Blanks are space, tab, line feed and carriage return. -/
def isSpace (c : Char) : Bool := c == ' ' || c == '\t' || c == '\n' || c == '\r'

def skipSpace (s : List Char) : List Char := s.dropWhile isSpace

/-- The character of a `\u` escape: a code unit, or a high and a low surrogate in two escapes. -/
def readUnicode : Reader Char := fun s => do
  let (hi, rest) ← Reader.hex 4 0 s
  if 0xD800 ≤ hi ∧ hi < 0xDC00 then
    match rest with
    | '\\' :: 'u' :: rest => do
      let (lo, rest) ← Reader.hex 4 0 rest
      if 0xDC00 ≤ lo ∧ lo < 0xE000 then
        return (Char.ofNat (0x10000 + (hi - 0xD800) * 0x400 + (lo - 0xDC00)), rest)
      else none
    | _ => none
  else if 0xDC00 ≤ hi ∧ hi < 0xE000 then none
  else return (Char.ofNat hi, rest)

/-- The character of an escape, after its backslash. -/
def readEscape : Reader Char
  | [] => none
  | c :: rest =>
    if c = '"' ∨ c = '\\' ∨ c = '/' then some (c, rest)
    else if c = 'b' then some (Char.ofNat 0x08, rest)
    else if c = 'f' then some (Char.ofNat 0x0C, rest)
    else if c = 'n' then some ('\n', rest)
    else if c = 'r' then some ('\r', rest)
    else if c = 't' then some ('\t', rest)
    else if c = 'u' then readUnicode rest
    else none

theorem readUnicode_length {s r : List Char} {c : Char} (h : readUnicode s = some (c, r)) :
    r.length < s.length := by
  simp only [readUnicode, Option.bind_eq_bind, Option.bind_eq_some_iff, Prod.exists] at h
  obtain ⟨hi, t, ht, h⟩ := h
  have h1 := Reader.length_hex ht
  split at h
  · split at h
    · simp only [Option.bind_eq_some_iff, Prod.exists] at h
      obtain ⟨lo, u, hu, h⟩ := h
      have h2 := Reader.length_hex hu
      split at h
      · simp only [Option.pure_def, Option.some.injEq, Prod.mk.injEq] at h
        obtain ⟨_, rfl⟩ := h
        simp only [List.length_cons] at h1
        omega
      · simp at h
    · simp at h
  · split at h
    · simp at h
    · simp only [Option.pure_def, Option.some.injEq, Prod.mk.injEq] at h
      obtain ⟨_, rfl⟩ := h
      omega

theorem readEscape_length {s r : List Char} {c : Char} (h : readEscape s = some (c, r)) :
    r.length < s.length := by
  unfold readEscape at h
  split at h
  · simp at h
  · rename_i d rest
    by_cases hu : d = 'u'
    · subst hu
      simp only [Char.reduceEq, or_self, if_false, if_true] at h
      have := readUnicode_length h
      simp only [List.length_cons]
      omega
    · repeat' split at h
      all_goals first
        | (simp only [Option.some.injEq, Prod.mk.injEq] at h; obtain ⟨_, rfl⟩ := h; simp)
        | contradiction

/-- The rest of a string literal after its opening quotation mark; `acc` holds the characters read
so far, the latest first. -/
def readStringTail (acc : List Char) (s : List Char) : Option (String × List Char) :=
  match s with
  | [] => none
  | c :: rest =>
    if c = '"' then some (String.ofList acc.reverse, rest)
    else if c = '\\' then
      match h : readEscape rest with
      | some (d, rest') =>
        have := readEscape_length h
        readStringTail (d :: acc) rest'
      | none => none
    else if c.toNat < 0x20 then none
    else readStringTail (c :: acc) rest
termination_by s.length
decreasing_by all_goals simp only [List.length_cons]; omega

def readString : Reader String
  | '"' :: rest => readStringTail [] rest
  | _ => none

/-- One or more items with commas between them, up to `close`. -/
def readItems {α : Type} (item : Reader α) (close : Char) :
    (fuel : Nat) → (acc : List α) → Reader (List α)
  | 0, _, _ => none
  | fuel + 1, acc, s => do
    let (x, s) ← item (skipSpace s)
    match skipSpace s with
    | [] => none
    | c :: s =>
      if c = ',' then readItems item close fuel (x :: acc) s
      else if c = close then some ((x :: acc).reverse, s)
      else none

/-- The items of an array or object after its opening bracket, possibly none. -/
def readEnclosed {α : Type} (item : Reader α) (close : Char) : Reader (List α) := fun s =>
  match skipSpace s with
  | [] => none
  | c :: rest => if c = close then some ([], rest) else readItems item close s.length [] s

/-- A key, a colon and a value. -/
def readMember {α : Type} (value : Reader α) : Reader (String × α) := fun s => do
  let (key, s) ← readString s
  match skipSpace s with
  | ':' :: s => do
    let (v, s) ← value (skipSpace s)
    return ((key, v), s)
  | _ => none

/-- A null, a truth value, a number or a string. -/
def readScalar : Reader Json
  | 'n' :: 'u' :: 'l' :: 'l' :: rest => some (.null, rest)
  | 't' :: 'r' :: 'u' :: 'e' :: rest => some (.bool true, rest)
  | 'f' :: 'a' :: 'l' :: 's' :: 'e' :: rest => some (.bool false, rest)
  | '"' :: rest => (readStringTail [] rest).map fun r => (.string r.1, r.2)
  | s => (readNumber s).map fun r => (.number r.1, r.2)

/-- A value with at most `depth` nested arrays and objects. -/
def readValue : (depth : Nat) → Reader Json
  | 0, s => readScalar s
  | depth + 1, s =>
    match s with
    | '[' :: rest => (readEnclosed (readValue depth) ']' rest).map fun r => (.array r.1, r.2)
    | '{' :: rest =>
      (readEnclosed (readMember (readValue depth)) '}' rest).map fun r =>
        (.object (sorted r.1), r.2)
    | s => readScalar s

/-- How deep a document may nest. -/
def maxDepth : Nat := 127

/-- The document that a text holds. -/
def ofChars? (s : List Char) : Option Json :=
  match readValue maxDepth (skipSpace s) with
  | some (v, rest) => if (skipSpace rest).isEmpty then some v else none
  | none => none

/-- The document that a UTF-8 text holds. -/
def ofBytes? (bs : Bytes) : Option Json := (Utf8.decode? bs).bind ofChars?

end HomeHub.Json
