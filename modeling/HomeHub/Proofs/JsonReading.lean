import Mathlib.Data.List.Forall2
import Mathlib.Tactic.Lemma
import Mathlib.Tactic.SplitIfs
import HomeHub.Json.Parser

/-!
A reader of JSON text looks at a piece of the text and not at what stands after it, except that a
number goes on as long as it can. So a value that has been read can be cut out and put into another
text, where it reads as the same value.
-/

namespace HomeHub.Json

variable {α β : Type} {s t u r : List Char} {c : Char}

/-! ### Pieces of text -/

/-- No number goes on here. -/
def Stops (t : List Char) : Prop :=
  ∀ c, t.head? = some c → Decimal.digit? c = none ∧ c ≠ '.' ∧ c ≠ 'e' ∧ c ≠ 'E'

/-- Another text stops a piece where this one does: it begins alike, or no number goes on there. -/
def Follows (r u : List Char) : Prop := u.head? = r.head? ∨ Stops u

/-- What is read is a piece of the text, and reads alike in front of any other text that stops
it. -/
def Local (read : Reader α) : Prop :=
  ∀ ⦃s x r⦄, read s = some (x, r) →
    ∃ t, s = t ++ r ∧ ∀ u, Follows r u → read (t ++ u) = some (x, u)

lemma stops_nil : Stops [] := fun _ hc => nomatch hc

lemma Follows.append (h : Follows r u) (t : List Char) : Follows (t ++ r) (t ++ u) := by
  cases t with
  | nil => exact h
  | cons c t => exact .inl rfl

namespace Local

lemma const (x : α) : Local fun s => some (x, s) := by
  intro s y r h
  obtain ⟨rfl, rfl⟩ : x = y ∧ s = r := by simpa using h
  exact ⟨[], rfl, fun u _ => rfl⟩

lemma refuse : Local fun _ => (none : Option (α × List Char)) := nofun

lemma bind {read : Reader α} {next : α × List Char → Option (β × List Char)} (hread : Local read)
    (hnext : ∀ x, Local fun s => next (x, s)) : Local fun s => read s >>= next := by
  intro s y r h
  obtain ⟨⟨x, s'⟩, hx, hy⟩ := Option.bind_eq_some_iff.mp h
  obtain ⟨t, rfl, ht⟩ := hread hx
  obtain ⟨t', rfl, ht'⟩ := hnext x hy
  refine ⟨t ++ t', (List.append_assoc ..).symm, fun u hu => ?_⟩
  simp only [List.append_assoc, ht _ (hu.append t')]
  exact ht' u hu

lemma map {read : Reader α} (hread : Local read) (f : α → β) :
    Local fun s => (read s).map fun r => (f r.1, r.2) := by
  intro s y r h
  obtain ⟨⟨x, s'⟩, hx, hy⟩ := Option.map_eq_some_iff.mp h
  obtain ⟨rfl, rfl⟩ : f x = y ∧ s' = r := by simpa using hy
  obtain ⟨t, rfl, ht⟩ := hread hx
  refine ⟨t, rfl, fun u hu => ?_⟩
  simp only [ht u hu, Option.map_some]

lemma exists_cons {read : Reader α} {x : α} (hread : Local read) (hnil : read [] = none)
    (h : read s = some (x, r)) :
    ∃ c t, s = c :: t ++ r ∧ ∀ u, Follows r u → read (c :: t ++ u) = some (x, u) := by
  obtain ⟨t, rfl, ht⟩ := hread h
  cases t with
  | nil =>
    have hnone := ht [] (.inr stops_nil)
    rw [List.append_nil, hnil] at hnone
    cases hnone
  | cons c t => exact ⟨c, t, rfl, ht⟩

lemma append {read : Reader α} {x : α} (hread : Local read) (h : read s = some (x, []))
    (hu : Stops u) : read (s ++ u) = some (x, u) := by
  obtain ⟨t, rfl, ht⟩ := hread h
  rw [List.append_nil]
  exact ht u (.inr hu)

end Local

/-! ### Numbers -/

lemma digit?_of_follows (hs : ∀ c, s.head? = some c → Decimal.digit? c = none)
    (h : Follows s u) : ∀ c, u.head? = some c → Decimal.digit? c = none := by
  rcases h with h | h
  · rwa [h]
  · exact fun c hc => (h c hc).1

lemma spanDigits_eq_nil (h : ∀ c, s.head? = some c → Decimal.digit? c = none) :
    spanDigits s = ([], s) := by
  cases s with
  | nil => rfl
  | cons c s => simp [spanDigits, h c rfl]

lemma exists_spanDigits {ds : List Nat} (h : spanDigits s = (ds, r)) :
    ∃ t, s = t ++ r ∧ ∀ u, Follows r u → spanDigits (t ++ u) = (ds, u) := by
  induction s generalizing ds with
  | nil =>
    obtain ⟨rfl, rfl⟩ := Prod.mk.inj h
    have hnil : ∀ c, ([] : List Char).head? = some c → Decimal.digit? c = none :=
      fun _ hc => nomatch hc
    exact ⟨[], rfl, fun u hu => spanDigits_eq_nil (digit?_of_follows hnil hu)⟩
  | cons c s ih =>
    rw [spanDigits] at h
    split at h
    · rename_i d hd
      obtain ⟨rfl, rfl⟩ := Prod.mk.inj h
      obtain ⟨t, ht, hread⟩ := ih rfl
      refine ⟨c :: t, congrArg (c :: ·) ht, fun u hu => ?_⟩
      simp [spanDigits, hd, hread u hu]
    · rename_i hd
      obtain ⟨rfl, rfl⟩ := Prod.mk.inj h
      refine ⟨[], rfl, fun u hu => spanDigits_eq_nil (digit?_of_follows ?_ hu)⟩
      rintro d ⟨⟩
      exact hd

lemma local_wholePart : Local wholePart := by
  intro s ds r h
  unfold wholePart at h
  rcases hspan : spanDigits s with ⟨ds', r'⟩
  obtain ⟨t, rfl, ht⟩ := exists_spanDigits hspan
  rw [hspan] at h
  obtain ⟨rfl, rfl⟩ : ds' = ds ∧ r' = r := by
    split at h <;> simp_all
  refine ⟨t, rfl, fun u hu => ?_⟩
  rw [wholePart, ht u hu]
  split at h <;> simp_all

lemma fractionPart_of_ne (h : s.head? ≠ some '.') : fractionPart s = some (none, s) := by
  unfold fractionPart
  split
  · exact absurd rfl h
  · rfl

lemma local_fractionPart : Local fractionPart := by
  intro s f r h
  by_cases hs : s.head? = some '.'
  · obtain ⟨rest, rfl⟩ := List.head?_eq_some_iff.mp hs
    rcases hspan : spanDigits rest with ⟨ds, r'⟩
    obtain ⟨t, rfl, ht⟩ := exists_spanDigits hspan
    simp only [fractionPart, hspan] at h
    obtain ⟨rfl, rfl⟩ : some ds = f ∧ r' = r := by
      split at h <;> simp_all
    refine ⟨'.' :: t, rfl, fun u hu => ?_⟩
    simp only [List.cons_append, fractionPart, ht u hu]
    split at h <;> simp_all
  · rw [fractionPart_of_ne hs] at h
    obtain ⟨rfl, rfl⟩ : none = f ∧ s = r := by simpa using h
    refine ⟨[], rfl, fun u hu => fractionPart_of_ne ?_⟩
    rcases hu with hu | hu
    · exact fun hc => hs (hu.symm.trans hc)
    · exact fun hc => (hu _ hc).2.1 rfl

lemma exponentSign_of_ne (hplus : s.head? ≠ some '+') (hminus : s.head? ≠ some '-') :
    exponentSign s = (false, s) := by
  unfold exponentSign
  split
  · exact absurd rfl hplus
  · exact absurd rfl hminus
  · rfl

/-- The sign of an exponent is told from the digit after it by the next character. -/
lemma exists_exponentSign {negative : Bool} (h : exponentSign s = (negative, r)) :
    ∃ t, s = t ++ r ∧ ∀ u, u.head? = r.head? → exponentSign (t ++ u) = (negative, u) := by
  by_cases hplus : s.head? = some '+'
  · obtain ⟨rest, rfl⟩ := List.head?_eq_some_iff.mp hplus
    obtain ⟨rfl, rfl⟩ := Prod.mk.inj h
    exact ⟨['+'], rfl, fun u _ => rfl⟩
  by_cases hminus : s.head? = some '-'
  · obtain ⟨rest, rfl⟩ := List.head?_eq_some_iff.mp hminus
    obtain ⟨rfl, rfl⟩ := Prod.mk.inj h
    exact ⟨['-'], rfl, fun u _ => rfl⟩
  rw [exponentSign_of_ne hplus hminus] at h
  obtain ⟨rfl, rfl⟩ := Prod.mk.inj h
  exact ⟨[], rfl, fun u hu => exponentSign_of_ne (hu ▸ hplus) (hu ▸ hminus)⟩

lemma exponentPart_of_ne (h : ∀ c, s.head? = some c → ¬ (c = 'e' ∨ c = 'E')) :
    exponentPart s = some (none, s) := by
  cases s with
  | nil => rfl
  | cons c s => rw [exponentPart, if_neg (h c rfl)]

lemma local_exponentPart : Local exponentPart := by
  intro s x r h
  by_cases hs : ∃ c, s.head? = some c ∧ (c = 'e' ∨ c = 'E')
  · obtain ⟨c, hc, hmark⟩ := hs
    obtain ⟨rest, rfl⟩ := List.head?_eq_some_iff.mp hc
    rcases hsign : exponentSign rest with ⟨negative, s'⟩
    rcases hspan : spanDigits s' with ⟨ds, r'⟩
    obtain ⟨t, rfl, ht⟩ := exists_exponentSign hsign
    obtain ⟨t', rfl, ht'⟩ := exists_spanDigits hspan
    simp only [exponentPart, if_pos hmark, hsign, hspan] at h
    obtain ⟨rfl, rfl, hne⟩ : some (negative, ds) = x ∧ r' = r ∧ ds ≠ [] := by
      split at h <;> simp_all
    -- there is a digit, and so the sign is followed by it
    have hdigit : t' ≠ [] := by
      rintro rfl
      have hnil := ht' [] (.inr stops_nil)
      exact hne (Prod.mk.inj hnil).1.symm
    refine ⟨c :: t ++ t', by simp, fun u hu => ?_⟩
    have hhead : (t' ++ u).head? = (t' ++ r').head? := by
      rw [List.head?_append, List.head?_append, List.head?_eq_some_head hdigit]
      rfl
    simp only [List.cons_append, List.append_assoc, exponentPart, if_pos hmark, ht _ hhead,
      ht' u hu]
  · have hne : ∀ c, s.head? = some c → ¬ (c = 'e' ∨ c = 'E') :=
      fun c hc hmark => hs ⟨c, hc, hmark⟩
    rw [exponentPart_of_ne hne] at h
    obtain ⟨rfl, rfl⟩ : none = x ∧ s = r := by simpa using h
    refine ⟨[], rfl, fun u hu => exponentPart_of_ne fun c hc => ?_⟩
    rcases hu with hu | hu
    · exact hne c (hu ▸ hc)
    · exact not_or.mpr (hu c hc).2.2

/-- A numeral after its sign. -/
def unsigned (negative : Bool) : Reader Numeral := fun s => do
  let (whole, s) ← wholePart s
  let (fraction, s) ← fractionPart s
  let (exponent, s) ← exponentPart s
  return (⟨negative, whole, fraction, exponent⟩, s)

lemma numeral_minus : numeral ('-' :: s) = unsigned true s := rfl

lemma numeral_of_ne (hc : c ≠ '-') : numeral (c :: s) = unsigned false (c :: s) := by
  unfold numeral
  split
  rename_i h
  split at h
  · rename_i h'
    exact absurd (List.cons.inj h').1 hc
  · obtain ⟨rfl, rfl⟩ := Prod.mk.inj h
    rfl

lemma local_unsigned (negative : Bool) : Local (unsigned negative) :=
  local_wholePart.bind fun whole => local_fractionPart.bind fun fraction =>
    local_exponentPart.bind fun exponent => .const (Numeral.mk negative whole fraction exponent)

lemma local_numeral : Local numeral := by
  intro s n r h
  cases s with
  | nil => simp [numeral, wholePart, spanDigits] at h
  | cons c s =>
    by_cases hc : c = '-'
    · subst hc
      obtain ⟨t, rfl, ht⟩ := local_unsigned true h
      exact ⟨'-' :: t, rfl, ht⟩
    · rw [numeral_of_ne hc] at h
      obtain ⟨d, t, hs, ht⟩ := (local_unsigned false).exists_cons rfl h
      obtain ⟨rfl, rfl⟩ := List.cons.inj hs
      exact ⟨c :: t, rfl, fun u hu => (numeral_of_ne hc).trans (ht u hu)⟩

lemma local_readNumber : Local readNumber := by
  refine local_numeral.bind fun n => ?_
  intro s v r h
  obtain ⟨v', hv, hr⟩ := Option.bind_eq_some_iff.mp h
  obtain ⟨rfl, rfl⟩ : v' = v ∧ s = r := by simpa using hr
  refine ⟨[], rfl, fun u _ => ?_⟩
  simp only [hv]
  rfl

lemma readNumber_eq_none (hc : c ≠ '-') (hd : Decimal.digit? c = none) :
    readNumber (c :: s) = none := by
  simp [readNumber, numeral_of_ne hc, unsigned, wholePart, spanDigits, hd]

lemma ne_of_readNumber {n : Number} (h : readNumber s = some (n, r)) (hc : c ≠ '-')
    (hd : Decimal.digit? c = none) (t : List Char) : s ≠ c :: t := by
  rintro rfl
  rw [readNumber_eq_none hc hd] at h
  cases h

/-! ### Strings -/

lemma local_hex (count acc : Nat) : Local (Reader.hex count acc) := by
  induction count generalizing acc with
  | zero => exact .const acc
  | succ count ih =>
    intro s n r h
    cases s with
    | nil => cases h
    | cons c s =>
      obtain ⟨d, hd, h⟩ := Option.bind_eq_some_iff.mp h
      obtain ⟨t, rfl, ht⟩ := ih _ h
      refine ⟨c :: t, rfl, fun u hu => ?_⟩
      rw [List.cons_append, Reader.hex, hd]
      exact ht u hu

lemma local_readUnicode : Local readUnicode := by
  refine (local_hex 4 0).bind fun hi => ?_
  dsimp only
  by_cases hhigh : 0xD800 ≤ hi ∧ hi < 0xDC00
  · simp only [if_pos hhigh]
    intro s c r h
    dsimp only at h
    split at h
    · obtain ⟨⟨lo, s'⟩, hlo, hc⟩ := Option.bind_eq_some_iff.mp h
      obtain ⟨t, rfl, ht⟩ := local_hex 4 0 hlo
      split at hc
      · rename_i hrange
        obtain ⟨rfl, rfl⟩ := Prod.mk.inj (Option.some.inj hc)
        refine ⟨'\\' :: 'u' :: t, rfl, fun u hu => ?_⟩
        simp [ht u hu, hrange]
      · cases hc
    · cases h
  by_cases hlow : 0xDC00 ≤ hi ∧ hi < 0xE000
  · simp only [if_neg hhigh, if_pos hlow]
    exact .refuse
  · simp only [if_neg hhigh, if_neg hlow]
    exact .const (Char.ofNat hi)

lemma readEscape_of_ne {d : Char} (hc : c ≠ 'u') (h : readEscape (c :: s) = some (d, r)) :
    s = r ∧ ∀ u, readEscape (c :: u) = some (d, u) := by
  simp only [readEscape, if_neg hc] at h ⊢
  split_ifs at h ⊢ <;>
    simp only [Option.some.injEq, Prod.mk.injEq] at h <;>
    exact ⟨h.2, fun u => congrArg (fun d => some (d, u)) h.1⟩

lemma local_readEscape : Local readEscape := by
  intro s d r h
  cases s with
  | nil => cases h
  | cons c s =>
    by_cases hc : c = 'u'
    · subst hc
      obtain ⟨t, rfl, ht⟩ := local_readUnicode h
      exact ⟨'u' :: t, rfl, ht⟩
    · obtain ⟨rfl, hu⟩ := readEscape_of_ne hc h
      exact ⟨[c], rfl, fun u _ => hu u⟩

lemma readStringTail_escape {d : Char} (acc : List Char) (h : readEscape s = some (d, r)) :
    readStringTail acc ('\\' :: s) = readStringTail (d :: acc) r := by
  rw [readStringTail]
  simp only [Char.reduceEq, if_false, if_true]
  split
  · rename_i d' r' h'
    obtain ⟨rfl, rfl⟩ : d = d' ∧ r = r' := by simpa using h.symm.trans h'
    rfl
  · rename_i h'
    rw [h] at h'
    cases h'

lemma local_readStringTail (acc : List Char) : Local (readStringTail acc) := by
  intro s x r h
  fun_induction readStringTail acc s with
  | case1 => cases h
  | case2 acc rest =>
    obtain ⟨rfl, rfl⟩ : String.ofList acc.reverse = x ∧ rest = r := by simpa using h
    refine ⟨['"'], rfl, fun u _ => ?_⟩
    rw [List.singleton_append, readStringTail, if_pos rfl]
  | case3 acc rest d rest' hd _ _ ih =>
    obtain ⟨t, rfl, ht⟩ := local_readEscape hd
    obtain ⟨t', rfl, ht'⟩ := ih h
    refine ⟨'\\' :: t ++ t', by simp, fun u hu => ?_⟩
    rw [List.append_assoc, List.cons_append, readStringTail_escape acc (ht _ (hu.append t'))]
    exact ht' u hu
  | case4 => cases h
  | case5 => cases h
  | case6 acc c rest hquote hslash hcontrol ih =>
    obtain ⟨t, rfl, ht⟩ := ih h
    refine ⟨c :: t, rfl, fun u hu => ?_⟩
    rw [List.cons_append, readStringTail, if_neg hquote, if_neg hslash, if_neg hcontrol]
    exact ht u hu

lemma local_readString : Local readString := by
  intro s x r h
  unfold readString at h
  split at h
  · obtain ⟨t, rfl, ht⟩ := local_readStringTail [] h
    exact ⟨'"' :: t, rfl, ht⟩
  · cases h

/-! ### Blanks -/

/-- Nothing but blanks. -/
def Blank (s : List Char) : Prop := ∀ c ∈ s, isSpace c = true

lemma blank_nil : Blank [] := fun _ hc => nomatch hc

lemma skipSpace_of_not_isSpace (h : isSpace c = false) (s : List Char) :
    skipSpace (c :: s) = c :: s := by
  simp [skipSpace, h]

lemma skipSpace_append (h : Blank t) (s : List Char) : skipSpace (t ++ s) = skipSpace s :=
  List.dropWhile_append_of_pos h

lemma exists_blank (s : List Char) : ∃ t, Blank t ∧ s = t ++ skipSpace s ∧
    ∀ c, (skipSpace s).head? = some c → isSpace c = false := by
  induction s with
  | nil => exact ⟨[], blank_nil, rfl, fun _ hc => nomatch hc⟩
  | cons c s ih =>
    rcases hc : isSpace c with _ | _
    · rw [skipSpace_of_not_isSpace hc]
      refine ⟨[], blank_nil, rfl, ?_⟩
      rintro d ⟨⟩
      exact hc
    · obtain ⟨t, ht, hs, hnext⟩ := ih
      have hskip : skipSpace (c :: s) = skipSpace s := by simp [skipSpace, hc]
      rw [hskip]
      exact ⟨c :: t, List.forall_mem_cons.mpr ⟨hc, ht⟩, congrArg (c :: ·) hs, hnext⟩

lemma skipSpace_blank (h : Blank s) : skipSpace s = [] := by
  have := skipSpace_append h []
  rwa [List.append_nil] at this

lemma blank_of_skipSpace (h : skipSpace s = []) : Blank s := by
  obtain ⟨t, ht, hs, -⟩ := exists_blank s
  rwa [hs, h, List.append_nil]

/-- A blank, a comma or a closing bracket: what can stand after a value, and no value begins
with. -/
def Delimits (c : Char) : Prop := isSpace c = true ∨ c = ',' ∨ c = ']' ∨ c = '}'

lemma Delimits.cases (h : Delimits c) :
    c = ' ' ∨ c = '\t' ∨ c = '\n' ∨ c = '\r' ∨ c = ',' ∨ c = ']' ∨ c = '}' := by
  simpa [Delimits, isSpace, or_assoc] using h

lemma stops_cons (hc : Delimits c) (s : List Char) : Stops (c :: s) := by
  rintro d ⟨⟩
  rcases hc.cases with rfl | rfl | rfl | rfl | rfl | rfl | rfl <;> decide

lemma Blank.stops_append (h : Blank t) (hs : Stops s) : Stops (t ++ s) := by
  cases t with
  | nil => exact hs
  | cons c t => exact stops_cons (.inl (h c (List.mem_cons_self ..))) _

namespace Local

/-- Blanks in front do not matter to a reader that takes a character at least. -/
lemma skipSpace {read : Reader α} (hread : Local read) (hnil : read [] = none) :
    Local fun s => read (skipSpace s) := by
  intro s x r h
  obtain ⟨b, hb, hs, hnext⟩ := exists_blank s
  obtain ⟨c, t, hct, ht⟩ := hread.exists_cons hnil h
  have hc : isSpace c = false := hnext c (by rw [hct]; rfl)
  refine ⟨b ++ c :: t, ?_, fun u hu => ?_⟩
  · rw [List.append_assoc, ← hct]
    exact hs
  · have hskip : Json.skipSpace (b ++ c :: t ++ u) = c :: t ++ u := by
      rw [List.append_assoc, skipSpace_append hb]
      exact skipSpace_of_not_isSpace hc _
    simp only [hskip]
    exact ht u hu

end Local

/-! ### Items and members -/

/-- A text that is an item, with blanks around it. -/
def Reads (item : Reader α) (t : List Char) (x : α) : Prop :=
  ∃ r, item (skipSpace t) = some (x, r) ∧ Blank r

/-- The text of an enclosure: commas stand between the items, and blanks where there are none. -/
def Joins (inner : List Char) (texts : List (List Char)) : Prop :=
  inner = [','].intercalate texts ∨ texts = [] ∧ Blank inner

section

variable {item : Reader α} {close : Char} {x : α} {xs : List α} {texts : List (List Char)}

lemma Reads.append (h : Reads item t x) (hitem : Local item) (hnil : item [] = none)
    (hc : c = ',' ∨ c = ']' ∨ c = '}') (rest : List Char) :
    ∃ r, item (skipSpace (t ++ c :: rest)) = some (x, r) ∧ skipSpace r = c :: rest := by
  obtain ⟨b, hx, hb⟩ := h
  obtain ⟨t, rfl, ht⟩ := hitem.skipSpace hnil hx
  have hspace : isSpace c = false := by
    rcases hc with rfl | rfl | rfl <;> rfl
  refine ⟨b ++ c :: rest, ?_, ?_⟩
  · rw [List.append_assoc]
    exact ht _ (.inr (hb.stops_append (stops_cons (.inr hc) rest)))
  · rw [skipSpace_append hb, skipSpace_of_not_isSpace hspace]

lemma exists_reads (hitem : Local item) (hnil : item [] = none)
    (h : item (skipSpace s) = some (x, r)) (hr : skipSpace r = c :: u) :
    ∃ t, s = t ++ c :: u ∧ Reads item t x := by
  obtain ⟨b, hb, hblank, -⟩ := exists_blank r
  obtain ⟨t, rfl, ht⟩ := hitem.skipSpace hnil h
  refine ⟨t ++ b, ?_, b, ht b ?_, hb⟩
  · rw [List.append_assoc, ← hr, ← hblank]
  · have := hb.stops_append stops_nil
    rw [List.append_nil] at this
    exact .inr this

lemma forall_mem_of_reads {P : α → Prop} (hitem : ∀ {s x r}, item s = some (x, r) → P x)
    (h : List.Forall₂ (Reads item) texts xs) : ∀ x ∈ xs, P x := by
  induction h with
  | nil => exact fun _ hx => nomatch hx
  | cons hx _ ih =>
    obtain ⟨r, hr, -⟩ := hx
    exact List.forall_mem_cons.mpr ⟨hitem hr, ih⟩

lemma readItems_of_reads (hitem : Local item) (hnil : item [] = none)
    (hclose : close = ']' ∨ close = '}') (hx : Reads item t x)
    (hxs : List.Forall₂ (Reads item) texts xs) (fuel : Nat) (hfuel : texts.length < fuel)
    (acc : List α) (rest : List Char) :
    readItems item close fuel acc ([','].intercalate (t :: texts) ++ close :: rest) =
      some (acc.reverse ++ x :: xs, rest) := by
  induction hxs generalizing t x fuel acc with
  | nil =>
    obtain ⟨fuel, rfl⟩ : ∃ n, fuel = n + 1 := ⟨fuel - 1, by omega⟩
    obtain ⟨r, hr, hskip⟩ := hx.append hitem hnil (.inr hclose) rest
    have hne : close ≠ ',' := by
      rcases hclose with rfl | rfl <;> decide
    simp only [List.intercalate_singleton, readItems, hr, hskip, Option.bind_eq_bind,
      Option.bind_some, if_neg hne, if_true, List.reverse_cons]
  | @cons t' x' texts xs hx' _ ih =>
    rw [List.length_cons] at hfuel
    obtain ⟨fuel, rfl⟩ : ∃ n, fuel = n + 1 := ⟨fuel - 1, by omega⟩
    have hcons : [','].intercalate (t :: t' :: texts) ++ close :: rest =
        t ++ ',' :: ([','].intercalate (t' :: texts) ++ close :: rest) := by
      simp [List.intercalate_cons_cons]
    obtain ⟨r, hr, hskip⟩ := hx.append hitem hnil (.inl rfl)
      ([','].intercalate (t' :: texts) ++ close :: rest)
    rw [hcons, readItems]
    simp only [hr, hskip, Option.bind_eq_bind, Option.bind_some, if_true]
    rw [ih hx' fuel (by omega)]
    simp

lemma exists_reads_of_readItems (hitem : Local item) (hnil : item [] = none) {fuel : Nat}
    {acc : List α} (h : readItems item close fuel acc s = some (xs, r)) :
    ∃ t texts y ys, s = [','].intercalate (t :: texts) ++ close :: r ∧
      xs = acc.reverse ++ y :: ys ∧ List.Forall₂ (Reads item) (t :: texts) (y :: ys) := by
  induction fuel generalizing acc s with
  | zero => cases h
  | succ fuel ih =>
    obtain ⟨⟨y, s'⟩, hy, hrest⟩ := Option.bind_eq_some_iff.mp h
    dsimp only at hrest
    split at hrest
    · cases hrest
    rename_i c s'' hskip
    obtain ⟨t, rfl, ht⟩ := exists_reads hitem hnil hy hskip
    split_ifs at hrest with hcomma hclose
    · obtain ⟨t', texts, y', ys, rfl, rfl, hys⟩ := ih hrest
      refine ⟨t, t' :: texts, y, y' :: ys, ?_, by simp, .cons ht hys⟩
      simp [List.intercalate_cons_cons, hcomma]
    · obtain ⟨rfl, rfl⟩ := Prod.mk.inj (Option.some.inj hrest)
      exact ⟨t, [], y, [], by simp [hclose], by simp, .cons ht .nil⟩

lemma item_of_readItems {fuel : Nat} {acc : List α}
    (h : readItems item close fuel acc s = some (xs, r)) : ∃ y, item (skipSpace s) = some y := by
  cases fuel with
  | zero => cases h
  | succ fuel =>
    obtain ⟨y, hy, -⟩ := Option.bind_eq_some_iff.mp h
    exact ⟨y, hy⟩

lemma length_intercalate (t : List Char) (texts : List (List Char)) :
    texts.length ≤ ([','].intercalate (t :: texts)).length := by
  induction texts generalizing t with
  | nil => exact Nat.zero_le _
  | cons t' texts ih =>
    have := ih t'
    simp only [List.intercalate_cons_cons, List.length_append, List.length_cons] at this ⊢
    omega

/-- **What an enclosure reads as is what its items read as**, one by one. -/
theorem readEnclosed_iff (hitem : Local item) (hnil : item [] = none)
    (hclose : close = ']' ∨ close = '}') (hne : ∀ s, item (close :: s) = none) :
    readEnclosed item close s = some (xs, r) ↔ ∃ inner texts, s = inner ++ close :: r ∧
      Joins inner texts ∧ List.Forall₂ (Reads item) texts xs := by
  have hspace : isSpace close = false := by
    rcases hclose with rfl | rfl <;> rfl
  constructor
  · intro h
    unfold readEnclosed at h
    split at h
    · cases h
    rename_i c rest hskip
    split_ifs at h with hc
    · obtain ⟨rfl, rfl⟩ := Prod.mk.inj (Option.some.inj h)
      obtain ⟨b, hb, hs, -⟩ := exists_blank s
      exact ⟨b, [], by rw [hs, hskip, hc], .inr ⟨rfl, hb⟩, .nil⟩
    · obtain ⟨t, texts, y, ys, rfl, rfl, hys⟩ := exists_reads_of_readItems hitem hnil h
      exact ⟨_, t :: texts, rfl, .inl rfl, hys⟩
  · rintro ⟨inner, texts, rfl, hinner, hxs⟩
    cases hxs with
    | nil =>
      have hblank : Blank inner := by
        rcases hinner with rfl | ⟨-, h⟩
        · exact blank_nil
        · exact h
      rw [readEnclosed, skipSpace_append hblank, skipSpace_of_not_isSpace hspace]
      simp
    | @cons t x texts xs hx hxs =>
      obtain rfl : inner = [','].intercalate (t :: texts) := by
        rcases hinner with h | ⟨h, -⟩
        · exact h
        · cases h
      have hfuel : texts.length < ([','].intercalate (t :: texts) ++ close :: r).length := by
        have := length_intercalate t texts
        rw [List.length_append, List.length_cons]
        omega
      have hread := readItems_of_reads hitem hnil hclose hx hxs _ hfuel [] r
      obtain ⟨y, hy⟩ := item_of_readItems hread
      unfold readEnclosed
      split
      · rename_i hskip
        rw [hskip, hnil] at hy
        cases hy
      · rename_i c rest hskip
        rw [if_neg, hread]
        · rfl
        · rintro rfl
          rw [hskip, hne] at hy
          cases hy

lemma local_readEnclosed (hitem : Local item) (hnil : item [] = none)
    (hclose : close = ']' ∨ close = '}') (hne : ∀ s, item (close :: s) = none) :
    Local (readEnclosed item close) := by
  intro s xs r h
  obtain ⟨inner, texts, rfl, hinner, hxs⟩ := (readEnclosed_iff hitem hnil hclose hne).mp h
  refine ⟨inner ++ [close], by simp, fun u _ => ?_⟩
  rw [List.append_assoc, List.singleton_append]
  exact (readEnclosed_iff hitem hnil hclose hne).mpr ⟨inner, texts, rfl, hinner, hxs⟩

end

/-! ### Values -/

lemma readMember_eq_some_iff {value : Reader α} {m : String × α} :
    readMember value s = some (m, r) ↔ ∃ s₁ s₂, readString s = some (m.1, s₁) ∧
      skipSpace s₁ = ':' :: s₂ ∧ value (skipSpace s₂) = some (m.2, r) := by
  constructor
  · intro h
    obtain ⟨⟨key, s₁⟩, hkey, h⟩ := Option.bind_eq_some_iff.mp h
    dsimp only at h
    split at h
    · rename_i s₂ hcolon
      obtain ⟨⟨v, r'⟩, hv, h⟩ := Option.bind_eq_some_iff.mp h
      obtain ⟨rfl, rfl⟩ := Prod.mk.inj (Option.some.inj h)
      exact ⟨s₁, s₂, hkey, hcolon, hv⟩
    · cases h
  · rintro ⟨s₁, s₂, hkey, hcolon, hv⟩
    simp [readMember, hkey, hcolon, hv]

lemma local_readMember {value : Reader α} (hvalue : Local value) (hnil : value [] = none) :
    Local (readMember value) := by
  intro s m r h
  obtain ⟨s₁, s₂, hkey, hcolon, hv⟩ := readMember_eq_some_iff.mp h
  obtain ⟨t, rfl, ht⟩ := local_readString hkey
  obtain ⟨b, hb, hs, -⟩ := exists_blank s₁
  obtain ⟨t', rfl, ht'⟩ := hvalue.skipSpace hnil hv
  rw [hcolon] at hs
  subst hs
  refine ⟨t ++ (b ++ ':' :: t'), by simp, fun u hu => ?_⟩
  refine readMember_eq_some_iff.mpr ⟨b ++ ':' :: (t' ++ u), t' ++ u, ?_, ?_, ht' u hu⟩
  · have hfollows := (hu.append (':' :: t')).append b
    simpa using ht _ hfollows
  · rw [skipSpace_append hb, skipSpace_of_not_isSpace (by decide)]

lemma readScalar_eq_none (hc : Delimits c) : readScalar (c :: s) = none := by
  have hnumber : readNumber (c :: s) = none := by
    refine readNumber_eq_none ?_ (stops_cons hc s c rfl).1
    rintro rfl
    have := hc.cases
    revert this
    decide
  rcases hc.cases with rfl | rfl | rfl | rfl | rfl | rfl | rfl <;> simp [readScalar, hnumber]

lemma readScalar_of_readNumber {n : Number} (h : readNumber s = some (n, r)) :
    readScalar s = some (.number n, r) := by
  unfold readScalar
  split
  · exact absurd rfl (ne_of_readNumber h (by decide) (by decide) _)
  · exact absurd rfl (ne_of_readNumber h (by decide) (by decide) _)
  · exact absurd rfl (ne_of_readNumber h (by decide) (by decide) _)
  · exact absurd rfl (ne_of_readNumber h (by decide) (by decide) _)
  · rw [h]
    rfl

lemma ne_object_of_readScalar {v : Json} (h : readScalar s = some (v, r))
    (ms : List (String × Json)) : v ≠ .object ms := by
  rintro rfl
  unfold readScalar at h
  split at h <;> simp at h

lemma local_readScalar : Local readScalar := by
  intro s x r h
  unfold readScalar at h
  split at h
  · obtain ⟨rfl, rfl⟩ := Prod.mk.inj (Option.some.inj h)
    exact ⟨['n', 'u', 'l', 'l'], rfl, fun u _ => rfl⟩
  · obtain ⟨rfl, rfl⟩ := Prod.mk.inj (Option.some.inj h)
    exact ⟨['t', 'r', 'u', 'e'], rfl, fun u _ => rfl⟩
  · obtain ⟨rfl, rfl⟩ := Prod.mk.inj (Option.some.inj h)
    exact ⟨['f', 'a', 'l', 's', 'e'], rfl, fun u _ => rfl⟩
  · obtain ⟨t, rfl, ht⟩ := (local_readStringTail []).map Json.string h
    exact ⟨'"' :: t, rfl, ht⟩
  · obtain ⟨⟨n, r'⟩, hn, hx⟩ := Option.map_eq_some_iff.mp h
    obtain ⟨rfl, rfl⟩ : Json.number n = x ∧ r' = r := by simpa using hx
    obtain ⟨t, rfl, ht⟩ := local_readNumber hn
    exact ⟨t, rfl, fun u hu => readScalar_of_readNumber (ht u hu)⟩

lemma readValue_nil (n : Nat) : readValue n [] = none := by
  cases n <;> simp [readValue, readScalar, readNumber, numeral, wholePart, spanDigits]

lemma readValue_of_ne (n : Nat) (hc : c ≠ '[' ∧ c ≠ '{') :
    readValue n (c :: s) = readScalar (c :: s) := by
  cases n with
  | zero => rfl
  | succ n =>
    unfold readValue
    split
    · rename_i h
      exact absurd (List.cons.inj h).1 hc.1
    · rename_i h
      exact absurd (List.cons.inj h).1 hc.2
    · rfl

lemma readValue_eq_none (n : Nat) (hc : Delimits c) (s : List Char) :
    readValue n (c :: s) = none := by
  rw [readValue_of_ne, readScalar_eq_none hc]
  rcases hc.cases with rfl | rfl | rfl | rfl | rfl | rfl | rfl <;> decide

lemma readValue_of_readNumber {m : Number} (n : Nat) (h : readNumber s = some (m, r)) :
    readValue n s = some (.number m, r) := by
  cases s with
  | nil => simp [readNumber, numeral, wholePart, spanDigits] at h
  | cons c s =>
    have harray : c ≠ '[' := fun hc =>
      ne_of_readNumber h (by decide) (by decide) s (congrArg (· :: s) hc)
    have hobject : c ≠ '{' := fun hc =>
      ne_of_readNumber h (by decide) (by decide) s (congrArg (· :: s) hc)
    rw [readValue_of_ne n ⟨harray, hobject⟩, readScalar_of_readNumber h]

/-- A value is read off a text as it would be read off any other. -/
theorem local_readValue (n : Nat) : Local (readValue n) := by
  induction n with
  | zero => exact local_readScalar
  | succ n ih =>
    intro s x r h
    cases s with
    | nil =>
      rw [readValue_nil] at h
      cases h
    | cons c s =>
      by_cases harray : c = '['
      · subst harray
        have henclosed := local_readEnclosed ih (readValue_nil n) (.inl rfl)
          (readValue_eq_none n (.inr (.inr (.inl rfl))))
        obtain ⟨t, rfl, ht⟩ := henclosed.map Json.array h
        exact ⟨'[' :: t, rfl, ht⟩
      by_cases hobject : c = '{'
      · subst hobject
        have henclosed := local_readEnclosed (local_readMember ih (readValue_nil n)) rfl (.inr rfl)
          fun _ => rfl
        obtain ⟨t, rfl, ht⟩ := henclosed.map (fun ms => Json.object (sorted ms)) h
        exact ⟨'{' :: t, rfl, ht⟩
      · rw [readValue_of_ne _ ⟨harray, hobject⟩] at h
        obtain ⟨d, t, hs, ht⟩ := local_readScalar.exists_cons (readValue_nil 0) h
        obtain ⟨rfl, rfl⟩ := List.cons.inj hs
        exact ⟨c :: t, rfl, fun u hu =>
          (readValue_of_ne _ ⟨harray, hobject⟩).trans (ht u hu)⟩

/-- What an array of values reads as. -/
theorem readEnclosed_values_iff {n : Nat} {vs : List Json} :
    readEnclosed (readValue n) ']' s = some (vs, r) ↔ ∃ inner texts, s = inner ++ ']' :: r ∧
      Joins inner texts ∧ List.Forall₂ (Reads (readValue n)) texts vs :=
  readEnclosed_iff (local_readValue n) (readValue_nil n) (.inl rfl)
    (readValue_eq_none n (.inr (.inr (.inl rfl))))

/-- What the members of an object read as. -/
theorem readEnclosed_members_iff {n : Nat} {ms : List (String × Json)} :
    readEnclosed (readMember (readValue n)) '}' s = some (ms, r) ↔
      ∃ inner texts, s = inner ++ '}' :: r ∧ Joins inner texts ∧
        List.Forall₂ (Reads (readMember (readValue n))) texts ms :=
  readEnclosed_iff (local_readMember (local_readValue n) (readValue_nil n)) rfl (.inr rfl)
    fun _ => rfl

/-- An object is its members, put in ascending order. -/
theorem readValue_eq_object_iff {n : Nat} {ms : List (String × Json)} :
    readValue (n + 1) s = some (.object ms, r) ↔ ∃ inner texts members,
      s = '{' :: (inner ++ '}' :: r) ∧ Joins inner texts ∧
      List.Forall₂ (Reads (readMember (readValue n))) texts members ∧ sorted members = ms := by
  constructor
  · intro h
    unfold readValue at h
    split at h
    · obtain ⟨x, -, hx⟩ := Option.map_eq_some_iff.mp h
      cases (Prod.mk.inj hx).1
    · obtain ⟨⟨members, r'⟩, hread, hx⟩ := Option.map_eq_some_iff.mp h
      obtain ⟨hms, rfl⟩ := Prod.mk.inj hx
      obtain ⟨inner, texts, rfl, hinner, hmembers⟩ := readEnclosed_members_iff.mp hread
      exact ⟨inner, texts, members, rfl, hinner, hmembers, Json.object.inj hms⟩
    · exact absurd rfl (ne_object_of_readScalar h ms)
  · rintro ⟨inner, texts, members, rfl, hinner, hmembers, rfl⟩
    have hread : readEnclosed (readMember (readValue n)) '}' (inner ++ '}' :: r) =
        some (members, r) :=
      readEnclosed_members_iff.mpr ⟨inner, texts, rfl, hinner, hmembers⟩
    exact congrArg (Option.map _) hread

end HomeHub.Json
