import HomeHub.Proofs.JsonText
import HomeHub.Proofs.SettingsLaws

/-!
What the record of settings in range is read as. The target temperature is the one that its own text
is read as, so the settings are read back if that is the target itself.
-/

namespace HomeHub

/-! ### The text of a number -/

namespace Shortest

variable {P : Char → Prop}

lemma forall_mem_digits (hdigit : ∀ d < 10, P (HomeHub.Decimal.digitChar d)) (n : Nat) :
    ∀ c ∈ HomeHub.Decimal.chars n, P c := by
  intro c hc
  obtain ⟨d, hd, rfl⟩ := List.mem_map.mp hc
  exact hdigit d (HomeHub.Decimal.lt_of_mem_digits hd)

lemma forall_mem_layout (hdigit : ∀ d < 10, P (HomeHub.Decimal.digitChar d))
    (hmark : P '.' ∧ P 'e' ∧ P '+' ∧ P '-') (d : Decimal) : ∀ c ∈ layout d, P c := by
  have hzeros (n : Nat) : ∀ c ∈ List.replicate n '0', P c := by
    intro c hc
    rw [List.eq_of_mem_replicate hc]
    exact hdigit 0 (by decide)
  have hds := forall_mem_digits hdigit d.digits
  obtain ⟨hpoint, he, hplus, hminus⟩ := hmark
  unfold layout
  generalize HomeHub.Decimal.chars d.digits = ds at hds
  dsimp only
  split
  · have hpair : ∀ c ∈ ['.', '0'], P c := by simpa [hpoint] using hzeros 1
    exact List.forall_mem_append.mpr ⟨List.forall_mem_append.mpr ⟨hds, hzeros _⟩, hpair⟩
  split
  · refine List.forall_mem_append.mpr ⟨fun c hc => hds c (List.mem_of_mem_take hc), ?_⟩
    exact List.forall_mem_cons.mpr ⟨hpoint, fun c hc => hds c (List.mem_of_mem_drop hc)⟩
  split
  · refine List.forall_mem_cons.mpr ⟨hdigit 0 (by decide), List.forall_mem_cons.mpr ⟨hpoint, ?_⟩⟩
    exact List.forall_mem_append.mpr ⟨hzeros _, hds⟩
  · refine List.forall_mem_append.mpr ⟨?_, List.forall_mem_cons.mpr ⟨he, List.forall_mem_cons.mpr
      ⟨?_, forall_mem_digits hdigit _⟩⟩⟩
    · split
      · exact hds
      · obtain ⟨hd, hrest⟩ := List.forall_mem_cons.mp hds
        exact List.forall_mem_cons.mpr ⟨hd, List.forall_mem_cons.mpr ⟨hpoint, hrest⟩⟩
      · exact hds
    · split
      · exact hminus
      · exact hplus

lemma forall_mem_chars (hdigit : ∀ d < 10, P (HomeHub.Decimal.digitChar d))
    (hmark : P '.' ∧ P 'e' ∧ P '+' ∧ P '-') (x : Binary64) : ∀ c ∈ chars x, P c := by
  have hbody : ∀ c ∈ (if x.isZero then ['0', '.', '0'] else layout (shortest x.magnitude)),
      P c := by
    split
    · have hzero : P '0' := hdigit 0 (by decide)
      simp [hzero, hmark.1]
    · exact forall_mem_layout hdigit hmark _
  unfold chars
  dsimp only
  split
  · exact List.forall_mem_cons.mpr ⟨hmark.2.2.2, hbody⟩
  · exact hbody

lemma isAscii_chars (x : Binary64) : IsAscii (chars x) :=
  forall_mem_chars (P := fun c => c.toNat < 0x80) (by decide +kernel) (by decide) x

lemma not_isSpace_chars (x : Binary64) : ∀ c ∈ chars x, Json.isSpace c = false :=
  forall_mem_chars (by decide +kernel) (by decide) x

end Shortest

namespace Json

/-- The text of a number reads as another number. -/
def ReadsAs (x y : Binary64) : Prop := readNumber (Shortest.chars x) = some (.real y, [])

/-- The text of a number reads as that number. -/
def ReadsBack (x : Binary64) : Prop := readNumber (Shortest.chars x) = some (.real x, [])

end Json

/-! ### The settings -/

namespace Settings

open Json (ReadsAs ReadsBack stringChars skipSpace)

lemma isAscii_truth (b : Bool) : IsAscii (Json.bool b).chars := by
  cases b <;> decide

lemma isAscii_toJson {s : Settings} (h : s.InRange) : IsAscii s.toJson.chars := by
  rw [chars_toJson h]
  simp only [isAscii_append]
  exact ⟨by decide, Shortest.isAscii_chars _, by decide, isAscii_truth _, by decide,
    isAscii_truth _, by decide⟩

lemma readTruth_chars (b : Bool) (rest : List Char) :
    readTruth ((Json.bool b).chars ++ rest) = some (b, rest) := by
  cases b <;> rfl

lemma skipSpace_truth (b : Bool) (rest : List Char) :
    skipSpace ((Json.bool b).chars ++ rest) = (Json.bool b).chars ++ rest := by
  cases b <;> rfl

lemma readMembers_member {key : String} {value rest : List Char} {c : Char} {f g : Found}
    (fuel : Nat) (hkey : IsAscii (stringChars key)) (hc : Json.isSpace c = false)
    (hvalue : skipSpace (value ++ c :: rest) = value ++ c :: rest)
    (hread : readField key f (value ++ c :: rest) = some (g, c :: rest)) :
    readMembers (fuel + 1) f (stringChars key ++ ':' :: (value ++ c :: rest)) =
      if c = ',' then readMembers fuel g rest else if c = '}' then some (g, rest) else none := by
  rw [readMembers, Json.skipSpace_stringChars, Json.readKey_stringChars hkey]
  simp only [Option.bind_eq_bind, Option.bind_some]
  rw [Json.skipSpace_of_not_isSpace (by decide)]
  simp only [hvalue, hread, Option.bind_some]
  rw [Json.skipSpace_of_not_isSpace hc]
  split <;> simp_all

lemma readField_target {x y : Binary64} (hx : ReadsAs x y) (f : Found) (hf : f.target = none)
    {c : Char} (hc : c = ',' ∨ c = '}') (rest : List Char) :
    readField targetField f (Shortest.chars x ++ c :: rest) =
      some ({ f with target := some y }, c :: rest) := by
  have hread := Json.local_readNumber.append hx (Json.stops_cons (.inr (hc.imp_right .inr)) rest)
  simp only [readField, if_true, hf, readNumber, hread]
  rfl

lemma readField_celsius (b : Bool) (f : Found) (hf : f.celsius = none) (rest : List Char) :
    readField celsiusField f ((Json.bool b).chars ++ rest) =
      some ({ f with celsius := some b }, rest) := by
  have hne : celsiusField ≠ targetField := by decide
  simp [readField, hne, hf, readTruth_chars]

lemma readField_winter (b : Bool) (f : Found) (hf : f.winter = none) (rest : List Char) :
    readField winterField f ((Json.bool b).chars ++ rest) =
      some ({ f with winter := some b }, rest) := by
  have hne : winterField ≠ targetField ∧ winterField ≠ celsiusField := by decide
  simp [readField, hne, hf, readTruth_chars]

lemma skipSpace_chars {x y : Binary64} (hx : ReadsAs x y) (rest : List Char) :
    skipSpace (Shortest.chars x ++ rest) = Shortest.chars x ++ rest := by
  have hspace := Shortest.not_isSpace_chars x
  unfold ReadsAs at hx
  cases hc : Shortest.chars x with
  | nil => simp [hc, Json.readNumber, Json.numeral, Json.wholePart, Json.spanDigits] at hx
  | cons c cs =>
    rw [hc] at hspace
    exact Json.skipSpace_of_not_isSpace (hspace c (List.mem_cons_self ..)) _

lemma readFound_members (key : String) (rest : List Char) :
    readFound ('{' :: (stringChars key ++ rest)) =
      readMembers (stringChars key ++ rest).length ⟨none, none, none⟩
        (stringChars key ++ rest) := by
  rw [readFound, Json.skipSpace_stringChars]
  split
  · rename_i h
    cases h
  · rfl

lemma readFound_toJson {s : Settings} {y : Binary64} (h : s.InRange) (hs : ReadsAs s.target y) :
    readFound s.toJson.chars = some (⟨some y, some s.celsius, some s.winter⟩, []) := by
  have hchars : s.toJson.chars = '{' :: (stringChars targetField ++ ':' ::
      (Shortest.chars s.target ++ ',' :: (stringChars celsiusField ++ ':' ::
        ((Json.bool s.celsius).chars ++ ',' :: (stringChars winterField ++ ':' ::
          ((Json.bool s.winter).chars ++ '}' :: [])))))) := by
    rw [chars_toJson h]
    simp
  have hlength (rest : List Char) :
      ∃ n, (stringChars targetField ++ rest).length = n + 1 + 1 + 1 := by
    refine ⟨17 + rest.length, ?_⟩
    have hkey : (stringChars targetField).length = 20 := by decide
    rw [List.length_append]
    omega
  rw [hchars, readFound_members]
  obtain ⟨n, hn⟩ := hlength _
  rw [hn, readMembers_member _ (by decide) (by decide) (skipSpace_chars hs _)
      (readField_target hs _ rfl (.inl rfl) _), if_pos rfl,
    readMembers_member _ (by decide) (by decide) (skipSpace_truth _ _)
      (readField_celsius _ _ rfl _), if_pos rfl,
    readMembers_member _ (by decide) (by decide) (skipSpace_truth _ _)
      (readField_winter _ _ rfl _), if_neg (by decide), if_pos rfl]

lemma payload_of_ofJson {s : Settings} {r : Record} (h : s.InRange)
    (hr : Record.ofJson s.toJson = .ok r) : r.payload = Utf8.encode s.toJson.chars := by
  rw [Record.ofJson, Record.new, dif_pos (length_bytes_toJson h)] at hr
  exact congrArg Record.payload (Except.ok.inj hr).symm

/-- The record of settings is not empty, and is read with the target that its text reads as. -/
theorem ofBytes?_of_ofJson {s : Settings} {r : Record} {y : Binary64} (h : s.InRange)
    (hr : Record.ofJson s.toJson = .ok r) (hs : ReadsAs s.target y) :
    r.isEmpty = false ∧ ofBytes? r.payload = some { s with target := y } := by
  have hopen : ∃ rest, s.toJson.chars = '{' :: rest := ⟨_, rfl⟩
  obtain ⟨rest, hrest⟩ := hopen
  constructor
  · rw [Record.isEmpty, payload_of_ofJson h hr, Utf8.encode_ascii (isAscii_toJson h), hrest]
    rfl
  · have hskip : skipSpace s.toJson.chars = s.toJson.chars := by
      rw [hrest]
      exact Json.skipSpace_of_not_isSpace (by decide) rest
    rw [ofBytes?, payload_of_ofJson h hr, Json.latin1_encode (isAscii_toJson h), hskip,
      readFound_toJson h hs]
    rfl

/-- **Settings are read back from the record of them**, if their target is read back from its
text. -/
theorem ofRecord?_of_ofJson {s : Settings} {r : Record} (h : s.InRange)
    (hr : Record.ofJson s.toJson = .ok r) (hs : ReadsBack s.target) : ofRecord? r = some s := by
  obtain ⟨hnonempty, hbytes⟩ := ofBytes?_of_ofJson h hr hs
  rw [ofRecord?, hnonempty, hbytes]
  simp [Admissible.clamp_eq h]

end Settings

end HomeHub
