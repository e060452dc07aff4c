import HomeHub.Proofs.TargetText

/-!
Documents of a thermostat, member by member: the object that shows its state, as it is answered and
published, and the object of its settings, as a record keeps it.

Both are stated by their texts and members alone. The state goes out with its members in ascending
order, whatever order they are declared in. The settings go out in the order of their declaration,
and a thermostat that is restored from the record has them, if the target temperature is read back
from its own text.
-/

namespace HomeHub.Thermostat

/-! ### The state -/

/-- A temperature as a document: a number, or null if it is none. -/
inductive ShowsReal (x : Binary64) : Json → Prop
  | number : x.isFinite = true → ShowsReal x (.number (.real x))
  | null : x.isFinite = false → ShowsReal x .null

/-- An integer as a document, exact if it fits 64 bits. -/
def ShowsInteger (i : Int) (v : Json) : Prop :=
  ∃ n, v = .number n ∧ (∀ k : UInt64, i = k.toNat → n = .natural k) ∧
    ∀ k : Fin (Nat.pow 2 63), i = -(k + 1 : Int) → n = .negative k

/-- The document shows the state, and nothing else. -/
def Shows (t : Thermostat) (v : Json) : Prop :=
  ∃ temperature humidity, ShowsReal t.temperature temperature ∧
    ShowsInteger t.humidity humidity ∧
    v = .object
      [("celsius", .bool t.settings.celsius),
        ("heating", .bool t.heating),
        ("humidity", humidity),
        ("target_temperature", .number (.real t.settings.target)),
        ("temperature", temperature),
        ("winter", .bool t.settings.winter)]

variable {t : Thermostat}

lemma showsReal_ofBinary64 (x : Binary64) : ShowsReal x (.ofBinary64 x) := by
  rcases h : x.isFinite with _ | _ <;> rw [Json.ofBinary64, h]
  · exact .null h
  · exact .number h

lemma showsInteger_ofInt (i : Int) : ShowsInteger i (.ofInt i) := by
  refine ⟨_, rfl, fun k hk => ?_, fun k hk => ?_⟩
  · subst hk
    have hlt : k.toNat < Nat.pow 2 64 := k.toNat_lt
    rw [show (k.toNat : Int) = .ofNat k.toNat from rfl, Json.Number.ofInt, if_pos hlt,
      UInt64.ofNat_toNat]
  · obtain rfl : i = .negSucc k.val := by omega
    rw [Json.Number.ofInt, dif_pos k.isLt]

lemma shows_view (h : t.settings.InRange) : Shows t t.view.toJson := by
  have htarget : Json.ofBinary64 t.settings.target = .number (.real t.settings.target) := by
    rw [Json.ofBinary64, Settings.Admissible.isFinite h]
    rfl
  have hsorted : Json.sorted t.view.members =
      [("celsius", .bool t.settings.celsius), ("heating", .bool t.heating),
        ("humidity", .ofInt t.humidity), ("target_temperature", .ofBinary64 t.settings.target),
        ("temperature", .ofBinary64 t.temperature), ("winter", .bool t.settings.winter)] := by
    simp only [Json.sorted, Json.insert, View.members, view, Settings.targetField,
      Settings.celsiusField, Settings.winterField, List.foldl, String.reduceLT, String.reduceEq,
      reduceIte]
  refine ⟨_, _, showsReal_ofBinary64 _, showsInteger_ofInt _, ?_⟩
  rw [View.toJson, hsorted, htarget]

/-! ### The settings -/

/-- A truth value as a text. -/
def truth (b : Bool) : String := if b then "true" else "false"

/-- What a record of settings is, and what is made of it. -/
structure Keeps (record : Record) (s : Settings) : Prop where
  text : record.payload = Utf8.ofString
    ("\x7b\"target_temperature\":" ++ String.ofList (Shortest.chars s.target) ++
      ",\"celsius\":" ++ truth s.celsius ++ ",\"winter\":" ++ truth s.winter ++ "\x7d")
  nonempty : record.isEmpty = false
  /-- It is read with the target that the text of this is read as. -/
  read : ∃ target, Json.ReadsAs s.target target ∧
    Settings.ofBytes? record.payload = some { s with target }
  restored : Json.ReadsBack s.target → (Thermostat.restored record).settings = s

lemma toList_truth (b : Bool) : (truth b).toList = (Json.bool b).chars := by
  cases b <;> rfl

lemma keeps_of_ofJson {s : Settings} {record : Record} (h : s.InRange)
    (hr : Record.ofJson s.toJson = .ok record) : Keeps record s := by
  obtain ⟨target, -, hreads⟩ := Json.exists_readsAs h
  obtain ⟨hnonempty, hbytes⟩ := Settings.ofBytes?_of_ofJson h hr hreads
  refine ⟨?_, hnonempty, ⟨target, hreads, hbytes⟩, fun hback => ?_⟩
  · rw [Settings.payload_of_ofJson h hr, Settings.chars_toJson h, Utf8.ofString]
    simp only [String.toList_append, String.toList_ofList, toList_truth, List.append_assoc]
    rfl
  · rw [Thermostat.restored, Settings.ofRecord?_of_ofJson h hr hback]
    rfl

end HomeHub.Thermostat
