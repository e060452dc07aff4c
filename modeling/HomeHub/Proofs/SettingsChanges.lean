import HomeHub.Proofs.Runs
import HomeHub.Proofs.StateDocuments
import HomeHub.Proofs.ThermostatOperations

/-!
A change of the settings is made as a whole or not at all.

Either the body describes no change, and then nothing becomes of it; or it describes one, and then
all of it is made, and what there is of it to record and to publish is recorded and published. What
carries this is that the settings stay in range: the record of settings in range cannot fail, so
nothing fails once the settings have been replaced.

Fields, bounds and documents are written out here: what is answered, published and recorded is
stated by its members, not by the functions that make it.
-/

namespace HomeHub.SettingsChanges

open Settings (targetField celsiusField winterField)
open Thermostat (Hosted Operation)

/-! ### Bodies -/

/-- The members of a body; null has none. -/
def membersOf : Json → Option (List (String × Json))
  | .object members => some members
  | .null => some []
  | _ => none

/-- What becomes of the value of a field: it is the given one, if that is of the right kind, or
stays. -/
inductive Gets {α : Type} (members : List (String × Json)) (field : String)
    (reads : Json → α → Prop) (current : α) : α → Prop
  | given {v : Json} {x : α} : Json.member? field members = some v → reads v x →
      Gets members field reads current x
  | kept : Json.member? field members = none → Gets members field reads current current

/-- The second number is the first one brought into the range from 10 to 38. -/
inductive Clamped (x : Binary64) : Binary64 → Prop
  | within : x.isNaN = false → x.lt (.ofNat 10) = false → Binary64.lt (.ofNat 38) x = false →
      Clamped x x
  | below : x.lt (.ofNat 10) = true → Clamped x (.ofNat 10)
  | above : Binary64.lt (.ofNat 38) x = true → Clamped x (.ofNat 38)
  | nan : x.isNaN = true → Clamped x (.ofNat 10)

/-- The value is a number, and this is the target it stands for. -/
def IsTarget (v : Json) (t : Binary64) : Prop := ∃ n, v = .number n ∧ Clamped n.toBinary64 t

/-- The body describes a change of the first settings to the second. -/
def Describes (body : Json) (s u : Settings) : Prop :=
  ∃ members, membersOf body = some members ∧
    Gets members "target_temperature" IsTarget s.target u.target ∧
    Gets members "celsius" (fun v b => v = .bool b) s.celsius u.celsius ∧
    Gets members "winter" (fun v b => v = .bool b) s.winter u.winter

section

open Settings

variable {α : Type} {members : List (String × Json)} {field : String} {s u : Settings}
  {current x : α}

lemma changedField_eq_ok_iff {read : String → Json → Except ChangeFault α} {reads : Json → α → Prop}
    (h : ∀ v x, read field v = .ok x ↔ reads v x) :
    changedField field read members current = .ok x ↔ Gets members field reads current x := by
  unfold changedField
  constructor
  · intro hx
    split at hx
    · rename_i v hv
      exact .given hv ((h v x).mp hx)
    · rename_i hnone
      obtain rfl := Except.ok.inj hx
      exact .kept hnone
  · rintro (⟨hv, hx⟩ | hnone)
    · simp only [hv, (h _ x).mpr hx]
    · simp only [hnone]

lemma asTruth_eq_ok_iff (v : Json) (b : Bool) : asTruth field v = .ok b ↔ v = .bool b := by
  cases v <;> simp [asTruth]

lemma lt_eq_true_iff {x y : Binary64} : x.lt y = true ↔
    x.isNaN = false ∧ y.isNaN = false ∧ x.place < y.place := by
  simp [Binary64.lt, and_assoc]

lemma clamped_clamp (x : Binary64) : Clamped x (clamp x) := by
  by_cases hnan : x.isNaN = true
  · rw [clamp, if_pos hnan]
    exact .nan hnan
  · by_cases hlow : x.lt minTarget = true
    · rw [clamp, if_neg hnan, if_pos hlow]
      exact .below hlow
    · by_cases hhigh : maxTarget.lt x = true
      · rw [clamp, if_neg hnan, if_neg hlow, if_pos hhigh]
        exact .above hhigh
      · have hsame : clamp x = x := by rw [clamp, if_neg hnan, if_neg hlow, if_neg hhigh]
        have hrange := admissible_clamp x
        rw [hsame] at hrange ⊢
        exact .within hrange.not_isNaN hrange.not_lt hrange.not_gt

lemma clamp_eq_of_clamped {x t : Binary64} (h : Clamped x t) : clamp x = t := by
  cases h with
  | within hnan hlow hhigh => exact (admissible_iff_not_lt.mpr ⟨hnan, hlow, hhigh⟩).clamp_eq
  | below h =>
    have hlow : x.lt minTarget = true := h
    rw [clamp, if_neg (by simp [(lt_eq_true_iff.mp hlow).1]), if_pos hlow]
    rfl
  | above h =>
    have hhigh : maxTarget.lt x = true := h
    obtain ⟨-, hnan, habove⟩ := lt_eq_true_iff.mp hhigh
    have hlow : ¬ x.lt minTarget = true := by
      have hends : minTarget.place ≤ maxTarget.place := by decide +kernel
      rw [not_lt_iff hnan admissible_minTarget.not_isNaN]
      omega
    rw [clamp, if_neg (by simp [hnan]), if_neg hlow, if_pos hhigh]
    rfl
  | nan hnan =>
    rw [clamp, if_pos hnan]
    rfl

lemma clamp_eq_iff {x t : Binary64} : clamp x = t ↔ Clamped x t :=
  ⟨fun h => h ▸ clamped_clamp x, clamp_eq_of_clamped⟩

lemma asTarget_eq_ok_iff (v : Json) (t : Binary64) :
    (asNumber field v).map clamp = .ok t ↔ IsTarget v t := by
  cases v <;> simp [asNumber, Except.map, IsTarget, clamp_eq_iff]

lemma changedBy_eq_ok_iff : s.changedBy members = .ok u ↔
    Gets members "target_temperature" IsTarget s.target u.target ∧
    Gets members "celsius" (fun v b => v = .bool b) s.celsius u.celsius ∧
    Gets members "winter" (fun v b => v = .bool b) s.winter u.winter := by
  have htarget : changedField targetField (fun f v => (asNumber f v).map clamp) members s.target =
      .ok u.target ↔ Gets members "target_temperature" IsTarget s.target u.target :=
    changedField_eq_ok_iff asTarget_eq_ok_iff
  have hcelsius : changedField celsiusField asTruth members s.celsius = .ok u.celsius ↔
      Gets members "celsius" (fun v b => v = .bool b) s.celsius u.celsius :=
    changedField_eq_ok_iff asTruth_eq_ok_iff
  have hwinter : changedField winterField asTruth members s.winter = .ok u.winter ↔
      Gets members "winter" (fun v b => v = .bool b) s.winter u.winter :=
    changedField_eq_ok_iff asTruth_eq_ok_iff
  rw [← htarget, ← hcelsius, ← hwinter]
  constructor
  · intro h
    obtain ⟨target, h1, h⟩ := bind_eq_ok.mp h
    obtain ⟨celsius, h2, h⟩ := bind_eq_ok.mp h
    obtain ⟨winter, h3, h⟩ := bind_eq_ok.mp h
    obtain rfl := Except.ok.inj h
    exact ⟨h1, h2, h3⟩
  · rintro ⟨h1, h2, h3⟩
    exact bind_eq_ok.mpr ⟨_, h1, bind_eq_ok.mpr ⟨_, h2, bind_eq_ok.mpr ⟨_, h3, rfl⟩⟩⟩

lemma change_eq_ok_iff {body : Json} : s.change body = .ok u ↔ Describes body s u := by
  unfold Describes
  cases body <;> simp [change, membersOf, changedBy_eq_ok_iff]

lemma change_congr {others : List (String × Json)}
    (h : ∀ field ∈ ["target_temperature", "celsius", "winter"],
      Json.member? field members = Json.member? field others) :
    s.change (.object members) = s.change (.object others) := by
  have htarget : Json.member? targetField members = Json.member? targetField others :=
    h "target_temperature" (by simp)
  have hcelsius : Json.member? celsiusField members = Json.member? celsiusField others :=
    h "celsius" (by simp)
  have hwinter : Json.member? winterField members = Json.member? winterField others :=
    h "winter" (by simp)
  simp only [change, changedBy, changedField, htarget, hcelsius, hwinter]

end

/-! ### Runs -/

/-- What is done with a thermostat. -/
inductive Event
  | started (reading : Option Reading) (now : Time)
  | operated (operation : Operation)

inductive Step (t : Thermostat) : Event → Thermostat → Prop
  | start (reading : Option Reading) (now : Time) :
      Step t (.started reading now) (t.start reading now)
  | operate (o : Operation) : Step t (.operated o) (o.run t).2

variable {t u : Thermostat} {e : Event} {log : List Event} {r : Record} {outlets : Outlets}
  {body : Json} {s : Settings}

lemma inRange_step (h : t.settings.InRange) (hstep : Step t e u) : u.settings.InRange := by
  cases hstep with
  | start reading now => rwa [Thermostat.settings_start]
  | operate o => exact Thermostat.inRange_run h o

lemma inRange_of_run (hrun : Run Step (.restored r) log t) : t.settings.InRange :=
  hrun.invariant (I := fun _ t => t.settings.InRange) (Thermostat.inRange_restored r) inRange_step

/-! ### One change -/

/-- The command to make the change that a body describes. -/
def set (body : Json) : Operation := .command .configure body

/-- The thermostat with other settings, and heating decided on anew: it heats in winter mode, up to
the target or, if it has been heating, to a degree above it. -/
def settled (t : Thermostat) (s : Settings) : Thermostat :=
  { t with
    settings := s
    heating := s.winter &&
      t.temperature.lt (if t.heating then s.target.add (.ofNat 1) else s.target) }

/-- The body describes no change, and nothing becomes of it. -/
structure Refused (t : Thermostat) (outlets : Outlets) (body : Json) : Prop where
  undescribed : ∀ s, ¬ Describes body t.settings s
  result : ∃ why : Settings.ChangeFault,
    (t.handle .configure body).result = .error (.rejected why.message)
  unchanged : Hosted.perform ⟨t, outlets⟩ (set body) = ⟨t, outlets⟩

/-- The body describes a change to these settings, and it is made, with this answer. -/
structure Made (t : Thermostat) (outlets : Outlets) (body : Json) (s : Settings)
    (answer : Json) : Prop where
  described : Describes body t.settings s
  thermostat : (Hosted.perform ⟨t, outlets⟩ (set body)).thermostat = settled t s
  result : (t.handle .configure body).result = .ok answer
  shows : (settled t s).Shows answer
  /-- Settings that stay the same are neither recorded nor published. -/
  same : s = t.settings → (Hosted.perform ⟨t, outlets⟩ (set body)).outlets = outlets
  /-- Others are both. -/
  changed : s ≠ t.settings → ∃ record, Thermostat.Keeps record s ∧
    (Hosted.perform ⟨t, outlets⟩ (set body)).outlets =
      ⟨outlets.store.map fun store => { store with record, dirty := true },
        outlets.slot.map fun slot => { slot with
          pending := some answer
          published := slot.published + 1 }⟩

lemma refused_of_change {why : Settings.ChangeFault} (h : t.settings.change body = .error why) :
    Refused t outlets body where
  undescribed s hs := by
    rw [change_eq_ok_iff.mpr hs] at h
    cases h
  result := ⟨why, by simp [Thermostat.handle, Thermostat.set, Thermostat.configure, h]⟩
  unchanged := by
    simp [Hosted.perform, set, Operation.run, Thermostat.handle, Thermostat.set,
      Thermostat.configure, h, Outlets.applyAll]

lemma set_of_same (hrange : t.settings.InRange) (h : t.settings.change body = .ok t.settings) :
    t.set body = ⟨.ok (settled t t.settings).view.toJson, [], settled t t.settings⟩ := by
  have hsame := (Settings.same_iff hrange hrange).mpr rfl
  simp only [Thermostat.set, Thermostat.configure, h, hsame, if_true]
  rfl

/-- The record of the new settings cannot fail, for they are in range. -/
lemma set_of_ne (hrange : t.settings.InRange) (h : t.settings.change body = .ok s)
    (hne : s ≠ t.settings) : ∃ record, Record.ofJson s.toJson = .ok record ∧
      t.set body = ⟨.ok (settled t s).view.toJson,
        [.record record, Thermostat.tell (settled t s).view], settled t s⟩ := by
  have hs := Settings.inRange_change hrange h
  obtain ⟨record, hrecord⟩ := Settings.exists_record hs
  have hdiffer : s.same t.settings = false := by
    rw [← Bool.not_eq_true, Settings.same_iff hs hrange]
    exact hne
  refine ⟨record, hrecord, ?_⟩
  simp only [Thermostat.set, Thermostat.configure, h, hdiffer, Bool.false_eq_true, if_false,
    hrecord]
  rfl

lemma made_of_change (hrange : t.settings.InRange) (h : t.settings.change body = .ok s) :
    Made t outlets body s (settled t s).view.toJson := by
  have hperform : Hosted.perform ⟨t, outlets⟩ (set body) =
      ⟨(t.set body).state, outlets.applyAll (t.set body).effects⟩ := rfl
  have hhandle : t.handle .configure body = t.set body := rfl
  have hs := Settings.inRange_change hrange h
  have hdescribed := change_eq_ok_iff.mp h
  have hshows : (settled t s).Shows (settled t s).view.toJson := Thermostat.shows_view hs
  by_cases hsame : s = t.settings
  · subst hsame
    have hset := set_of_same hrange h
    refine ⟨hdescribed, ?_, ?_, hshows, fun _ => ?_, fun hne => absurd rfl hne⟩
    · rw [hperform, hset]
    · rw [hhandle, hset]
    · rw [hperform, hset]
      rfl
  · obtain ⟨record, hrecord, hset⟩ := set_of_ne hrange h hsame
    refine ⟨hdescribed, ?_, ?_, hshows, fun heq => absurd heq hsame, fun _ =>
      ⟨record, Thermostat.keeps_of_ofJson hs hrecord, ?_⟩⟩
    · rw [hperform, hset]
    · rw [hhandle, hset]
    · rw [hperform, hset]
      rfl

/-! ### The result -/

/-- What becomes of the changes that a thermostat is asked for. -/
structure AllOrNothing (t : Thermostat) : Prop where
  outcome : ∀ outlets body,
    Refused t outlets body ∨ ∃ s answer, Made t outlets body s answer
  /-- Members that are no fields of the settings are passed over. -/
  unknown : ∀ members others,
    (∀ field ∈ ["target_temperature", "celsius", "winter"],
      Json.member? field members = Json.member? field others) →
    t.handle .configure (.object members) = t.handle .configure (.object others)
  fits : t.settings.toJson.bytes.length ≤ 244
  records : ∃ record, Record.ofJson t.settings.toJson = .ok record ∧
    Thermostat.Keeps record t.settings

/-- **A change is made as a whole or not at all.** Whatever has been done with a thermostat, with a
store and a slot or without, a body either describes no change of its settings, and nothing is
changed, or it describes one, and all of it is made, recorded and published. -/
theorem all_or_nothing (hrun : Run Step (.restored r) log t) : AllOrNothing t := by
  have hrange := inRange_of_run hrun
  obtain ⟨record, hrecord⟩ := Settings.exists_record hrange
  refine ⟨fun outlets body => ?_, fun members others h => ?_, Settings.length_bytes_toJson hrange,
    record, hrecord, Thermostat.keeps_of_ofJson hrange hrecord⟩
  · rcases h : t.settings.change body with why | s
    · exact .inl (refused_of_change h)
    · exact .inr ⟨s, _, made_of_change hrange h⟩
  · have hset : t.set (.object members) = t.set (.object others) := by
      rw [Thermostat.set, Thermostat.set, Thermostat.configure, Thermostat.configure,
        change_congr h]
    exact hset

/-- The target that is asked for is brought into range, and heating starts. -/
def warmer : Json :=
  .object [("target_temperature", .ofNat 50), ("winter", .bool true), ("volume", .ofNat 11)]

/-- The target is a number, but the mode is no truth value. -/
def garbled : Json := .object [("target_temperature", .ofNat 20), ("winter", .string "yes")]

/-- A store with an empty record and an empty slot. -/
def blank : Outlets := ⟨some ⟨⟨1000, 2000, 0⟩, .empty, false, none, 0⟩, some (.new 1000)⟩

/-- What is answered and published when it gets warmer. -/
def shown : String :=
  "\x7b\"celsius\":true,\"heating\":true,\"humidity\":40," ++
    "\"target_temperature\":38.0,\"temperature\":20.0,\"winter\":true\x7d"

/-- What is recorded then. -/
def recorded : String := "\x7b\"target_temperature\":38.0,\"celsius\":true,\"winter\":true\x7d"

/-- Of two bodies one is made, and answered, recorded and published, and the other is refused. -/
theorem all_or_nothing_started : ∃ log t, Run Step (.restored Record.empty) log t ∧
    AllOrNothing t ∧
    (t.handle .configure warmer).result.toOption.map Json.text = some shown ∧
    (Hosted.perform ⟨t, blank⟩ (set warmer)).thermostat =
      { t with settings := ⟨.ofNat 38, true, true⟩, heating := true } ∧
    (Hosted.perform ⟨t, blank⟩ (set warmer)).outlets.store.map
      (fun store => (store.record.payload, store.dirty)) =
        some (Utf8.ofString recorded, true) ∧
    ((Hosted.perform ⟨t, blank⟩ (set warmer)).outlets.slot.bind (·.pending)).map Json.text =
      some shown ∧
    Hosted.perform ⟨t, blank⟩ (set garbled) = ⟨t, blank⟩ := by
  have hrun := (Run.nil (s := Thermostat.restored Record.empty)).snoc
    (Step.start (some ⟨Binary64.ofNat 20, 40⟩) 0)
  exact ⟨_, _, hrun, all_or_nothing hrun, by decide +kernel, by decide +kernel, by decide +kernel,
    by decide +kernel, rfl⟩

end HomeHub.SettingsChanges
