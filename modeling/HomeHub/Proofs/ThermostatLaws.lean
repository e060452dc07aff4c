import HomeHub.Proofs.Binary64Laws
import HomeHub.Proofs.SettingsLaws

/-!
What the sections of a thermostat do to its settings, and what they leave to be carried out: a
section that changes the settings has the new ones recorded and then the view of them published,
and a turn of the control loop has at most a view published. Heating that has been decided on stays
as it is until the settings or the temperature change.
-/

namespace HomeHub.Thermostat

@[simp] lemma settings_evaluate (t : Thermostat) : t.evaluate.settings = t.settings := rfl

@[simp] lemma settings_sample (t : Thermostat) (reading : Option Reading) (now : Time) :
    (t.sample reading now).settings = t.settings := by
  cases reading <;> rfl

@[simp] lemma settings_start (t : Thermostat) (reading : Option Reading) (now : Time) :
    (t.start reading now).settings = t.settings := by
  simp [start]

@[simp] lemma settings_refresh (t : Thermostat) (reading : Option Reading) (now : Time) :
    (t.refresh reading now).settings = t.settings := by
  unfold refresh
  dsimp only
  split <;> split <;> simp

/-- What a change of the settings comes to. -/
theorem set_cases {t : Thermostat} (h : t.settings.InRange) (body : Json) :
    ((t.set body).effects = [] ∧ (t.set body).state.settings = t.settings) ∨
    ∃ r, Record.ofJson (t.set body).state.settings.toJson = .ok r ∧
      (t.set body).effects = [.record r, tell (t.set body).state.view] ∧
      (t.set body).state.settings ≠ t.settings ∧ (t.set body).state.settings.InRange := by
  rcases hc : t.settings.change body with why | s
  · simp [set, configure, hc]
  · have hs := Settings.inRange_change h hc
    rcases hsame : s.same t.settings with _ | _
    · obtain ⟨r, hr⟩ := Settings.exists_record hs
      have hne : s ≠ t.settings := by
        intro he
        rw [(Settings.same_iff hs h).mpr he] at hsame
        cases hsame
      simp [set, configure, hc, hsame, hr, hne, hs, view, evaluate]
    · rw [(Settings.same_iff hs h).mp hsame] at hc hsame
      simp [set, configure, hc, hsame, evaluate]

lemma exists_record_of_set {t : Thermostat} (h : t.settings.InRange) {body : Json}
    (hne : (t.set body).state.settings ≠ t.settings) :
    ∃ r, Record.ofJson (t.set body).state.settings.toJson = .ok r ∧
      (t.set body).effects = [.record r, tell (t.set body).state.view] := by
  rcases set_cases h body with ⟨-, hs⟩ | ⟨r, hr, he, -⟩
  · exact absurd hs hne
  · exact ⟨r, hr, he⟩

/-- What a turn of the control loop comes to. -/
theorem poll_cases (t : Thermostat) (reading : Option Reading) (now : Time) :
    (t.poll reading now).2.settings = t.settings ∧
      ((t.poll reading now).1 = [] ∨
        (t.poll reading now).1 = [tell (t.poll reading now).2.view]) := by
  unfold poll turn
  dsimp only
  split
  · split <;> simp
  · simp

lemma state_set_of_effects_eq_nil {t : Thermostat} (h : t.settings.InRange) {body : Json}
    (he : (t.set body).effects = []) :
    (t.set body).state = t ∨ (t.set body).state = t.evaluate := by
  rcases hc : t.settings.change body with why | s
  · exact .inl (by simp [set, configure, hc])
  · rcases hsame : s.same t.settings with _ | _
    · obtain ⟨r, hr⟩ := Settings.exists_record (Settings.inRange_change h hc)
      simp [set, configure, hc, hsame, hr] at he
    · obtain rfl := (Settings.same_iff (Settings.inRange_change h hc) h).mp hsame
      exact .inr (by simp [set, configure, hc, hsame, evaluate])

lemma same_poll_of_effects_eq_nil {t : Thermostat} {reading : Option Reading} {now : Time}
    (he : (t.poll reading now).1 = []) :
    (t.poll reading now).2 = t ∨ (t.poll reading now).2.view.same t.view = true := by
  unfold poll turn at he ⊢
  dsimp only at he ⊢
  split
  · rename_i hready
    rw [if_pos hready] at he
    by_cases hsame : (t.refresh reading now).view.same t.view = true
    · exact .inr hsame
    · simp [hsame] at he
  · exact .inl rfl

theorem inRange_restored (r : Record) : (restored r).settings.InRange := by
  rcases h : Settings.ofRecord? r with _ | s
  · simp [restored, h, new, Settings.inRange_default]
  · simpa [restored, h, new] using Settings.inRange_ofRecord? h

theorem inRange_set {t : Thermostat} (h : t.settings.InRange) (body : Json) :
    (t.set body).state.settings.InRange := by
  rcases set_cases h body with ⟨-, hs⟩ | ⟨r, -, -, -, hs⟩
  · rwa [hs]
  · exact hs

/-! ### Heating -/

lemma isFinite_hysteresis : hysteresis.isFinite = true := by decide +kernel

lemma lt_add_hysteresis {s : Settings} (h : s.InRange) {x : Binary64}
    (hx : x.lt s.target = true) : x.lt (s.target.add hysteresis) = true := by
  obtain ⟨hnan, hle⟩ := Binary64.place_le_add (Settings.Admissible.isFinite h)
    isFinite_hysteresis h.positive rfl
  exact Binary64.lt_of_lt_of_place_le hx hnan hle

lemma demand_congr {s : Settings} {x y : Binary64} (h : x.same y = true) (heating : Bool) :
    demand s x heating = demand s y heating := by
  simp only [demand, Binary64.lt_eq_of_same h]

/-- Deciding on heating again does not change it. -/
theorem demand_demand {s : Settings} (h : s.InRange) (x : Binary64) (heating : Bool) :
    demand s x (demand s x heating) = demand s x heating := by
  have hlt := lt_add_hysteresis h (x := x)
  cases hw : s.winter with
  | false => simp [demand, hw]
  | true =>
    cases hlow : x.lt s.target <;> cases hhigh : x.lt (s.target.add hysteresis)
    · cases heating <;> simp [demand, hw, hlow, hhigh]
    · cases heating <;> simp [demand, hw, hlow, hhigh]
    · simp [hlow, hhigh] at hlt
    · cases heating <;> simp [demand, hw, hlow, hhigh]

end HomeHub.Thermostat
