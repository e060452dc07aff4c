import HomeHub.Proofs.Runs
import HomeHub.Proofs.ThermostatOperations

/-!
What clients are told of a thermostat whose operations come one after the other, and when what they
were told last is no longer so.

An operation that changes the view publishes the new one, save in one case. A turn of the control
loop may sample a temperature without deciding on heating, and the next change of the settings then
decides on it; if it leaves the settings as they are, nobody is told that heating has started or
stopped, neither then nor by any turn that finds the same temperature.
-/

namespace HomeHub.Publication

open Service (Effect)
open Thermostat

/-! ### Runs -/

def opened (t : Thermostat) (store : Option Store) (slot : BroadcastSlot) : Hosted :=
  ⟨t, store, some slot⟩

structure Event where
  operation : Operation
  before : Hosted
  after : Hosted

inductive Step (s : Hosted) : Event → Hosted → Prop
  | perform (o : Operation) : Step s ⟨o, s, s.perform o⟩ (s.perform o)

def act (s : Hosted) (o : Operation) : Event × Hosted := (⟨o, s, s.perform o⟩, s.perform o)

lemma run_play (s : Hosted) (os : List Operation) :
    Run Step s (Run.play act s os).1 (Run.play act s os).2 :=
  Run.of_play (fun _ o => .perform o) s os

def publication : Effect → Option Json
  | .record _ => none
  | .publish value => some value

/-- The value that an operation publishes. -/
def Event.published (x : Event) : Option Json :=
  (x.operation.run x.before.thermostat).1.findSome? publication

/-- Clients see the same: the views are the same data or the same numbers. So a view with NaN agrees
with itself, and the zeros agree. -/
def Agrees (v w : View) : Prop := v = w ∨ v.same w = true

/-- A change of the settings leaves them as they are, but heating has started or stopped. -/
def Event.Silent (x : Event) : Prop :=
  (∃ body, x.operation = .command .configure body) ∧
    x.after.thermostat.settings = x.before.thermostat.settings ∧
    x.after.thermostat.heating ≠ x.before.thermostat.heating

/-! ### One operation -/

variable {s t : Hosted} {log : List Event} {x : Event} {o : Operation} {p u v : Thermostat}

lemma published_of_effects {outlets : Outlets} {effects : List Effect} {w : View}
    (hslot : outlets.slot.isSome)
    (h : effects = [Thermostat.tell w] ∨ ∃ r, effects = [.record r, Thermostat.tell w]) :
    effects.findSome? publication = some w.toJson ∧
      (outlets.applyAll effects).slot.bind (·.pending) = some w.toJson ∧
      (outlets.applyAll effects).slot.isSome := by
  obtain ⟨slot, hslot⟩ := Option.isSome_iff_exists.mp hslot
  rcases h with rfl | ⟨r, rfl⟩ <;>
    simp [Outlets.applyAll, Outlets.apply, Thermostat.tell, hslot, publication, List.findSome?_cons,
      BroadcastSlot.publish]

/-- What a step publishes and what it leaves in the slot. -/
theorem step_cases (hi : s.thermostat.settings.InRange) (hslot : s.outlets.slot.isSome)
    (h : Step s x t) :
    (x.published = some t.view.toJson ∧ t.told = some t.view.toJson ∧ t.outlets.slot.isSome ∧
      ¬ x.Silent) ∨
    (x.published = none ∧ t.outlets = s.outlets ∧
      t.thermostat.settings = s.thermostat.settings ∧
      Quiet x.operation s.thermostat t.thermostat) := by
  cases h with
  | perform o =>
    rcases run_cases hi o with ⟨r, he, -, hne⟩ | ⟨hs, ⟨he, reading, now, rfl⟩ | ⟨he, hquiet⟩⟩
    · obtain ⟨hpub, htold, hsome⟩ := published_of_effects hslot (.inr ⟨r, he⟩)
      exact .inl ⟨hpub, htold, hsome, fun hsilent => hne hsilent.2.1⟩
    · obtain ⟨hpub, htold, hsome⟩ := published_of_effects hslot (.inl he)
      refine .inl ⟨hpub, htold, hsome, ?_⟩
      rintro ⟨⟨body, ho⟩, -⟩
      cases ho
    · refine .inr ⟨?_, ?_, hs, hquiet⟩
      · simp [Event.published, he]
      · simp [Hosted.perform, he, Outlets.applyAll]

/-! ### Views -/

lemma same_iff {v w : View} : v.same w = true ↔ v.target.same w.target = true ∧
    v.temperature.same w.temperature = true ∧ v.celsius = w.celsius ∧ v.winter = w.winter ∧
    v.humidity = w.humidity ∧ v.heating = w.heating := by
  simp [View.same, and_assoc]

lemma heating_eq_of_agrees (h : Agrees u.view v.view) : u.heating = v.heating := by
  rcases h with h | h
  · exact congrArg View.heating h
  · exact (same_iff.mp h).2.2.2.2.2

/-- Of the operations that publish nothing, exactly the silent ones change the view. -/
lemma not_agrees_iff_silent (h : Quiet x.operation x.before.thermostat x.after.thermostat) :
    ¬ Agrees x.before.view x.after.view ↔ x.Silent := by
  constructor
  · intro hne
    cases h with
    | unchanged h => exact absurd (.inl (congrArg Thermostat.view h.symm)) hne
    | decided body ho h =>
      refine ⟨⟨body, ho⟩, by simp [h], fun heq => hne (.inl ?_)⟩
      rw [h] at heq
      simp only [Hosted.view, Thermostat.view, h, heq]
      rfl
    | turned reading now ho h =>
      obtain ⟨h1, h2, h3, h4, h5, h6⟩ := same_iff.mp h
      exact absurd (.inr (same_iff.mpr ⟨Binary64.same_symm h1, Binary64.same_symm h2, h3.symm,
        h4.symm, h5.symm, h6.symm⟩)) hne
  · rintro ⟨-, -, hne⟩ hagrees
    exact hne (heating_eq_of_agrees hagrees).symm

/-! ### Since a publication -/

/-- How a thermostat differs from what it was when it last published its view, given whether there
has been a silent operation. There is at most one: heating has then been decided on for settings
and a temperature that are still the same. -/
structure Since (p u : Thermostat) (silent : Prop) : Prop where
  settings : u.settings = p.settings
  humidity : u.humidity = p.humidity
  temperature : p.temperature = u.temperature ∨ p.temperature.same u.temperature = true
  heating : u.heating = p.heating ↔ ¬ silent
  settled : silent → demand u.settings u.temperature u.heating = u.heating

lemma since_refl (p : Thermostat) {silent : Prop} (h : ¬ silent) : Since p p silent :=
  ⟨rfl, rfl, .inl rfl, by simp [h], fun hs => absurd hs h⟩

lemma since_congr {a b : Prop} (h : Since p u a) (hab : a ↔ b) : Since p u b :=
  propext hab ▸ h

lemma agrees_iff_of_since {silent : Prop} (hp : p.settings.InRange) (h : Since p u silent) :
    Agrees p.view u.view ↔ ¬ silent := by
  rw [← h.heating]
  constructor
  · exact fun hagrees => (heating_eq_of_agrees hagrees).symm
  · intro heating
    rcases h.temperature with htemp | htemp
    · exact .inl (by simp [Thermostat.view, h.settings, h.humidity, heating, htemp])
    · refine .inr (same_iff.mpr ⟨?_, htemp, ?_, ?_, h.humidity.symm, heating.symm⟩)
      · simpa only [Thermostat.view, h.settings] using
          Binary64.same_self (Settings.Admissible.not_isNaN hp)
      · simp [Thermostat.view, h.settings]
      · simp [Thermostat.view, h.settings]

lemma since_evaluate {silent : Prop} (hp : p.settings.InRange) (h : Since p u silent) :
    Since p u.evaluate (silent ∨ u.evaluate.heating ≠ u.heating) := by
  by_cases heq : u.evaluate.heating = u.heating
  · have hu : u.evaluate = u := by
      rw [Thermostat.evaluate] at heq ⊢
      simp only at heq
      rw [heq]
    rw [hu]
    simpa using h
  · -- heating that had been decided on would have stayed
    have hnot : ¬ silent := fun hs => heq (h.settled hs)
    refine ⟨h.settings, h.humidity, h.temperature, ?_, fun _ => ?_⟩
    · rw [← h.heating.mpr hnot]
      simp [heq]
    · exact demand_demand (h.settings ▸ hp) _ _

lemma since_same {silent : Prop} (h : Since p u silent) (hs : v.settings = u.settings)
    (hsame : v.view.same u.view = true) : Since p v silent := by
  obtain ⟨-, htemp, -, -, hhum, hheat⟩ := same_iff.mp hsame
  simp only [Thermostat.view] at htemp hhum hheat
  refine ⟨hs.trans h.settings, hhum.trans h.humidity, .inr ?_, by rw [hheat]; exact h.heating, ?_⟩
  · rcases h.temperature with hp | hp
    · exact hp ▸ Binary64.same_symm htemp
    · exact Binary64.same_trans hp (Binary64.same_symm htemp)
  · intro hsilent
    have hsettled := h.settled hsilent
    rwa [hs, hheat, demand_congr htemp]

lemma since_quiet {silent : Prop} (hp : p.settings.InRange)
    (h : Since p x.before.thermostat silent)
    (hs : x.after.thermostat.settings = x.before.thermostat.settings)
    (hq : Quiet x.operation x.before.thermostat x.after.thermostat) :
    Since p x.after.thermostat (silent ∨ x.Silent) := by
  cases hq with
  | unchanged hu =>
    have hnot : ¬ x.Silent := fun hs => hs.2.2 (congrArg Thermostat.heating hu)
    rw [hu]
    exact since_congr h (by simp [hnot])
  | decided body ho hu =>
    refine since_congr (hu ▸ since_evaluate hp h) (or_congr_right ?_)
    simp [Event.Silent, ho, hu]
  | turned reading now ho hsame =>
    have hnot : ¬ x.Silent := by simp [Event.Silent, ho]
    exact since_congr (since_same h hs hsame) (by simp [hnot])

/-! ### Runs -/

structure Inv (log : List Event) (s : Hosted) : Prop where
  inRange : s.thermostat.settings.InRange
  slot : s.outlets.slot.isSome
  publishes : ∀ x ∈ log, ∀ value, x.published = some value →
    value = x.after.view.toJson ∧ x.after.told = some value
  silent : ∀ x ∈ log, ¬ Agrees x.before.view x.after.view ∧ x.published = none ↔ x.Silent
  since : ∀ front x back, log = front ++ x :: back → x.published.isSome →
    (∀ y ∈ back, y.published = none) → s.told = some x.after.view.toJson ∧
      x.after.thermostat.settings.InRange ∧
      Since x.after.thermostat s.thermostat (∃ y ∈ back, y.Silent)

lemma inv_opened {t : Thermostat} (ht : t.settings.InRange) (store : Option Store)
    (slot : BroadcastSlot) : Inv [] (opened t store slot) where
  inRange := ht
  slot := rfl
  publishes := by simp
  silent := by simp
  since := by simp

lemma inv_announced (hi : Inv log s) (h : Step s x t) (hpub : x.published = some t.view.toJson)
    (htold : t.told = some t.view.toJson) (hslot : t.outlets.slot.isSome) (hnot : ¬ x.Silent) :
    Inv (log ++ [x]) t := by
  have hinRange : t.thermostat.settings.InRange := by
    cases h with
    | perform o => exact inRange_run hi.inRange o
  have hafter : x.after = t := by
    cases h with
    | perform o => rfl
  refine ⟨hinRange, hslot, ?_, ?_, ?_⟩
  · intro y hy value hvalue
    rcases List.mem_append.mp hy with hy | hy
    · exact hi.publishes y hy value hvalue
    · obtain rfl := List.mem_singleton.mp hy
      obtain rfl := Option.some.inj (hpub.symm.trans hvalue)
      rw [hafter]
      exact ⟨rfl, htold⟩
  · intro y hy
    rcases List.mem_append.mp hy with hy | hy
    · exact hi.silent y hy
    · obtain rfl := List.mem_singleton.mp hy
      simp [hpub, hnot]
  · intro front y back hlog hy hback
    rcases append_singleton_cases hlog with ⟨rfl, rfl⟩ | ⟨back', rfl, -⟩
    · rw [hafter]
      exact ⟨htold, hinRange, since_refl _ (by simp)⟩
    · simp [hback x (by simp)] at hpub

lemma inv_quiet (hi : Inv log s) (h : Step s x t) (hpub : x.published = none)
    (hout : t.outlets = s.outlets) (hs : t.thermostat.settings = s.thermostat.settings)
    (hq : Quiet x.operation s.thermostat t.thermostat) :
    Inv (log ++ [x]) t := by
  have hinRange : t.thermostat.settings.InRange := by
    cases h with
    | perform o => exact inRange_run hi.inRange o
  obtain ⟨hbefore, hafter⟩ : x.before = s ∧ x.after = t := by
    cases h with
    | perform o => exact ⟨rfl, rfl⟩
  rw [← hbefore, ← hafter] at hs hq
  refine ⟨hinRange, hout ▸ hi.slot, ?_, ?_, ?_⟩
  · intro y hy value hvalue
    rcases List.mem_append.mp hy with hy | hy
    · exact hi.publishes y hy value hvalue
    · obtain rfl := List.mem_singleton.mp hy
      simp [hpub] at hvalue
  · intro y hy
    rcases List.mem_append.mp hy with hy | hy
    · exact hi.silent y hy
    · obtain rfl := List.mem_singleton.mp hy
      simpa [hpub] using not_agrees_iff_silent hq
  · intro front y back hlog hy hback
    rcases append_singleton_cases hlog with ⟨rfl, -⟩ | ⟨back', rfl, hlog'⟩
    · simp [hpub] at hy
    · obtain ⟨htold, hp, hsince⟩ := hi.since front y back' hlog' hy
        fun z hz => hback z (List.mem_append_left _ hz)
      rw [← hbefore] at hsince
      have hnext := since_quiet hp hsince hs hq
      rw [hafter] at hnext
      refine ⟨?_, hp, since_congr hnext ?_⟩
      · simpa [Hosted.told, hout] using htold
      · simp [or_and_right, exists_or]

lemma inv_step (hi : Inv log s) (h : Step s x t) : Inv (log ++ [x]) t := by
  rcases step_cases hi.inRange hi.slot h with ⟨hpub, htold, hslot, hnot⟩ | ⟨hpub, hout, hs, hq⟩
  · exact inv_announced hi h hpub htold hslot hnot
  · exact inv_quiet hi h hpub hout hs hq

/-- **What clients are told.** An operation that publishes anything publishes the view it leaves,
and of the operations that change the view exactly the silent ones publish nothing. After a
publication and until the next one the slot shows the view of then, and that agrees with the view of
now exactly if no operation in between was silent. -/
theorem told_iff {u : Thermostat} {store : Option Store} {slot : BroadcastSlot}
    (hu : u.settings.InRange) (hrun : Run Step (opened u store slot) log s) :
    (∀ x ∈ log,
      (∀ value, x.published = some value →
        value = x.after.view.toJson ∧ x.after.told = some value) ∧
      (¬ Agrees x.before.view x.after.view ∧ x.published = none ↔ x.Silent)) ∧
    ∀ front x back, log = front ++ x :: back → x.published.isSome →
      (∀ y ∈ back, y.published = none) →
        s.told = some x.after.view.toJson ∧
        (Agrees x.after.view s.view ↔ ∀ y ∈ back, ¬ y.Silent) := by
  have hi := hrun.invariant (inv_opened hu store slot) inv_step
  refine ⟨fun x hx => ⟨hi.publishes x hx, hi.silent x hx⟩, ?_⟩
  intro front x back hlog hx hback
  obtain ⟨htold, hp, hsince⟩ := hi.since front x back hlog hx hback
  refine ⟨htold, ?_⟩
  rw [Hosted.view, Hosted.view, agrees_iff_of_since hp hsince]
  simp

/-- A thermostat in winter mode that has been started at twenty degrees, its target. -/
def warm : Thermostat :=
  (new ⟨Binary64.ofNat 20, true, true⟩).start (some ⟨Binary64.ofNat 20, 40⟩) 0

lemma inRange_warm : warm.settings.InRange := by
  rw [Settings.InRange, Settings.admissible_iff]
  decide +kernel

def evening : Hosted := opened warm none (BroadcastSlot.new BroadcastSlot.defaultInterval)

/-- A turn that decides on heating, and one soon after it that samples a lower temperature. -/
def nightfall : List Operation :=
  [.poll (some ⟨Binary64.ofNat 20, 40⟩) 299500, .poll (some ⟨Binary64.ofNat 15, 40⟩) 300000]

def dusk : Hosted := (Run.play act evening nightfall).2

/-- A change of the settings that leaves them as they are. -/
def resettle : Operation := .command .configure (.object [])

def night : Hosted := dusk.perform resettle

/-- The lower temperature is published. That heating starts then is not, and so the slot does not
show the view that there is. -/
theorem told_iff_nightfall :
    ∃ front x y, Run Step evening (front ++ [x, y]) night ∧ x.published.isSome ∧ y.Silent ∧
      night.told = some x.after.view.toJson ∧ ¬ Agrees x.after.view night.view := by
  have hrun := run_play evening (nightfall ++ [resettle])
  have hsilent : Event.Silent ⟨resettle, dusk, night⟩ :=
    ⟨⟨_, rfl⟩, by decide +kernel, by decide +kernel⟩
  obtain ⟨htold, hiff⟩ := (told_iff inRange_warm hrun).2 [_] _ [_] rfl (by decide +kernel)
    (by simp only [List.forall_mem_singleton]; decide +kernel)
  exact ⟨[_], _, _, hrun, by decide +kernel, hsilent, htold,
    fun h => hiff.mp h _ (List.mem_singleton_self _) hsilent⟩

/-- Heating starts with a change of the settings, nothing is published then, and the slot goes on
showing that there is none. -/
theorem unannounced_heating :
    ∃ log x, Run Step evening (log ++ [x]) night ∧ warm.ready = true ∧ x.after = night ∧
      x.before.view.heating = false ∧ x.after.view.heating = true ∧ x.published = none ∧
      night.told = some x.before.view.toJson ∧ night.told ≠ some night.view.toJson := by
  have hrun := run_play evening (nightfall ++ [resettle])
  obtain ⟨htold, -⟩ := (hrun.invariant (inv_opened inRange_warm _ _) inv_step).since [_] _ [_] rfl
    (by decide +kernel) (by simp only [List.forall_mem_singleton]; decide +kernel)
  refine ⟨[_, _], _, hrun, by decide +kernel, rfl, by decide +kernel, by decide +kernel,
    by decide +kernel, htold, fun h => ?_⟩
  have hchars := congrArg (Option.map Json.chars) h
  revert hchars
  decide +kernel

end HomeHub.Publication
