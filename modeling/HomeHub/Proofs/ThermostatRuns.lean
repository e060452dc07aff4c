import Mathlib.Data.List.Induction
import Mathlib.Logic.Function.Basic
import HomeHub.Proofs.Runs
import HomeHub.Proofs.ThermostatLaws
import HomeHub.Service.Outlets

/-!
A thermostat under concurrent commands. A section under its lock only decides what is to be
recorded and published; its actor carries that out afterwards, one effect at a time, and others may
come in between.

So once nothing is in flight an outlet shows what was decided by the section that got to it last,
which need not be the section that decided last. The record is that of the current settings exactly
if nobody has been overtaken, or the one who was happened to ask for the same.
-/

namespace HomeHub.ThermostatRuns

open Service (Effect)

/-! ### Runs -/

/-- Who runs sections of a thermostat. -/
inductive Actor
  | client (n : Nat)
  /-- The control loop. -/
  | core
  deriving DecidableEq

/-- A section that has been under the lock. -/
structure Section where
  actor : Actor
  before : Thermostat
  after : Thermostat
  /-- What its actor has to carry out. -/
  effects : List Effect

/-- The sections that a thermostat can go through. -/
inductive Taken (t : Thermostat) : Section → Prop
  | set (n : Nat) (body : Json) :
      Taken t ⟨.client n, t, (t.set body).state, (t.set body).effects⟩
  | start (reading : Option Reading) (now : Time) :
      Taken t ⟨.core, t, t.start reading now, []⟩
  | poll (reading : Option Reading) (now : Time) :
      Taken t ⟨.core, t, (t.poll reading now).2, (t.poll reading now).1⟩

structure St where
  thermostat : Thermostat
  outlets : Outlets
  /-- What each actor still has to carry out. -/
  pending : Actor → List Effect

inductive Event
  | decided (x : Section)
  | carried (a : Actor) (e : Effect)

/-- A thermostat with the settings that its store holds. -/
def opened (store : Store) (slot : BroadcastSlot) : St :=
  ⟨.restored store.record, ⟨some store, some slot⟩, fun _ => []⟩

/-- A section has been taken, and its actor has everything still before it. -/
def St.decide (s : St) (x : Section) : St :=
  { s with thermostat := x.after, pending := Function.update s.pending x.actor x.effects }

def St.carry (s : St) (a : Actor) (e : Effect) (rest : List Effect) : St :=
  { s with outlets := s.outlets.apply e, pending := Function.update s.pending a rest }

/-- An actor has carried out all that it had to. -/
def St.settle (s : St) (a : Actor) : St :=
  { s with
    outlets := s.outlets.applyAll (s.pending a), pending := Function.update s.pending a [] }

namespace St

variable {s : St} {x : Section} {a b : Actor} {e : Effect} {rest : List Effect}

@[simp] lemma thermostat_decide : (s.decide x).thermostat = x.after := rfl

@[simp] lemma pending_decide_self : (s.decide x).pending x.actor = x.effects :=
  Function.update_self ..

lemma pending_decide_of_ne (h : b ≠ x.actor) : (s.decide x).pending b = s.pending b :=
  Function.update_of_ne h ..

@[simp] lemma pending_carry_self : (s.carry a e rest).pending a = rest := Function.update_self ..

lemma pending_carry_of_ne (h : b ≠ a) : (s.carry a e rest).pending b = s.pending b :=
  Function.update_of_ne h ..

lemma settle_of_idle (h : s.pending a = []) : s.settle a = s := by
  have hupdate : Function.update s.pending a [] = s.pending := by
    rw [← h, Function.update_eq_self]
  rw [settle, hupdate, h]
  rfl

@[simp] lemma pending_settle_self : (s.settle a).pending a = [] := Function.update_self ..

lemma pending_settle_of_ne (h : b ≠ a) : (s.settle a).pending b = s.pending b :=
  Function.update_of_ne h ..

lemma settle_carry (h : s.pending a = e :: rest) : (s.carry a e rest).settle a = s.settle a := by
  simp only [settle, pending_carry_self, h]
  simp only [carry, Function.update_idem]
  rfl

end St

inductive Step : St → Event → St → Prop
  /-- An actor that has nothing left to carry out goes through a section. -/
  | decide {s : St} {x : Section} : s.pending x.actor = [] → Taken s.thermostat x →
      Step s (.decided x) (s.decide x)
  | carry {s : St} {a : Actor} {e : Effect} {rest : List Effect} : s.pending a = e :: rest →
      Step s (.carried a e) (s.carry a e rest)

/-! ### What a log tells -/

inductive Outlet
  | store
  | slot
  deriving DecidableEq

def outlet : Effect → Outlet
  | .record _ => .store
  | .publish _ => .slot

def latest {α : Type} (f : Event → Option α) (log : List Event) : Option α :=
  log.reverse.findSome? f

def decider (k : Outlet) : Event → Option Section
  | .decided x => if k ∈ x.effects.map outlet then some x else none
  | .carried _ _ => none

/-- The section, if its actor is the given one. -/
def deciderOf (k : Outlet) (a : Actor) : Event → Option Section
  | .decided x => if x.actor = a ∧ k ∈ x.effects.map outlet then some x else none
  | .carried _ _ => none

/-- The actor who carried out something for an outlet. -/
def carrier (k : Outlet) : Event → Option Actor
  | .carried a e => if outlet e = k then some a else none
  | .decided _ => none

def lastDecided (k : Outlet) (log : List Event) : Option Section := latest (decider k) log

/-- The section that got to the outlet last, once nothing is in flight: its actor cannot have
decided anything since. -/
def lastCarried (k : Outlet) (log : List Event) : Option Section :=
  (latest (carrier k) log).bind fun a => latest (deciderOf k a) log

variable {α : Type} {f : Event → Option α} {log : List Event} {e : Event} {k : Outlet}
  {a : Actor} {x : Section}

@[simp] lemma latest_nil : latest f [] = none := rfl

lemma latest_snoc : latest f (log ++ [e]) = (f e).or (latest f log) := by
  rw [latest, List.reverse_append, List.reverse_singleton, List.singleton_append,
    List.findSome?_cons]
  cases f e <;> rfl

lemma latest_snoc_of_none (h : f e = none) : latest f (log ++ [e]) = latest f log := by
  rw [latest_snoc, h, Option.none_or]

lemma latest_snoc_of_some {v : α} (h : f e = some v) : latest f (log ++ [e]) = some v := by
  rw [latest_snoc, h, Option.some_or]

lemma latest_deciderOf (h : latest (decider k) log = some x) :
    latest (deciderOf k x.actor) log = some x := by
  induction log using List.reverseRecOn with
  | nil => cases h
  | append_singleton log e ih =>
    rcases e with y | ⟨a, e⟩
    · by_cases hy : k ∈ y.effects.map outlet
      · have hd : decider k (.decided y) = some y := if_pos hy
        rw [latest_snoc_of_some hd] at h
        obtain rfl := Option.some.inj h
        exact latest_snoc_of_some (if_pos ⟨rfl, hy⟩)
      · have hd : decider k (.decided y) = none := if_neg hy
        have hd' : deciderOf k x.actor (.decided y) = none := if_neg fun h => hy h.2
        rw [latest_snoc_of_none hd] at h
        rw [latest_snoc_of_none hd']
        exact ih h
    · rw [latest_snoc_of_none rfl] at h
      rw [latest_snoc_of_none rfl]
      exact ih h

/-! ### Effects -/

/-- What an effect of a section says about the thermostat as the section left it. -/
def Describes (t : Thermostat) : Effect → Prop
  | .record r => Record.ofJson t.settings.toJson = .ok r
  | .publish v => v = t.view.toJson

/-- What an outlet shows after an effect has been carried out. -/
def Shows (o : Outlets) : Effect → Prop
  | .record r => ∃ store, o.store = some store ∧ store.record = r
  | .publish v => ∃ slot, o.slot = some slot ∧ slot.pending = some v

def Equipped (o : Outlets) : Prop := o.store.isSome ∧ o.slot.isSome

lemma shows_apply {o : Outlets} (h : Equipped o) (e : Effect) : Shows (o.apply e) e := by
  obtain ⟨hstore, hslot⟩ := h
  cases e with
  | record r =>
    obtain ⟨store, hstore⟩ := Option.isSome_iff_exists.mp hstore
    exact ⟨store.update r, by simp [Outlets.apply, hstore], rfl⟩
  | publish v =>
    obtain ⟨slot, hslot⟩ := Option.isSome_iff_exists.mp hslot
    exact ⟨(slot.publish v).2, by simp [Outlets.apply, hslot], rfl⟩

lemma shows_apply_of_ne {o : Outlets} {e e' : Effect} (hne : outlet e ≠ outlet e')
    (h : Shows o e') : Shows (o.apply e) e' := by
  cases e <;> cases e' <;> first | exact absurd rfl hne | exact h

lemma equipped_apply {o : Outlets} (h : Equipped o) (e : Effect) : Equipped (o.apply e) := by
  cases e <;> simpa [Equipped, Outlets.apply] using h

lemma taken_facts {t : Thermostat} (h : t.settings.InRange) (hx : Taken t x) :
    x.before = t ∧ x.after.settings.InRange ∧ (∀ e ∈ x.effects, Describes x.after e) ∧
      (Outlet.store ∈ x.effects.map outlet ↔ x.after.settings ≠ t.settings) ∧
      (Outlet.store ∈ x.effects.map outlet → Outlet.slot ∈ x.effects.map outlet) := by
  cases hx with
  | set n body =>
    rcases Thermostat.set_cases h body with ⟨he, hs⟩ | ⟨r, hr, he, hs, hrange⟩
    · simp [he, hs, h]
    · simp [he, hs, hrange, Describes, hr, outlet, Thermostat.tell]
  | start reading now => simp [h]
  | poll reading now =>
    obtain ⟨hs, he | he⟩ := t.poll_cases reading now
    · simp [he, hs, h]
    · simp [he, hs, h, Describes, outlet, Thermostat.tell]

/-! ### Invariants -/

variable {s t : St}

/-- What holds of one outlet: what is pending for it was decided by the last section of its actor,
and so was what the outlet shows, unless the actor who got there last is about to come back. -/
structure OutletInv (k : Outlet) (log : List Event) (s : St) : Prop where
  pending {a : Actor} {e : Effect} : e ∈ s.pending a → outlet e = k →
    ∃ x, latest (deciderOf k a) log = some x ∧ Describes x.after e
  shown {a : Actor} : latest (carrier k) log = some a → (∀ e ∈ s.pending a, outlet e ≠ k) →
    ∃ x e, latest (deciderOf k a) log = some x ∧ outlet e = k ∧ Describes x.after e ∧
      Shows s.outlets e
  reached : (latest (decider k) log).isSome →
    (latest (carrier k) log).isSome ∨ ∃ a, ∃ e ∈ s.pending a, outlet e = k

lemma outletInv_opened (store : Store) (slot : BroadcastSlot) :
    OutletInv k [] (opened store slot) where
  pending he := by cases he
  shown h := by cases h
  reached h := by cases h

lemma outletInv_decide (hi : OutletInv k log s) (hidle : s.pending x.actor = [])
    (hx : ∀ e ∈ x.effects, Describes x.after e) :
    OutletInv k (log ++ [.decided x]) (s.decide x) := by
  have hother {b : Actor} (hb : b ≠ x.actor) : deciderOf k b (.decided x) = none :=
    if_neg fun h => hb h.1.symm
  refine ⟨?_, ?_, ?_⟩
  · intro b e he hk
    rcases eq_or_ne b x.actor with rfl | hb
    · -- the actor was idle, so that all it has pending is of this section
      rw [St.pending_decide_self] at he
      have hmem : k ∈ x.effects.map outlet := List.mem_map.mpr ⟨e, he, hk⟩
      exact ⟨x, latest_snoc_of_some (if_pos ⟨rfl, hmem⟩), hx e he⟩
    · rw [St.pending_decide_of_ne hb] at he
      rw [latest_snoc_of_none (hother hb)]
      exact hi.pending he hk
  · intro b hb hnone
    rw [latest_snoc_of_none rfl] at hb
    rcases eq_or_ne b x.actor with rfl | hne
    · -- the section has decided on nothing for this outlet
      rw [St.pending_decide_self] at hnone
      have hmem : k ∉ x.effects.map outlet := by
        rintro h
        obtain ⟨e, he, hk⟩ := List.mem_map.mp h
        exact hnone e he hk
      have hd : deciderOf k x.actor (.decided x) = none := if_neg fun h => hmem h.2
      rw [latest_snoc_of_none hd]
      exact hi.shown hb (by simp [hidle])
    · rw [St.pending_decide_of_ne hne] at hnone
      rw [latest_snoc_of_none (hother hne)]
      exact hi.shown hb hnone
  · intro h
    rw [latest_snoc_of_none rfl]
    by_cases hmem : k ∈ x.effects.map outlet
    · obtain ⟨e, he, hk⟩ := List.mem_map.mp hmem
      exact Or.inr ⟨x.actor, e, by rwa [St.pending_decide_self], hk⟩
    · have hd : decider k (.decided x) = none := if_neg hmem
      rw [latest_snoc_of_none hd] at h
      rcases hi.reached h with h | ⟨b, e, he, hk⟩
      · exact Or.inl h
      · have hb : b ≠ x.actor := by
          rintro rfl
          simp [hidle] at he
        exact Or.inr ⟨b, e, by rwa [St.pending_decide_of_ne hb], hk⟩

lemma outletInv_carry {rest : List Effect} {e : Effect} (hi : OutletInv k log s)
    (hequip : Equipped s.outlets) (h : s.pending a = e :: rest) :
    OutletInv k (log ++ [.carried a e]) (s.carry a e rest) := by
  have hrest {b : Actor} {e' : Effect} (he : e' ∈ (s.carry a e rest).pending b) :
      e' ∈ s.pending b := by
    rcases eq_or_ne b a with rfl | hb
    · rw [St.pending_carry_self] at he
      rw [h]
      exact List.mem_cons_of_mem e he
    · rwa [St.pending_carry_of_ne hb] at he
  have hkept {b : Actor} {e' : Effect} (he : e' ∈ s.pending b) (hne : outlet e ≠ outlet e') :
      e' ∈ (s.carry a e rest).pending b := by
    rcases eq_or_ne b a with rfl | hb
    · rw [St.pending_carry_self]
      rw [h] at he
      rcases List.mem_cons.mp he with rfl | he
      · exact absurd rfl hne
      · exact he
    · rwa [St.pending_carry_of_ne hb]
  refine ⟨?_, ?_, ?_⟩
  · intro b e' he hk
    rw [latest_snoc_of_none rfl]
    exact hi.pending (hrest he) hk
  · intro b hb hnone
    rw [latest_snoc_of_none rfl]
    by_cases hk : outlet e = k
    · -- the actor is the last to carry out, and the outlet shows what it had pending
      have hc : carrier k (.carried a e) = some a := if_pos hk
      rw [latest_snoc_of_some hc] at hb
      obtain rfl := Option.some.inj hb
      obtain ⟨x, hx, hd⟩ := hi.pending (by rw [h]; exact List.mem_cons_self ..) hk
      exact ⟨x, e, hx, hk, hd, shows_apply hequip e⟩
    · have hc : carrier k (.carried a e) = none := if_neg hk
      rw [latest_snoc_of_none hc] at hb
      obtain ⟨x, e', hx, hk', hd, hs⟩ := hi.shown hb fun e' he hk' =>
        hnone e' (hkept he fun heq => hk (heq.trans hk')) hk'
      exact ⟨x, e', hx, hk', hd, shows_apply_of_ne (by rwa [hk']) hs⟩
  · intro hdec
    rw [latest_snoc_of_none rfl] at hdec
    by_cases hk : outlet e = k
    · have hc : carrier k (.carried a e) = some a := if_pos hk
      exact Or.inl (by rw [latest_snoc_of_some hc]; rfl)
    · have hc : carrier k (.carried a e) = none := if_neg hk
      rw [latest_snoc_of_none hc]
      rcases hi.reached hdec with h | ⟨b, e', he, hk'⟩
      · exact Or.inl h
      · exact Or.inr ⟨b, e', hkept he fun heq => hk (heq.trans hk'), hk'⟩

structure Inv (log : List Event) (s : St) : Prop where
  inRange : s.thermostat.settings.InRange
  equipped : Equipped s.outlets
  outlet (k : Outlet) : OutletInv k log s
  /-- The settings are those of the last change. -/
  settings {x : Section} : latest (decider .store) log = some x →
    x.after.settings = s.thermostat.settings
  changed {x : Section} : .decided x ∈ log → x.after.settings ≠ x.before.settings →
    (latest (decider .store) log).isSome
  published : (latest (decider .store) log).isSome → (latest (decider .slot) log).isSome

lemma inv_opened (store : Store) (slot : BroadcastSlot) : Inv [] (opened store slot) where
  inRange := Thermostat.inRange_restored _
  equipped := ⟨rfl, rfl⟩
  outlet _ := outletInv_opened store slot
  settings h := by cases h
  changed h := by cases h
  published h := by cases h

lemma isSome_latest_snoc (h : (latest f log).isSome) (e : Event) :
    (latest f (log ++ [e])).isSome := by
  rw [latest_snoc]
  cases f e
  · exact h
  · rfl

lemma inv_decide (hi : Inv log s) (hidle : s.pending x.actor = [])
    (hx : Taken s.thermostat x) :
    Inv (log ++ [.decided x]) (s.decide x) := by
  obtain ⟨hbefore, hrange, hdescr, hstore, hslot⟩ := taken_facts hi.inRange hx
  refine ⟨hrange, hi.equipped, fun k => outletInv_decide (hi.outlet k) hidle hdescr, ?_, ?_, ?_⟩
  · intro y hy
    by_cases hmem : Outlet.store ∈ x.effects.map outlet
    · have hd : decider .store (.decided x) = some x := if_pos hmem
      rw [latest_snoc_of_some hd] at hy
      rw [St.thermostat_decide, Option.some.inj hy]
    · have hd : decider .store (.decided x) = none := if_neg hmem
      rw [latest_snoc_of_none hd] at hy
      -- a section that records nothing leaves the settings alone
      have hsame : x.after.settings = s.thermostat.settings := by
        by_contra hne
        exact hmem (hstore.mpr hne)
      rw [St.thermostat_decide, hsame]
      exact hi.settings hy
  · intro y hy hne
    rcases List.mem_append.mp hy with hy | hy
    · exact isSome_latest_snoc (hi.changed hy hne) _
    · obtain rfl : y = x := by simpa using hy
      rw [hbefore] at hne
      have hd : decider .store (.decided y) = some y := if_pos (hstore.mpr hne)
      rw [latest_snoc_of_some hd]
      rfl
  · intro h
    by_cases hmem : Outlet.store ∈ x.effects.map outlet
    · have hd : decider .slot (.decided x) = some x := if_pos (hslot hmem)
      rw [latest_snoc_of_some hd]
      rfl
    · have hd : decider .store (.decided x) = none := if_neg hmem
      rw [latest_snoc_of_none hd] at h
      exact isSome_latest_snoc (hi.published h) _

lemma inv_carry {rest : List Effect} {e : Effect} (hi : Inv log s) (h : s.pending a = e :: rest) :
    Inv (log ++ [.carried a e]) (s.carry a e rest) := by
  refine ⟨hi.inRange, equipped_apply hi.equipped e,
    fun k => outletInv_carry (hi.outlet k) hi.equipped h, ?_, ?_, ?_⟩
  · intro y hy
    rw [latest_snoc_of_none rfl] at hy
    exact hi.settings hy
  · intro y hy hne
    rw [latest_snoc_of_none rfl]
    exact hi.changed (by simpa using hy) hne
  · rw [latest_snoc_of_none rfl, latest_snoc_of_none rfl]
    exact hi.published

lemma inv_step (hi : Inv log s) (hs : Step s e t) : Inv (log ++ [e]) t := by
  cases hs with
  | decide hidle hx => exact inv_decide hi hidle hx
  | carry h => exact inv_carry hi h

/-! ### At rest -/

/-- Nothing is in flight. -/
def AtRest (s : St) : Prop := ∀ a, s.pending a = []

/-- The record in the store is that of the settings. -/
def Kept (s : St) : Prop :=
  ∃ store, s.outlets.store = some store ∧
    Settings.ofRecord? store.record = some s.thermostat.settings

/-- The slot holds the view of the section that was the last to decide on publishing. -/
def Told (log : List Event) (s : St) : Prop :=
  ∃ slot x, s.outlets.slot = some slot ∧ lastDecided .slot log = some x ∧
    slot.pending = some x.after.view.toJson

/-- What comes back of settings that are recorded and read again. -/
def readBack (σ : Settings) : Option Settings :=
  match Record.ofJson σ.toJson with
  | .ok r => Settings.ofRecord? r
  | .error _ => none

lemma exists_lastCarried (hi : OutletInv k log s) (hrest : AtRest s)
    (h : (latest (decider k) log).isSome) :
    ∃ x e, lastCarried k log = some x ∧ outlet e = k ∧ Describes x.after e ∧
      Shows s.outlets e := by
  rcases hi.reached h with h | ⟨a, e, he, -⟩
  · obtain ⟨a, ha⟩ := Option.isSome_iff_exists.mp h
    obtain ⟨x, e, hx, hk, hd, hs⟩ := hi.shown ha (by simp [hrest a])
    exact ⟨x, e, by rw [lastCarried, ha]; exact hx, hk, hd, hs⟩
  · simp [hrest a] at he

/-- The actor that decided last has not been overtaken if it carried out last. -/
theorem lastCarried_eq_lastDecided {x : Section} (h : lastDecided k log = some x)
    (hc : latest (carrier k) log = some x.actor) : lastCarried k log = some x := by
  rw [lastCarried, hc]
  exact latest_deciderOf h

lemma run_settle {s₀ : St} (a : Actor) (hr : Run Step s₀ log s) :
    Run Step s₀ (log ++ (s.pending a).map (.carried a)) (s.settle a) := by
  -- by induction on what is left to be carried out, not on the run
  generalize h : s.pending a = effects
  induction effects generalizing log s with
  | nil =>
    rw [St.settle_of_idle h, List.map_nil, List.append_nil]
    exact hr
  | cons e rest ih =>
    have hnext := ih (hr.snoc (.carry h)) St.pending_carry_self
    rw [St.settle_carry h] at hnext
    rw [List.map_cons, List.append_cons]
    exact hnext

lemma exists_run_overtaken {s₀ : St} {x y : Section} (hr : Run Step s₀ log s) (hrest : AtRest s)
    (hne : y.actor ≠ x.actor) (hx : Taken s.thermostat x) (hy : Taken x.after y) :
    ∃ t, Run Step s₀ (log ++ [.decided x] ++ [.decided y] ++ y.effects.map (.carried y.actor) ++
        x.effects.map (.carried x.actor)) t ∧ AtRest t ∧ t.thermostat = y.after := by
  have h1 := hr.snoc (.decide (hrest x.actor) hx)
  have hidle : (s.decide x).pending y.actor = [] := by
    rw [St.pending_decide_of_ne hne]
    exact hrest y.actor
  have h2 := h1.snoc (.decide hidle hy)
  have h3 := run_settle x.actor (run_settle y.actor h2)
  simp only [St.pending_decide_self, St.pending_settle_of_ne hne.symm,
    St.pending_decide_of_ne hne.symm] at h3
  refine ⟨_, h3, fun a => ?_, rfl⟩
  rcases eq_or_ne a x.actor with rfl | hax
  · exact St.pending_settle_self
  · rw [St.pending_settle_of_ne hax]
    rcases eq_or_ne a y.actor with rfl | hay
    · exact St.pending_settle_self
    · rw [St.pending_settle_of_ne hay, St.pending_decide_of_ne hay, St.pending_decide_of_ne hax]
      exact hrest a

/-- Of any two changes the later one can be overtaken: it determines the settings, but the outlets
come to show the earlier one. -/
theorem exists_overtaken (store : Store) (slot : BroadcastSlot) {t u v : Thermostat} {b c : Json}
    (ht : t = .restored store.record) (hu : u = (t.set b).state) (hv : v = (u.set c).state)
    (htu : u.settings ≠ t.settings) (huv : v.settings ≠ u.settings) :
    ∃ log s, Run Step (opened store slot) log s ∧ AtRest s ∧ s.thermostat = v ∧
      (∃ x, .decided x ∈ log ∧ x.after.settings ≠ x.before.settings) ∧
      ∀ k, ∃ x y, lastDecided k log = some x ∧ x.after = v ∧
        lastCarried k log = some y ∧ y.after = u := by
  have ht' : t.settings.InRange := ht ▸ Thermostat.inRange_restored store.record
  have hu' : u.settings.InRange := hu ▸ Thermostat.inRange_set ht' b
  obtain ⟨r, -, he⟩ := Thermostat.exists_record_of_set ht' (hu ▸ htu)
  obtain ⟨r', -, he'⟩ := Thermostat.exists_record_of_set hu' (hv ▸ huv)
  have hx : Taken (opened store slot).thermostat ⟨.client 0, t, u, (t.set b).effects⟩ := by
    rw [hu, ht]
    exact .set 0 b
  have hy : Taken u ⟨.client 1, u, v, (u.set c).effects⟩ := by
    rw [hv]
    exact .set 1 c
  obtain ⟨s, hrun, hrest, hs⟩ := exists_run_overtaken .nil (fun _ => rfl) (by simp) hx hy
  refine ⟨_, s, hrun, hrest, hs,
    ⟨⟨.client 0, t, u, (t.set b).effects⟩, by simp, htu⟩, fun k => ?_⟩
  refine ⟨⟨.client 1, u, v, (u.set c).effects⟩, ⟨.client 0, t, u, (t.set b).effects⟩, ?_, rfl, ?_,
    rfl⟩
  · cases k <;>
      simp [lastDecided, latest, decider, he, he', outlet, Thermostat.tell, List.findSome?_cons]
  · cases k <;>
      simp [lastCarried, latest, carrier, deciderOf, he, he', outlet, Thermostat.tell,
        List.findSome?_cons]

/-- **What concurrent commands leave.** Once nothing is in flight, and if the settings have changed
at all, the store keeps the settings exactly if the section that recorded last has recorded
something that reads as the settings of the section that changed them last, and the slot tells the
view of the section that decided last exactly if the one that published last had the same view. -/
theorem at_rest_iff {store : Store} {slot : BroadcastSlot}
    (hrun : Run Step (opened store slot) log s) (hrest : AtRest s) (hx : .decided x ∈ log)
    (hchange : x.after.settings ≠ x.before.settings) :
    ∃ c d p q, lastDecided .store log = some c ∧ lastCarried .store log = some d ∧
      lastDecided .slot log = some p ∧ lastCarried .slot log = some q ∧
      (Kept s ↔ readBack d.after.settings = some c.after.settings) ∧
      (Told log s ↔ q.after.view.toJson = p.after.view.toJson) := by
  have hi := hrun.invariant (inv_opened store slot) inv_step
  have hstore := hi.changed hx hchange
  have hslot := hi.published hstore
  obtain ⟨c, hc⟩ := Option.isSome_iff_exists.mp hstore
  obtain ⟨p, hp⟩ := Option.isSome_iff_exists.mp hslot
  obtain ⟨d, e, hd, hk, hdescr, hshows⟩ := exists_lastCarried (hi.outlet .store) hrest hstore
  obtain ⟨q, e', hq, hk', hdescr', hshows'⟩ := exists_lastCarried (hi.outlet .slot) hrest hslot
  refine ⟨c, d, p, q, hc, hd, hp, hq, ?_, ?_⟩
  · cases e with
    | publish v => cases hk
    | record r =>
      obtain ⟨kept, hkept, rfl⟩ := hshows
      simp only [Describes] at hdescr
      simp [Kept, hkept, readBack, hdescr, hi.settings hc]
  · cases e' with
    | record r => cases hk'
    | publish v =>
      obtain ⟨told, htold, hv⟩ := hshows'
      simp only [Describes] at hdescr'
      simp [Told, htold, lastDecided, hp, hv, hdescr']

/-- The body of a command that sets the target temperature. -/
def targetBody (t : Binary64) : Json := .object [(Settings.targetField, .ofBinary64 t)]

def freshStore : Store := ⟨Store.defaultConfig, Record.empty, false, none, 0⟩

def freshSlot : BroadcastSlot := BroadcastSlot.new BroadcastSlot.defaultInterval

/-- A thermostat without a record, after commands that set the target temperature. -/
def commanded : List Binary64 → Thermostat
  | [] => .restored Record.empty
  | t :: ts => ((commanded ts).set (targetBody t)).state

/-- Two clients set the target temperature, to 20 and then to 21. The second one is done before the
first one has come to record and publish anything, and so the store and the slot are left with
the first target and the thermostat with the second. -/
theorem overtaken_command :
    ∃ log s, Run Step (opened freshStore freshSlot) log s ∧ AtRest s ∧
      s.thermostat.settings.target = Binary64.ofNat 21 ∧ ¬ Kept s ∧ ¬ Told log s := by
  obtain ⟨log, s, hrun, hrest, hs, ⟨x, hx, hchange⟩, hlog⟩ :=
    exists_overtaken freshStore freshSlot (t := commanded []) (u := commanded [Binary64.ofNat 20])
      (v := commanded [Binary64.ofNat 21, Binary64.ofNat 20]) rfl rfl rfl (by decide +kernel)
      (by decide +kernel)
  obtain ⟨c, d, p, q, hc, hd, hp, hq, hkept, htold⟩ := at_rest_iff hrun hrest hx hchange
  obtain ⟨c', d', hc', hcv, hd', hdu⟩ := hlog .store
  obtain ⟨p', q', hp', hpv, hq', hqu⟩ := hlog .slot
  obtain rfl := Option.some.inj (hc.symm.trans hc')
  obtain rfl := Option.some.inj (hd.symm.trans hd')
  obtain rfl := Option.some.inj (hp.symm.trans hp')
  obtain rfl := Option.some.inj (hq.symm.trans hq')
  refine ⟨log, s, hrun, hrest, ?_, ?_, ?_⟩
  · rw [hs]
    decide +kernel
  · rw [hkept, hcv, hdu]
    decide +kernel
  · rw [htold, hpv, hqu]
    intro h
    have hchars := congrArg Json.chars h
    revert hchars
    decide +kernel

/-- A command that changes the settings, with no other in flight, has them kept exactly if they are
read back as they are written. -/
theorem exists_kept_iff (store : Store) (slot : BroadcastSlot) {t u : Thermostat} {b : Json}
    (ht : t = .restored store.record) (hu : u = (t.set b).state)
    (htu : u.settings ≠ t.settings) :
    ∃ log s, Run Step (opened store slot) log s ∧ AtRest s ∧ s.thermostat = u ∧
      (Kept s ↔ readBack u.settings = some u.settings) := by
  have ht' : t.settings.InRange := ht ▸ Thermostat.inRange_restored store.record
  obtain ⟨r, hr, he⟩ := Thermostat.exists_record_of_set ht' (hu ▸ htu)
  have hx : Taken (opened store slot).thermostat ⟨.client 0, t, u, (t.set b).effects⟩ := by
    rw [hu, ht]
    exact .set 0 b
  have hrun := run_settle (.client 0) (Run.nil.snoc (.decide rfl hx))
  refine ⟨_, _, hrun, fun a => ?_, rfl, ?_⟩
  · rcases eq_or_ne a (.client 0) with rfl | ha
    · exact St.pending_settle_self
    · rw [St.pending_settle_of_ne ha]
      exact St.pending_decide_of_ne ha
  · have hpending : ((opened store slot).decide
        ⟨.client 0, t, u, (t.set b).effects⟩).pending (.client 0) = (t.set b).effects :=
      St.pending_decide_self
    rw [← hu] at hr
    rw [St.settle, hpending, he]
    simp [Kept, Outlets.applyAll, Outlets.apply, Thermostat.tell, St.decide, opened,
      Store.update, readBack, hr]

/-- One client sets the target temperature, to a number that is not read back as it is written. -/
theorem digit_lost_in_record :
    Json.readNumber "21.1910000000000391".toList =
        some (.real ⟨false, 4626657953913604418⟩, []) ∧
      ∃ log s, Run Step (opened freshStore freshSlot) log s ∧ AtRest s ∧
        s.thermostat.settings = ⟨⟨false, 4626657953913604418⟩, true, false⟩ ∧ ¬ Kept s := by
  obtain ⟨log, s, hrun, hrest, hs, hkept⟩ := exists_kept_iff freshStore freshSlot
    (t := commanded []) (u := commanded [⟨false, 4626657953913604418⟩]) rfl rfl (by decide +kernel)
  refine ⟨by decide +kernel, log, s, hrun, hrest, ?_, ?_⟩
  · rw [hs]
    decide +kernel
  · rw [hkept]
    decide +kernel

end HomeHub.ThermostatRuns
