import HomeHub.Proofs.SettingsChanges

/-!
Heating over whole runs.

A decision on heating speaks for it, against it, or not at all, and it is on exactly if the last
decision that spoke was for it. When decisions are made is told by what was done alone: at a start,
at a change of the settings, and at a turn of the control loop that comes a second or more after the
last check.

Two things carry this. A decision keeps to what it says whatever heating was before, and leaves it
as it was if it says nothing; and a thermostat remembers the time of the last check.
-/

namespace HomeHub.Hysteresis

open Settings (InRange)
open SettingsChanges (Event)
open Thermostat (checkInterval demand hysteresis)

/-! ### Runs -/

/-- Something done with a thermostat, and the thermostat before and after it. -/
structure Moment where
  event : Event
  before : Thermostat
  after : Thermostat

inductive Step (t : Thermostat) : Moment → Thermostat → Prop
  | of {e : Event} {u : Thermostat} : SettingsChanges.Step t e u → Step t ⟨e, t, u⟩ u

/-! ### What a log tells -/

/-- Whether a turn of the control loop is a check, given the time of the last one. -/
def isCheck (last : Option Time) (now : Time) : Bool :=
  last.any fun time => time + 1000 ≤ now

/-- The time of the last check after an event, given the one before it. A start is a check, a change
of the settings is none. -/
def nextCheck (last : Option Time) : Event → Option Time
  | .started _ now => some now
  | .operated (.poll _ now) => if isCheck last now then some now else last
  | .operated (.command _ _) => last

def lastCheck (log : List Moment) : Option Time :=
  log.foldl (fun last m => nextCheck last m.event) none

/-- Whether heating is decided on, given the time of the last check. -/
def Moment.decides (m : Moment) (last : Option Time) : Bool :=
  match m.event with
  | .started _ _ => true
  | .operated (.poll _ now) => isCheck last now
  | .operated (.command .configure body) => (m.before.handle .configure body).result.isOk
  | .operated (.command _ _) => false

/-- The moments at which heating is decided on. -/
def decisions (last : Option Time) : List Moment → List Moment
  | [] => []
  | m :: log =>
    (if m.decides last then [m] else []) ++ decisions (nextCheck last m.event) log

inductive Verdict
  | on
  | off
  deriving DecidableEq, Repr

/-- What a decision says with these settings at this temperature. -/
def verdict? (s : Settings) (x : Binary64) : Option Verdict :=
  if s.winter = false ∨ ¬ x.lt (s.target.add (.ofNat 1)) then some .off
  else if s.winter = true ∧ x.lt s.target then some .on
  else none

def Moment.verdict? (m : Moment) : Option Verdict :=
  Hysteresis.verdict? m.after.settings m.after.temperature

/-- What the decisions of a log have said, first to last. -/
def verdicts (log : List Moment) : List Verdict := (decisions none log).filterMap Moment.verdict?

variable {t u : Thermostat} {log front back : List Moment} {m : Moment} {last : Option Time}

lemma lastCheck_snoc : lastCheck (log ++ [m]) = nextCheck (lastCheck log) m.event := by
  rw [lastCheck, List.foldl_append]
  rfl

lemma decisions_append : decisions last (log ++ back) = decisions last log ++
    decisions (log.foldl (fun last m => nextCheck last m.event) last) back := by
  induction log generalizing last with
  | nil => rfl
  | cons m log ih =>
    rw [List.cons_append, decisions, decisions, ih, List.foldl_cons, List.append_assoc]

lemma decisions_snoc : decisions none (log ++ [m]) =
    decisions none log ++ if m.decides (lastCheck log) then [m] else [] := by
  rw [decisions_append, decisions, decisions, List.append_nil, lastCheck]

lemma getLast?_verdicts_snoc : (verdicts (log ++ [m])).getLast? =
    if m.decides (lastCheck log) then m.verdict?.or (verdicts log).getLast?
    else (verdicts log).getLast? := by
  rw [verdicts, decisions_snoc]
  split
  · rw [List.filterMap_append, List.getLast?_append, verdicts]
    cases h : m.verdict? <;> simp [h]
  · rw [List.append_nil, verdicts]

/-! ### One decision -/

variable {s : Settings} {x : Binary64}

lemma demand_eq (h : s.InRange) (heating : Bool) : demand s x heating =
    match verdict? s x with
    | some .on => true
    | some .off => false
    | none => heating := by
  have hone : Binary64.ofNat 1 = hysteresis := rfl
  have hlt := Thermostat.lt_add_hysteresis h (x := x)
  cases hw : s.winter with
  | false => simp [demand, verdict?, hw]
  | true =>
    cases hlow : x.lt s.target <;> cases hhigh : x.lt (s.target.add hysteresis)
    · cases heating <;> simp [demand, verdict?, hone, hw, hlow, hhigh]
    · cases heating <;> simp [demand, verdict?, hone, hw, hlow, hhigh]
    · simp [hlow, hhigh] at hlt
    · cases heating <;> simp [demand, verdict?, hone, hw, hlow, hhigh]

lemma demand_starts (h : demand s x false = true) : x.lt s.target = true := by
  simp only [demand, Bool.and_eq_true, Bool.false_eq_true, if_false] at h
  exact h.2

lemma demand_stops (h : demand s x true = false) (hw : s.winter = true) :
    x.lt (s.target.add (.ofNat 1)) = false := by
  rw [demand, hw, Bool.true_and, if_pos rfl] at h
  exact h

lemma winter_of_demand {heating : Bool} (h : demand s x heating = true) : s.winter = true := by
  simp only [demand, Bool.and_eq_true] at h
  exact h.1

/-! ### One step -/

/-- What a thermostat keeps of its checks. -/
structure Timed (last : Option Time) (t : Thermostat) : Prop where
  lastCheck : t.lastCheck = last
  ready : t.ready = last.isSome

/-- What becomes of a thermostat at a moment. -/
structure Goes (last : Option Time) (m : Moment) : Prop where
  timed : Timed (nextCheck last m.event) m.after
  decided : m.decides last = true →
    m.after.heating = demand m.after.settings m.after.temperature m.before.heating
  undecided : m.decides last = false →
    m.after.heating = m.before.heating ∧ m.after.settings = m.before.settings

lemma timed_new (s : Settings) : Timed none (.new s) := ⟨rfl, rfl⟩

lemma set_cases (h : t.settings.InRange) (body : Json) :
    ((t.set body).result.isOk = true ∧
      ∃ s, (t.set body).state = SettingsChanges.settled t s) ∨
    ((t.set body).result.isOk = false ∧ (t.set body).state = t) := by
  rcases hc : t.settings.change body with why | s
  · exact .inr (by simp [Thermostat.set, Thermostat.configure, hc, Except.isOk, Except.toBool])
  · by_cases hs : s = t.settings
    · subst hs
      rw [SettingsChanges.set_of_same h hc]
      exact .inl ⟨rfl, _, rfl⟩
    · obtain ⟨record, -, hset⟩ := SettingsChanges.set_of_ne h hc hs
      rw [hset]
      exact .inl ⟨rfl, _, rfl⟩

lemma goes_set (h : t.settings.InRange) (ht : Timed last t) (body : Json) :
    Goes last ⟨.operated (.command .configure body), t, (t.set body).state⟩ := by
  have hhandle : t.handle .configure body = t.set body := rfl
  rcases set_cases h body with ⟨hok, s, hs⟩ | ⟨hok, hs⟩
  · rw [hs]
    refine ⟨⟨ht.lastCheck, ht.ready⟩, fun _ => rfl, fun hnot => ?_⟩
    simp [Moment.decides, hhandle, hok] at hnot
  · rw [hs]
    refine ⟨ht, fun hdecides => ?_, fun _ => ⟨rfl, rfl⟩⟩
    simp [Moment.decides, hhandle, hok] at hdecides

lemma goes_start (t : Thermostat) (reading : Option Reading) (now : Time) :
    Goes last ⟨.started reading now, t, t.start reading now⟩ := by
  refine ⟨⟨?_, ?_⟩, fun _ => ?_, fun hnot => ?_⟩
  · cases reading <;> rfl
  · cases reading <;> rfl
  · cases reading <;> rfl
  · cases hnot

lemma isCheck_some (time now : Time) :
    isCheck (some time) now = Thermostat.isDue (some time) checkInterval now := by
  have hdue : checkInterval ≤ elapsed time now ↔ time + 1000 ≤ now :=
    le_elapsed_iff (show 0 < checkInterval by decide)
  simp [isCheck, Thermostat.isDue, hdue]

lemma sampled_frame (t : Thermostat) (reading : Option Reading) (now : Time) :
    let u := if Thermostat.isDue t.lastSample Thermostat.sampleInterval now then
      t.sample reading now else t
    u.lastCheck = t.lastCheck ∧ u.ready = t.ready ∧ u.heating = t.heating ∧
      u.settings = t.settings := by
  dsimp only
  split
  · cases reading <;> exact ⟨rfl, rfl, rfl, rfl⟩
  · exact ⟨rfl, rfl, rfl, rfl⟩

lemma goes_poll (ht : Timed last t) (reading : Option Reading) (now : Time) :
    Goes last ⟨.operated (.poll reading now), t, (t.poll reading now).2⟩ := by
  obtain ⟨hlast, hready⟩ := ht
  rcases last with _ | time
  · -- before the first start a turn does nothing
    have hpoll : (t.poll reading now).2 = t := by simp [Thermostat.poll, Thermostat.turn, hready]
    rw [hpoll]
    refine ⟨⟨hlast, hready⟩, fun hdecides => ?_, fun _ => ⟨rfl, rfl⟩⟩
    cases hdecides
  · have hpoll : (t.poll reading now).2 = t.refresh reading now := by
      simp [Thermostat.poll, Thermostat.turn, hready]
    obtain ⟨h1, h2, h3, h4⟩ := sampled_frame t reading now
    rw [hpoll]
    unfold Thermostat.refresh
    generalize (if Thermostat.isDue t.lastSample Thermostat.sampleInterval now then
      t.sample reading now else t) = u at h1 h2 h3 h4
    have hdue : Thermostat.isDue u.lastCheck checkInterval now = isCheck (some time) now := by
      rw [h1, hlast, isCheck_some]
    dsimp only
    rw [hdue]
    rcases hcheck : isCheck (some time) now with _ | _
    · refine ⟨⟨?_, ?_⟩, fun hdecides => ?_, fun _ => ⟨h3, h4⟩⟩
      · simp [nextCheck, hcheck, h1, hlast]
      · simp [nextCheck, hcheck, h2, hready]
      · simp [Moment.decides, hcheck] at hdecides
    · refine ⟨⟨?_, ?_⟩, fun _ => ?_, fun hnot => ?_⟩
      · simp [nextCheck, hcheck, Thermostat.evaluate]
      · simp [nextCheck, hcheck, Thermostat.evaluate, h2, hready]
      · simp [Thermostat.evaluate, h3]
      · simp [Moment.decides, hcheck] at hnot

lemma goes_step (h : t.settings.InRange) (ht : Timed last t) (hstep : Step t m u) :
    m.before = t ∧ m.after = u ∧ u.settings.InRange ∧ Goes last m := by
  cases hstep with
  | of hstep =>
    refine ⟨rfl, rfl, SettingsChanges.inRange_step h hstep, ?_⟩
    cases hstep with
    | start reading now => exact goes_start t reading now
    | operate o =>
      cases o with
      | poll reading now => exact goes_poll ht reading now
      | command c body =>
        cases c with
        | configure => exact goes_set h ht body
        | _ => exact ⟨ht, nofun, fun _ => ⟨rfl, rfl⟩⟩

/-! ### Runs -/

/-- How heating goes at a moment that comes after others. -/
structure Regulated (past : List Moment) (m : Moment) : Prop where
  heating : m.after.heating = true ↔ (verdicts (past ++ [m])).getLast? = some .on
  decided : m.decides (lastCheck past) = true →
    m.after.heating = demand m.after.settings m.after.temperature m.before.heating
  undecided : m.decides (lastCheck past) = false → m.after.heating = m.before.heating
  winter : m.after.heating = true → m.after.settings.winter = true
  starts : m.before.heating = false → m.after.heating = true →
    m.after.temperature.lt m.after.settings.target = true
  stops : m.before.heating = true → m.after.heating = false → m.after.settings.winter = true →
    m.after.temperature.lt (m.after.settings.target.add (.ofNat 1)) = false

structure Inv (log : List Moment) (t : Thermostat) : Prop where
  inRange : t.settings.InRange
  timed : Timed (lastCheck log) t
  winter : t.heating = true → t.settings.winter = true
  heating : t.heating = true ↔ (verdicts log).getLast? = some .on
  regulated : ∀ front m back, log = front ++ m :: back → Regulated front m

lemma inv_restored (r : Record) : Inv [] (.restored r) where
  inRange := Thermostat.inRange_restored r
  timed := timed_new _
  winter h := by cases h
  heating := by simp [Thermostat.restored, Thermostat.new, verdicts, decisions]
  regulated front m back h := by simp at h

lemma heating_snoc (h : m.after.settings.InRange) (hgoes : Goes (lastCheck log) m)
    (hbefore : m.before.heating = true ↔ (verdicts log).getLast? = some .on) :
    m.after.heating = true ↔ (verdicts (log ++ [m])).getLast? = some .on := by
  rw [getLast?_verdicts_snoc]
  rcases hd : m.decides (lastCheck log) with _ | _
  · rw [(hgoes.undecided hd).1, hbefore]
    rfl
  · rw [hgoes.decided hd, demand_eq h, if_pos rfl]
    rcases hv : m.verdict? with _ | _ | _ <;> rw [Moment.verdict?] at hv <;> rw [hv]
    · exact hbefore
    · simp
    · simp

lemma winter_snoc (hgoes : Goes last m)
    (hbefore : m.before.heating = true → m.before.settings.winter = true)
    (h : m.after.heating = true) : m.after.settings.winter = true := by
  rcases hd : m.decides last with _ | _
  · obtain ⟨hheating, hsettings⟩ := hgoes.undecided hd
    rw [hsettings]
    exact hbefore (hheating ▸ h)
  · rw [hgoes.decided hd] at h
    exact winter_of_demand h

/-- Heating that changes has been decided on. -/
lemma decided_of_ne (hgoes : Goes last m) (hne : m.after.heating ≠ m.before.heating) :
    m.after.heating = demand m.after.settings m.after.temperature m.before.heating := by
  rcases hd : m.decides last with _ | _
  · exact absurd (hgoes.undecided hd).1 hne
  · exact hgoes.decided hd

lemma regulated_snoc (hi : Inv log m.before) (h : m.after.settings.InRange)
    (hgoes : Goes (lastCheck log) m) : Regulated log m where
  heating := heating_snoc h hgoes hi.heating
  decided := hgoes.decided
  undecided hd := (hgoes.undecided hd).1
  winter := winter_snoc hgoes hi.winter
  starts hoff hon := by
    have hd := decided_of_ne hgoes (by simp [hoff, hon])
    rw [hon, hoff] at hd
    exact demand_starts hd.symm
  stops hon hoff hw := by
    have hd := decided_of_ne hgoes (by simp [hoff, hon])
    rw [hon, hoff] at hd
    exact demand_stops hd.symm hw

lemma inv_step (hi : Inv log t) (hstep : Step t m u) : Inv (log ++ [m]) u := by
  obtain ⟨rfl, rfl, hrange, hgoes⟩ := goes_step hi.inRange hi.timed hstep
  have hreg := regulated_snoc hi hrange hgoes
  refine ⟨hrange, ?_, hreg.winter, hreg.heating, fun front n back hlog => ?_⟩
  · rw [lastCheck_snoc]
    exact hgoes.timed
  · rcases append_singleton_cases hlog with ⟨rfl, rfl⟩ | ⟨back', rfl, hlog'⟩
    · obtain ⟨rfl, -⟩ := List.append_inj' hlog rfl
      exact hreg
    · exact hi.regulated front n back' hlog'

/-- **Hysteresis.** At every moment of a run, whatever the sensor reads and whenever the turns come,
heating is on exactly if the decisions so far have said something and the last word was for it. So
it is never on in summer mode, and comes on only below the target; and in winter mode it does not go
off while it is colder than a degree above the target. -/
theorem regulated_of_run {r : Record} (hrun : Run Step (.restored r) log t) :
    ∀ front m back, log = front ++ m :: back → Regulated front m :=
  (hrun.invariant (I := Inv) (inv_restored r) inv_step).regulated

def act (t : Thermostat) : Event → Moment × Thermostat
  | .started reading now => (⟨.started reading now, t, t.start reading now⟩, t.start reading now)
  | .operated o => (⟨.operated o, t, (o.run t).2⟩, (o.run t).2)

lemma step_act (t : Thermostat) (e : Event) : Step t (act t e).1 (act t e).2 := by
  cases e with
  | started reading now => exact .of (.start reading now)
  | operated o => exact .of (.operate o)

/-- A turn of the control loop at a number of halves of a degree. -/
def turn (halves : Nat) (now : Time) : Event :=
  .operated (.poll (some ⟨.ofRatio false halves 2, 40⟩) now)

/-- Started at 19 degrees and set to winter mode and 20 degrees, it gets warmer up to a degree above
that, and then colder again. -/
def winterDay : List Event :=
  [.started (some ⟨.ofNat 19, 40⟩) 0,
    .operated (.command .configure
      (.object [(Settings.targetField, .ofNat 20), (Settings.winterField, .bool true)])),
    turn 41 300000, turn 42 600000, turn 41 900000, turn 39 900500, turn 39 1200000]

/-- Heating stays on at 20.5 degrees on the way up and off on the way down, and a turn half a second
after a check decides nothing. -/
theorem regulated_of_run_winterDay : ∃ log t, Run Step (.restored Record.empty) log t ∧
    log.map (·.after.heating) = [false, true, true, false, false, false, true] ∧
    verdicts log = [.off, .on, .off, .on] ∧
    ∀ front m back, log = front ++ m :: back → Regulated front m := by
  have hrun := Run.of_play step_act (.restored Record.empty) winterDay
  exact ⟨_, _, hrun, by decide +kernel, by decide +kernel, regulated_of_run hrun⟩

end HomeHub.Hysteresis
