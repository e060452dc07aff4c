import HomeHub.Proofs.Restarts
import HomeHub.Proofs.StateDocuments
import HomeHub.Proofs.StoreCalls

/-!
The target temperature stays between the bounds wherever it is found.

Targets come in with requests and with the record that is found at a start, and both are brought
into range; they go out with replies, with what is published and with what is recorded. What goes
out shows the thermostat as an operation leaves it, so one invariant covers all three ways. The
record is read again by another start, and there the target need not be the one that was written:
that it is in range is a property of the text.
-/

namespace HomeHub.SetpointSafety

open Restarts (Action St opened perform)
open Settings (InRange targetField)
open Thermostat (Hosted Operation View)

/-! ### Runs -/

/-- Something done, and the thermostat with its outlets and the board before it. -/
structure Moment (δ : Type) where
  action : Action
  before : St δ

variable {δ : Type}

inductive Step [Flash δ] (s : St δ) : Moment δ → St δ → Prop
  | of {a : Action} {t : St δ} : Restarts.Step s a t → Step s ⟨a, s⟩ t

namespace Moment

/-- The state that a client is answered with. -/
def reply? (m : Moment δ) : Option Json :=
  match m.action with
  | .operate (.command .query body) =>
    (m.before.hosted.thermostat.handle .query body).result.toOption
  | .operate (.command .configure body) =>
    (m.before.hosted.thermostat.handle .configure body).result.toOption
  | _ => none

/-- What is to be recorded and published. -/
def effects (m : Moment δ) : List Service.Effect :=
  match m.action with
  | .operate o => (o.run m.before.hosted.thermostat).1
  | _ => []

end Moment

/-! ### Setpoints -/

/-- A number, not below ten and not above thirty-eight. -/
structure IsSetpoint (t : Binary64) : Prop where
  not_nan : t.isNaN = false
  not_below : t.lt (.ofNat 10) = false
  not_above : Binary64.lt (.ofNat 38) t = false

/-- The target temperature that a document shows. -/
def target? (v : Json) : Option Binary64 :=
  match v.get? targetField with
  | some (.number n) => some n.toBinary64
  | _ => none

/-- A document that shows a setpoint. -/
def Shows (v : Json) : Prop := ∃ t, target? v = some t ∧ IsSetpoint t

/-- A record that is read, as it stands, as settings with a setpoint. -/
def Holds (r : Record) : Prop :=
  r.isEmpty = false ∧ ∃ s, Settings.ofBytes? r.payload = some s ∧ IsSetpoint s.target

def Sound : Service.Effect → Prop
  | .record r => Holds r
  | .publish v => Shows v

/-- Every target temperature is a setpoint, in the thermostat and wherever it has gone. -/
structure Safe (log : List (Moment δ)) (s : St δ) : Prop where
  target : IsSetpoint s.hosted.thermostat.settings.target
  replied : ∀ m ∈ log, ∀ v, m.reply? = some v → Shows v
  carried : ∀ m ∈ log, ∀ e ∈ m.effects, Sound e
  /-- The value that waits in the slot. -/
  waiting : ∀ v, s.hosted.told = some v → Shows v

lemma isSetpoint_iff {t : Binary64} : IsSetpoint t ↔ Settings.Admissible t := by
  rw [Settings.admissible_iff_not_lt]
  exact ⟨fun h => ⟨h.not_nan, h.not_below, h.not_above⟩, fun h => ⟨h.1, h.2.1, h.2.2⟩⟩

/-! ### What is shown -/

lemma shows_view {t : Thermostat} (h : t.settings.InRange) : Shows t.view.toJson := by
  obtain ⟨temperature, humidity, -, -, hview⟩ := Thermostat.shows_view h
  rw [hview]
  exact ⟨t.settings.target, rfl, isSetpoint_iff.mpr h⟩

lemma holds_of_ofJson {s : Settings} {r : Record} (h : s.InRange)
    (hr : Record.ofJson s.toJson = .ok r) : Holds r := by
  obtain ⟨u, hu, hreads⟩ := Json.exists_readsAs h
  obtain ⟨hnonempty, hbytes⟩ := Settings.ofBytes?_of_ofJson h hr hreads
  exact ⟨hnonempty, _, hbytes, isSetpoint_iff.mpr hu⟩

/-! ### One operation -/

variable {t : Thermostat} {s u : St δ} {m : Moment δ} {log : List (Moment δ)}

lemma sound_run (h : t.settings.InRange) (o : Operation) : ∀ e ∈ (o.run t).1, Sound e := by
  have hrange := Thermostat.inRange_run h o
  rcases Thermostat.run_cases h o with ⟨r, he, hr, -⟩ | ⟨-, ⟨he, -⟩ | ⟨he, -⟩⟩
  · rw [he, List.forall_mem_cons, List.forall_mem_singleton]
    exact ⟨holds_of_ofJson hrange hr, shows_view hrange⟩
  · rw [he, List.forall_mem_singleton]
    exact shows_view hrange
  · rw [he]
    exact nofun

lemma result_set {body v : Json} (h : (t.set body).result = .ok v) :
    v = (t.set body).state.view.toJson := by
  unfold Thermostat.set Thermostat.configure at h ⊢
  rcases hc : t.settings.change body with why | settings
  · simp [hc] at h
  · rcases hsame : settings.same t.settings with _ | _
    · rcases hr : Record.ofJson settings.toJson with why | r
      · simp [hc, hsame, hr] at h
      · simp only [hc, hsame, hr, Bool.false_eq_true, if_false] at h ⊢
        exact (Except.ok.inj h).symm
    · simp only [hc, hsame, if_true] at h ⊢
      exact (Except.ok.inj h).symm

lemma shows_reply (h : m.before.hosted.thermostat.settings.InRange) {v : Json}
    (hv : m.reply? = some v) : Shows v := by
  unfold Moment.reply? at hv
  split at hv
  · obtain rfl : m.before.hosted.thermostat.view.toJson = v := Option.some.inj hv
    exact shows_view h
  · rename_i body ha
    have hresult : (m.before.hosted.thermostat.set body).result = .ok v := by
      rcases hr : (m.before.hosted.thermostat.set body).result with why | w
      · simp [Thermostat.handle, hr, Except.toOption] at hv
      · simpa [Thermostat.handle, hr, Except.toOption] using hv
    rw [result_set hresult]
    exact shows_view (Thermostat.inRange_set h body)
  · cases hv

lemma sound_effects (h : m.before.hosted.thermostat.settings.InRange) :
    ∀ e ∈ m.effects, Sound e := by
  unfold Moment.effects
  split
  · exact sound_run h _
  · exact nofun

lemma told_applyAll {o : Outlets} {effects : List Service.Effect}
    (hslot : ∀ v, o.slot.bind (·.pending) = some v → Shows v) (h : ∀ e ∈ effects, Sound e) :
    ∀ v, (o.applyAll effects).slot.bind (·.pending) = some v → Shows v := by
  induction effects generalizing o with
  | nil => exact hslot
  | cons e effects ih =>
    rw [List.forall_mem_cons] at h
    refine ih (o := o.apply e) ?_ h.2
    cases e with
    | record r => exact hslot
    | publish w =>
      intro v hv
      rcases hs : o.slot with _ | slot
      · simp [Outlets.apply, hs] at hv
      · obtain rfl : w = v := by simpa [Outlets.apply, hs, BroadcastSlot.publish] using hv
        exact h.1

/-! ### Runs -/

lemma safe_opened (store : Store) (interval : Option Nat) (board : Board δ) :
    Safe [] (opened store (interval.map BroadcastSlot.new) board) where
  target := by
    rw [isSetpoint_iff]
    exact Thermostat.inRange_restored store.record
  replied m hm := nomatch hm
  carried m hm := nomatch hm
  waiting v hv := by
    have hempty : (opened store (interval.map BroadcastSlot.new) board).hosted.told = none := by
      cases interval <;> rfl
    simp [hempty] at hv

variable [Flash δ]

lemma hosted_tick (s : St δ) (now : Time) :
    (perform s (.tick now)).hosted.thermostat = s.hosted.thermostat ∧
      (perform s (.tick now)).hosted.outlets.slot = s.hosted.outlets.slot := by
  simp only [perform]
  split <;> exact ⟨rfl, rfl⟩

lemma safe_perform (hi : Safe log s) (a : Action) : Safe (log ++ [⟨a, s⟩]) (perform s a) := by
  have hrange : s.hosted.thermostat.settings.InRange := isSetpoint_iff.mp hi.target
  refine ⟨?_, ?_, ?_, ?_⟩
  · cases a with
    | operate o => exact isSetpoint_iff.mpr (Thermostat.inRange_run hrange o)
    | start reading now => simpa [perform] using hi.target
    | tick now =>
      rw [(hosted_tick s now).1]
      exact hi.target
    | cores cores => exact hi.target
  · rw [List.forall_mem_append, List.forall_mem_singleton]
    exact ⟨hi.replied, fun v => shows_reply hrange⟩
  · rw [List.forall_mem_append, List.forall_mem_singleton]
    exact ⟨hi.carried, sound_effects hrange⟩
  · cases a with
    | operate o => exact told_applyAll hi.waiting (sound_run hrange o)
    | start reading now => exact hi.waiting
    | tick now =>
      rw [Hosted.told, (hosted_tick s now).2]
      exact hi.waiting
    | cores cores => exact hi.waiting

lemma safe_step (hi : Safe log s) (h : Step s m u) : Safe (log ++ [m]) u := by
  cases h with
  | of h =>
    cases h with
    | perform => exact safe_perform hi _

/-- **Setpoint safety.** Whatever the store has found on the flash at a start, whatever the sensor
reads and whatever is asked for in whatever order, the target temperature is a number from ten to
thirty-eight: in the thermostat, in every state that a client is answered with, in all that is
published and in every record, which moreover can be read. -/
theorem safe_of_run {board : Board δ} {store : Store} {interval : Option Nat}
    (hrun : Run Step (opened store (interval.map BroadcastSlot.new) board) log s) :
    Safe log s :=
  hrun.invariant (I := Safe) (safe_opened store interval board) safe_step

/-- A record of a target far above the bounds. -/
def hugeTarget : Record where
  payload := Utf8.encode "\x7b\"target_temperature\":1e300\x7d".toList
  length_le := by decide

/-- A board with that record at the start of its flash. -/
def overheated : Board MemoryFlash := .new ⟨hugeTarget.toPage.bytes, 0, 0⟩

def act (s : St δ) (a : Action) : Moment δ × St δ := (⟨a, s⟩, perform s a)

lemma step_act (s : St δ) (a : Action) : Step s (act s a).1 (act s a).2 := .of (.perform a)

/-- The state is read, and the target set far below the bounds. -/
def requests : List Action :=
  [.start none 0, .operate (.command .query .null),
    .operate (.command .configure (.object [(targetField, .ofInt (-1000000))]))]

/-- The target is the upper bound at first and the lower one at last, and both are shown. -/
theorem safe_of_run_hugeTarget : ∃ store log s,
    Store.attach overheated.flash Restarts.everySecond = .ok store ∧
    Run Step (opened store (some (BroadcastSlot.new 1000)) overheated) log s ∧
    log.map (fun m => m.reply?.bind target?) = [none, some (.ofNat 38), some (.ofNat 10)] ∧
    log.map (fun m => m.effects.length) = [0, 0, 2] ∧ Safe log s := by
  have hopen : Store.attach overheated.flash Restarts.everySecond =
      .ok ⟨Restarts.everySecond, hugeTarget, false, none, 0⟩ := by
    have hlen : hugeTarget.toPage.bytes.length = Flash.pageSize := hugeTarget.toPage.length_bytes
    have hslice : Flash.slice hugeTarget.toPage.bytes 0 Flash.pageSize = hugeTarget.toPage.bytes :=
      List.take_of_length_le (Nat.le_of_eq hlen)
    have hattach : Store.attach overheated.flash Restarts.everySecond =
        .ok ⟨Restarts.everySecond, Store.loaded hugeTarget.toPage, false, none, 0⟩ :=
      StoreCalls.attach_memory (Nat.le_of_eq hlen.symm) hslice
    rw [hattach, Store.loaded_toPage]
  have hrun := Run.of_play step_act
    (opened ⟨Restarts.everySecond, hugeTarget, false, none, 0⟩ ((some 1000).map BroadcastSlot.new)
      overheated) requests
  exact ⟨_, _, _, hopen, hrun, by decide +kernel, by decide +kernel, safe_of_run hrun⟩

end HomeHub.SetpointSafety
