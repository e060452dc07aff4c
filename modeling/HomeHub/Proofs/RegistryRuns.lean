import Mathlib.Order.Bounds.Basic
import HomeHub.Proofs.RegistryLaws
import HomeHub.Proofs.Runs

/-!
Runs of a registry: operations one after the other, and where the sessions stand afterwards.

A session keeps its slot, its identity and its number for as long as there is such a session. So a
session with a number that was given out before a run stood in the same slot before the run.
-/

namespace HomeHub

namespace Registry

variable {r t : Registry} {a b : Session} {n m : Nat} {x : String}

/-! ### Slots -/

/-- The session in a slot. -/
def occupant (r : Registry) (n : Nat) : Option Session := r.slots[n]?.join

lemma occupant_eq_some_iff : r.occupant n = some a ↔ r.slots[n]? = some (some a) :=
  Option.join_eq_some_iff

lemma mem_sessions_iff : a ∈ r.sessions ↔ ∃ n, r.occupant n = some a := by
  rw [sessions, List.mem_filterMap]
  simp only [id, exists_eq_right, occupant_eq_some_iff, List.mem_iff_getElem?]

lemma slot_eq_of_nodup {β : Type} {f : Session → β} (h : (r.sessions.map f).Nodup)
    (ha : r.occupant n = some a) (hb : r.occupant m = some b) (hf : f a = f b) : n = m := by
  rw [List.Nodup, List.pairwise_map, sessions, List.pairwise_filterMap,
    List.pairwise_iff_getElem] at h
  rw [occupant_eq_some_iff, List.getElem?_eq_some_iff] at ha hb
  obtain ⟨hn, ha⟩ := ha
  obtain ⟨hm, hb⟩ := hb
  by_contra hne
  rcases Nat.lt_or_gt_of_ne hne with hlt | hlt
  · exact h n m hn hm hlt a ha b hb hf
  · exact h m n hm hn hlt b hb a ha hf.symm

lemma Sound.slot_eq_of_identity (hs : Sound r) (ha : r.occupant n = some a)
    (hb : r.occupant m = some b) (h : a.identity = b.identity) : n = m :=
  slot_eq_of_nodup hs.identities ha hb h

lemma Sound.slot_eq_of_id (hs : Sound r) (ha : r.occupant n = some a)
    (hb : r.occupant m = some b) (h : a.id = b.id) : n = m :=
  slot_eq_of_nodup hs.ids ha hb h

lemma Sound.position_eq_some_iff (hs : Sound r) :
    r.position x = some n ↔ ∃ a, r.occupant n = some a ∧ a.identity = x := by
  have hholds {slot : Option Session} :
      holds x slot = true ↔ ∃ a, slot = some a ∧ a.identity = x := by
    rcases slot with _ | a <;> simp [holds]
  rw [position, List.findIdx?_eq_some_iff_getElem]
  constructor
  · rintro ⟨hn, hx, -⟩
    obtain ⟨a, ha, hx⟩ := hholds.mp hx
    exact ⟨a, occupant_eq_some_iff.mpr (List.getElem?_eq_some_iff.mpr ⟨hn, ha⟩), hx⟩
  · rintro ⟨a, ha, hx⟩
    obtain ⟨hn, hslot⟩ := List.getElem?_eq_some_iff.mp (occupant_eq_some_iff.mp ha)
    refine ⟨hn, hholds.mpr ⟨a, hslot, hx⟩, fun j hj hcontra => ?_⟩
    obtain ⟨b, hb, hbx⟩ := hholds.mp hcontra
    have hocc : r.occupant j = some b :=
      occupant_eq_some_iff.mpr (List.getElem?_eq_some_iff.mpr ⟨Nat.lt_trans hj hn, hb⟩)
    exact Nat.ne_of_lt hj (hs.slot_eq_of_identity hocc ha (hbx.trans hx.symm))

@[simp] lemma occupant_mapSessions (change : Session → Session) :
    (r.mapSessions change).occupant n = (r.occupant n).map change := by
  simp only [occupant, mapSessions, List.getElem?_map]
  rcases r.slots[n]? with _ | _ | _ <;> rfl

@[simp] lemma occupant_remove (condition : Session → Bool) :
    (r.remove condition).2.occupant n = (r.occupant n).filter fun a => !condition a := by
  simp only [occupant, remove, List.getElem?_map]
  rcases r.slots[n]? with _ | _ | _ <;> rfl

@[simp] lemma capacity_mapSessions (change : Session → Session) :
    (r.mapSessions change).capacity = r.capacity := List.length_map _

@[simp] lemma capacity_remove (condition : Session → Bool) :
    (r.remove condition).2.capacity = r.capacity := List.length_map _

lemma Sound.remove (hs : Sound r) (condition : Session → Bool) : Sound (r.remove condition).2 :=
  (onward_remove (R := fun _ _ => True) condition fun _ _ => trivial).sound hs

lemma remove_eq_self {condition : Session → Bool} (h : ∀ a ∈ r.sessions, condition a = false) :
    r.remove condition = ([], r) := by
  have hended : r.sessions.filter condition = [] := by
    simpa [List.filter_eq_nil_iff] using h
  have hslots : r.slots.map (Option.filter fun a => !condition a) = r.slots := by
    refine (List.map_congr_left fun slot hslot => ?_).trans (List.map_id _)
    rcases slot with _ | a
    · rfl
    · simp [Option.filter_some, h a (List.mem_filterMap.mpr ⟨some a, hslot, rfl⟩)]
  rw [remove, hended, hslots]

/-! ### Admission -/

/-- No session stands in the slot. -/
def Free (r : Registry) (n : Nat) : Prop := ∀ a, r.occupant n ≠ some a

lemma free_iff (hn : n < r.slots.length) : r.Free n ↔ r.slots[n].isNone = true := by
  simp only [Free, ne_eq, occupant_eq_some_iff, List.getElem?_eq_getElem hn, Option.some.injEq]
  rcases r.slots[n] with _ | a <;> simp

/-- The registry after a session has been put into a slot and got the next number. -/
def seated (r : Registry) (n : Nat) (a : Session) : Registry :=
  { r with slots := r.slots.set n (some a), nextId := r.nextId + 1 }

/-- The session that an admission makes. -/
def newcomer (r : Registry) (x : String) (link : Option Link) (now : Time) : Session :=
  .new x r.nextId r.config.bufferCapacity r.config.staleAfter link now

lemma occupant_seated (hn : n < r.capacity) :
    (r.seated n a).occupant m = if m = n then some a else r.occupant m := by
  simp only [occupant, seated, List.getElem?_set]
  by_cases h : n = m
  · subst h
    rw [if_pos rfl, if_pos rfl, if_pos (show n < r.slots.length from hn)]
    rfl
  · rw [if_neg h, if_neg (Ne.symm h)]

/-- What an admission comes to: the identity has its session already, or every slot is taken, or
the newcomer takes the lowest free slot. -/
theorem enroll_cases (hs : Sound r) (x : String) (link : Option Link) (now : Time) :
    (∃ n a, r.occupant n = some a ∧ a.identity = x ∧
      r.enroll x link now = (.ok (.alreadyConnected n a.id), r, link.map Link.refuse)) ∨
    ((∀ a ∈ r.sessions, a.identity ≠ x) ∧ (∀ n < r.capacity, ¬ r.Free n) ∧
      r.enroll x link now = (.error .registryFull, r, link.map Link.refuse)) ∨
    ∃ n, (∀ a ∈ r.sessions, a.identity ≠ x) ∧ n < r.capacity ∧ IsLeast {n | r.Free n} n ∧
      r.enroll x link now =
        (.ok (.admitted n r.nextId), r.seated n (r.newcomer x link now), none) := by
  unfold enroll
  rcases hp : r.position x with _ | n
  · have hx := position_eq_none_iff.mp hp
    rcases hf : r.slots.findIdx? Option.isNone with _ | n
    · refine .inr (.inl ⟨hx, fun n hn hfree => ?_, rfl⟩)
      have hsome := List.findIdx?_eq_none_iff.mp hf r.slots[n] (List.getElem_mem _)
      rw [(free_iff hn).mp hfree] at hsome
      cases hsome
    · obtain ⟨hn, hnone, hleast⟩ := List.findIdx?_eq_some_iff_getElem.mp hf
      refine .inr (.inr ⟨n, hx, hn, ⟨(free_iff hn).mpr hnone, fun m hm => ?_⟩, rfl⟩)
      by_contra hlt
      rw [Nat.not_le] at hlt
      exact hleast m hlt ((free_iff (Nat.lt_trans hlt hn)).mp hm)
  · obtain ⟨a, ha, hx⟩ := hs.position_eq_some_iff.mp hp
    refine .inl ⟨n, a, ha, hx, ?_⟩
    rw [← hx, hs.lookup_eq (mem_sessions_iff.mpr ⟨n, ha⟩)]
    rfl

/-! ### Sessions carried on -/

/-- A session with a number that was given out before stood in its slot before, under the same
identity. -/
structure Carried (r t : Registry) : Prop where
  config : t.config = r.config
  capacity : t.capacity = r.capacity
  nextId_le : r.nextId ≤ t.nextId
  old : ∀ {n b}, t.occupant n = some b → b.id < r.nextId →
    ∃ a, r.occupant n = some a ∧ a.identity = b.identity ∧ a.id = b.id

lemma carried_refl (r : Registry) : Carried r r :=
  ⟨rfl, rfl, Nat.le_refl _, fun hb _ => ⟨_, hb, rfl, rfl⟩⟩

lemma Carried.trans {u : Registry} (h : Carried r t) (h' : Carried t u) : Carried r u where
  config := h'.config.trans h.config
  capacity := h'.capacity.trans h.capacity
  nextId_le := h.nextId_le.trans h'.nextId_le
  old hc hid := by
    obtain ⟨b, hb, hx, hk⟩ := h'.old hc (Nat.lt_of_lt_of_le hid h.nextId_le)
    obtain ⟨a, ha, hx', hk'⟩ := h.old hb (hk ▸ hid)
    exact ⟨a, ha, hx'.trans hx, hk'.trans hk⟩

lemma carried_mapSessions {change : Session → Session}
    (h : ∀ a, (change a).identity = a.identity ∧ (change a).id = a.id) :
    Carried r (r.mapSessions change) where
  config := rfl
  capacity := capacity_mapSessions change
  nextId_le := Nat.le_refl _
  old hb _ := by
    rw [occupant_mapSessions] at hb
    obtain ⟨a, ha, rfl⟩ := Option.map_eq_some_iff.mp hb
    exact ⟨a, ha, (h a).1.symm, (h a).2.symm⟩

lemma carried_remove (condition : Session → Bool) : Carried r (r.remove condition).2 where
  config := rfl
  capacity := capacity_remove condition
  nextId_le := Nat.le_refl _
  old hb _ := by
    rw [occupant_remove] at hb
    exact ⟨_, (Option.filter_eq_some_iff.mp hb).1, rfl, rfl⟩

lemma carried_seated (hn : n < r.capacity) (ha : a.id = r.nextId) : Carried r (r.seated n a) where
  config := rfl
  capacity := List.length_set
  nextId_le := Nat.le_succ _
  old {m b} hb hid := by
    rw [occupant_seated hn] at hb
    split at hb
    · obtain rfl := Option.some.inj hb
      exact absurd ha (Nat.ne_of_lt hid)
    · exact ⟨b, hb, rfl, rfl⟩

end Registry

namespace RegistryRuns

/-! ### Operations -/

/-- What is done to a session that has been looked up. -/
inductive Task
  | touch (now : Time)
  | heartbeat (now : Time)
  /-- Takes in bytes and pulls at most `count` items. -/
  | feed (data : Bytes) (now : Time) (count : Nat)
  | send (frame : Bytes)

/-- What a task gives. -/
inductive Answer
  | done
  | items (items : List Item)
  | sent (result : Except SendFault Unit)

def Task.run (a : Session) : Task → Answer × Session
  | .touch now => (.done, a.touch now)
  | .heartbeat now => (.done, a.heartbeat now)
  | .feed data now count =>
    let (items, frames) := (a.frames.feed data now).pulls count
    (.items items, { a with frames })
  | .send frame =>
    let (result, a) := a.send frame
    (.sent result, a)

inductive Operation
  | enroll (identity : String) (link : Option Link) (now : Time)
  | evict (identity : String)
  | evictSession (identity : String) (id : Nat)
  | reap (now : Time) (timeout : Nat)
  | closeAll
  | task (identity : String) (task : Task)

/-- The identity that an operation names. -/
def Operation.subject? : Operation → Option String
  | .enroll x _ _ => some x
  | .evict x => some x
  | .evictSession x _ => some x
  | .reap _ _ => none
  | .closeAll => none
  | .task x _ => some x

inductive Outcome
  | admission (result : Except AdmissionFault Admission)
  /-- Whether a session was ended. -/
  | evicted (ended : Bool)
  /-- The identities whose sessions were ended. -/
  | reaped (identities : List String)
  /-- How many sessions were ended. -/
  | closed (count : Nat)
  /-- None if the identity has no session. -/
  | answered (answer : Option Answer)

def perform (r : Registry) : Operation → Outcome × Registry
  | .enroll x link now => (.admission (r.enroll x link now).1, (r.enroll x link now).2.1)
  | .evict x => (.evicted !(r.evict x).1.isEmpty, (r.evict x).2)
  | .evictSession x i => (.evicted !(r.evictSession x i).1.isEmpty, (r.evictSession x i).2)
  | .reap now timeout =>
    (.reaped ((r.reap now timeout).1.map (·.identity)), (r.reap now timeout).2)
  | .closeAll => (.closed r.closeAll.1.length, r.closeAll.2)
  | .task x task =>
    (.answered ((r.lookup x).map fun a => (task.run a).1), r.modify x fun a => (task.run a).2)

structure Event where
  operation : Operation
  outcome : Outcome

inductive Step (r : Registry) : Event → Registry → Prop
  | perform (o : Operation) : Step r ⟨o, (perform r o).1⟩ (perform r o).2

def act (r : Registry) (o : Operation) : Event × Registry := (⟨o, (perform r o).1⟩, (perform r o).2)

lemma run_play (r : Registry) (os : List Operation) :
    Run Step r (Run.play act r os).1 (Run.play act r os).2 :=
  Run.of_play (fun _ o => .perform o) r os

/-! ### Steps -/

variable {config : Registry.Config} {r t : Registry} {log : List Event} {e : Event}

lemma run_keeps (a : Session) (task : Task) :
    (task.run a).2.identity = a.identity ∧ (task.run a).2.id = a.id := by
  cases task with
  | send frame =>
    have hsame := a.sameButQueue_send frame
    exact ⟨hsame.identity, hsame.id⟩
  | _ => exact ⟨rfl, rfl⟩

lemma modify_eq (r : Registry) (x : String) (change : Session → Session) :
    r.modify x change = r.mapSessions fun a => if a.identity = x then change a else a := rfl

lemma carried_step (hs : r.Sound) (h : Step r e t) : r.Carried t := by
  cases h with
  | perform o =>
    cases o with
    | enroll x link now =>
      simp only [perform]
      rcases Registry.enroll_cases hs x link now with
        ⟨n, a, -, -, h⟩ | ⟨-, -, h⟩ | ⟨n, -, hn, -, h⟩ <;> rw [h]
      · exact Registry.carried_refl r
      · exact Registry.carried_refl r
      · exact Registry.carried_seated hn rfl
    | evict x => exact Registry.carried_remove _
    | evictSession x i => exact Registry.carried_remove _
    | reap now timeout => exact Registry.carried_remove _
    | closeAll => exact Registry.carried_remove _
    | task x task =>
      refine Registry.carried_mapSessions fun a => ?_
      split
      · exact run_keeps a task
      · exact ⟨rfl, rfl⟩

lemma sound_step (hs : r.Sound) (h : Step r e t) : t.Sound := by
  cases h with
  | perform o =>
    cases o with
    | enroll x link now =>
      rcases Registry.enroll_cases hs x link now with
        ⟨n, a, -, -, h⟩ | ⟨-, -, h⟩ | ⟨n, -, -, -, h⟩
      · simpa only [perform, h] using hs
      · simpa only [perform, h] using hs
      · exact (Registry.admits_enroll (congrArg Prod.fst h)).sound hs
    | evict x => exact hs.remove _
    | evictSession x i => exact hs.remove _
    | reap now timeout => exact hs.remove _
    | closeAll => exact hs.remove _
    | task x task =>
      refine Registry.Onward.sound (R := fun _ _ => True)
        (Registry.onward_modify (by simp) fun a _ hx => ?_) hs
      obtain ⟨hidentity, hid⟩ := run_keeps a task
      exact ⟨hidentity.trans hx, hid, trivial⟩

/-! ### Runs -/

lemma sessions_new (config : Registry.Config) : (Registry.new config).sessions = [] :=
  List.filterMap_eq_nil_iff.mpr fun _ h => List.eq_of_mem_replicate h

lemma sound_new (config : Registry.Config) : (Registry.new config).Sound :=
  Registry.sound_of_sessions_eq_nil (sessions_new config)

lemma carried_run (hs : r.Sound) (h : Run Step r log t) : r.Carried t :=
  (h.invariant (I := fun _ t => t.Sound ∧ r.Carried t) ⟨hs, Registry.carried_refl r⟩
    fun hi hstep => ⟨sound_step hi.1 hstep, hi.2.trans (carried_step hi.1 hstep)⟩).2

lemma slot_eq_of_run (hs : r.Sound) (h : Run Step r log t) {n m : Nat} {a b : Session}
    (ha : r.occupant n = some a) (hb : t.occupant m = some b) (hid : a.id = b.id) : n = m := by
  have hlt := hs.below a (Registry.mem_sessions_iff.mpr ⟨n, ha⟩)
  obtain ⟨a', ha', -, hid'⟩ := (carried_run hs h).old hb (hid ▸ hlt)
  exact hs.slot_eq_of_id ha ha' (hid.trans hid'.symm)

end RegistryRuns

end HomeHub
