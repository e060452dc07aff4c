import Mathlib.Data.Set.Card
import HomeHub.Proofs.RegistryRuns

/-!
A registry is a finite map from identities to seats, with at most as many entries as it has slots.

The map is stated on its own, with what each operation does to it, and every run of a registry is a
run of the map. What the registry finds by searching its slots, by identity or in slot order, is
what the map says.
-/

namespace HomeHub

/-- A session and the slot it stands in. -/
@[ext]
structure Seat where
  slot : Nat
  session : Session

/-- The seats of identities, and the number of the next session. -/
structure Directory where
  seat : String → Option Seat
  nextId : Nat
  finite : {x | (seat x).isSome}.Finite

namespace Directory

variable {d e : Directory} {x y : String} {s : Seat}

lemma ext (hseat : ∀ x, d.seat x = e.seat x) (hnext : d.nextId = e.nextId) : d = e := by
  obtain ⟨seat, nextId, _⟩ := d
  obtain ⟨seat', nextId', _⟩ := e
  obtain rfl : seat = seat' := funext hseat
  obtain rfl : nextId = nextId' := hnext
  rfl

def empty : Directory := ⟨fun _ => none, 1, by simp⟩

noncomputable def size (d : Directory) : Nat := {x | (d.seat x).isSome}.ncard

/-- The slots that nobody has. -/
def free (d : Directory) : Set Nat := {n | ∀ x s, d.seat x = some s → s.slot ≠ n}

/-- Gives an identity a seat, and uses up a number. -/
def put (d : Directory) (x : String) (s : Seat) : Directory where
  seat := Function.update d.seat x (some s)
  nextId := d.nextId + 1
  finite := by
    refine (d.finite.insert x).subset fun y hy => ?_
    by_cases h : y = x
    · exact .inl h
    · exact .inr (by simpa [Function.update_of_ne h] using hy)

/-- Changes seats and takes some away. -/
def revise (d : Directory) (f : String → Seat → Option Seat) : Directory where
  seat x := (d.seat x).bind (f x)
  nextId := d.nextId
  finite := d.finite.subset fun _ hx => Option.isSome_of_isSome_bind hx

/-- Takes the seat of an identity away. -/
def erase (d : Directory) (x : String) : Directory :=
  d.revise fun y s => if y = x then none else some s

/-- Takes away the seats of the sessions that do not satisfy a condition. -/
def keep (d : Directory) (condition : Session → Bool) : Directory :=
  d.revise fun _ s => if condition s.session then some s else none

/-- Changes the session of an identity, which keeps its slot. -/
def change (d : Directory) (x : String) (f : Session → Session) : Directory :=
  d.revise fun y s => some ⟨s.slot, if y = x then f s.session else s.session⟩

@[simp] lemma seat_put : (d.put x s).seat y = if y = x then some s else d.seat y :=
  Function.update_apply ..

@[simp] lemma seat_erase : (d.erase x).seat y = if y = x then none else d.seat y := by
  simp only [erase, revise]
  rcases d.seat y with _ | s <;> simp

@[simp] lemma seat_keep {condition : Session → Bool} :
    (d.keep condition).seat x = (d.seat x).filter fun s => condition s.session := by
  simp only [keep, revise]
  rcases d.seat x with _ | s
  · rfl
  · rw [Option.bind_some, Option.filter_some]

@[simp] lemma seat_change {f : Session → Session} :
    (d.change x f).seat y =
      (d.seat y).map fun s => ⟨s.slot, if y = x then f s.session else s.session⟩ :=
  (Option.map_eq_bind ..).symm

/-- The identities of the sessions that satisfy a condition, in the order of their slots. -/
structure Lists (d : Directory) (condition : Session → Bool) (xs : List String) : Prop where
  mem_iff : ∀ x, x ∈ xs ↔ ∃ s, d.seat x = some s ∧ condition s.session = true
  ordered : xs.Pairwise fun x y =>
    ∀ s t, d.seat x = some s → d.seat y = some t → s.slot < t.slot

open RegistryRuns in
/-- What an operation does to a map with at most `config.maxClients` entries. -/
inductive Step (config : Registry.Config) (d : Directory) : Event → Directory → Prop
  | present {x : String} {link : Option Link} {now : Time} {s : Seat} : d.seat x = some s →
      Step config d
        ⟨.enroll x link now, .admission (.ok (.alreadyConnected s.slot s.session.id))⟩ d
  | full {x : String} {link : Option Link} {now : Time} : d.seat x = none →
      d.size = config.maxClients →
      Step config d ⟨.enroll x link now, .admission (.error .registryFull)⟩ d
  | enroll {x : String} {link : Option Link} {now : Time} {n : Nat} : d.seat x = none →
      d.size < config.maxClients → IsLeast d.free n →
      Step config d ⟨.enroll x link now, .admission (.ok (.admitted n d.nextId))⟩
        (d.put x ⟨n,
          { identity := x
            id := d.nextId
            frames :=
              { capacity := config.bufferCapacity
                staleAfter := config.staleAfter
                buffer := []
                phase := .header
                lastReceipt := none
                dropped := 0
                malformed := 0 }
            sendCapacity := config.bufferCapacity
            link := link
            connectedAt := now
            lastActivity := now
            lastHeartbeat := none }⟩)
  | evict {x : String} {s : Seat} : d.seat x = some s →
      Step config d ⟨.evict x, .evicted true⟩ (d.erase x)
  | absent {x : String} : d.seat x = none → Step config d ⟨.evict x, .evicted false⟩ d
  | evictSession {x : String} {s : Seat} : d.seat x = some s →
      Step config d ⟨.evictSession x s.session.id, .evicted true⟩ (d.erase x)
  | stale {x : String} {i : Nat} : (∀ s, d.seat x = some s → s.session.id ≠ i) →
      Step config d ⟨.evictSession x i, .evicted false⟩ d
  | reap {now : Time} {timeout : Nat} {xs : List String} :
      d.Lists (fun a => decide (timeout < elapsed a.lastActivity now)) xs →
      Step config d ⟨.reap now timeout, .reaped xs⟩
        (d.keep fun a => decide (elapsed a.lastActivity now ≤ timeout))
  | closeAll : Step config d ⟨.closeAll, .closed d.size⟩ (d.keep fun _ => false)
  | task (x : String) (task : Task) :
      Step config d ⟨.task x task, .answered ((d.seat x).map fun s => (task.run s.session).1)⟩
        (d.change x fun a => (task.run a).2)

end Directory

namespace Registry

variable {r t : Registry} {a : Session} {s : Seat} {x : String}

/-! ### The map of a registry -/

def seat (r : Registry) (x : String) : Option Seat :=
  (r.position x).bind fun n => (r.occupant n).map (⟨n, ·⟩)

lemma mem_identities_iff : x ∈ r.identities ↔ ∃ a ∈ r.sessions, a.identity = x := List.mem_map

lemma mem_identities_of_seat (h : (r.seat x).isSome) : x ∈ r.identities := by
  by_contra hx
  have hnone : r.position x = none :=
    position_eq_none_iff.mpr fun a ha hax => hx (mem_identities_iff.mpr ⟨a, ha, hax⟩)
  simp [seat, hnone] at h

def directory (r : Registry) : Directory where
  seat := r.seat
  nextId := r.nextId
  finite := r.identities.finite_toSet.subset fun _ => mem_identities_of_seat

lemma Sound.seat_eq_some_iff (hs : Sound r) :
    r.seat x = some s ↔ r.occupant s.slot = some s.session ∧ s.session.identity = x := by
  obtain ⟨n, a⟩ := s
  simp only [seat, Option.bind_eq_some_iff, hs.position_eq_some_iff, Option.map_eq_some_iff,
    Seat.mk.injEq]
  constructor
  · rintro ⟨m, ⟨b, hb, hx⟩, b', hb', rfl, rfl⟩
    obtain rfl := Option.some.inj (hb.symm.trans hb')
    exact ⟨hb, hx⟩
  · rintro ⟨ha, hx⟩
    exact ⟨n, ⟨a, ha, hx⟩, a, ha, rfl, rfl⟩

lemma Sound.seat_eq_none_iff (hs : Sound r) :
    r.seat x = none ↔ ∀ a ∈ r.sessions, a.identity ≠ x := by
  rw [Option.eq_none_iff_forall_ne_some]
  constructor
  · intro h a ha hx
    obtain ⟨n, hn⟩ := mem_sessions_iff.mp ha
    exact h ⟨n, a⟩ (hs.seat_eq_some_iff.mpr ⟨hn, hx⟩)
  · intro h s hseat
    obtain ⟨ha, hx⟩ := hs.seat_eq_some_iff.mp hseat
    exact h s.session (mem_sessions_iff.mpr ⟨_, ha⟩) hx

/-! ### What searches find -/

lemma Sound.mem_identities (hs : Sound r) : x ∈ r.identities ↔ (r.seat x).isSome := by
  rw [mem_identities_iff, Option.isSome_iff_ne_none, ne_eq, hs.seat_eq_none_iff]
  push Not
  rfl

lemma Sound.lookup_eq_seat (hs : Sound r) : r.lookup x = (r.seat x).map Seat.session := by
  rcases h : r.seat x with _ | s
  · exact lookup_eq_none_iff.mpr (hs.seat_eq_none_iff.mp h)
  · obtain ⟨ha, rfl⟩ := hs.seat_eq_some_iff.mp h
    exact hs.lookup_eq (mem_sessions_iff.mpr ⟨_, ha⟩)

lemma Sound.contains_eq (hs : Sound r) : r.contains x = (r.seat x).isSome := by
  rw [Bool.eq_iff_iff, ← hs.mem_identities, contains, mem_identities_iff,
    Option.isSome_iff_ne_none, ne_eq, position_eq_none_iff]
  push Not
  rfl

lemma Sound.size_directory (hs : Sound r) : r.directory.size = r.size := by
  have hset : {x | (r.directory.seat x).isSome} = (r.identities.toFinset : Set String) := by
    ext x
    rw [List.coe_toFinset]
    exact hs.mem_identities.symm
  rw [Directory.size, hset, Set.ncard_coe_finset]
  exact (List.toFinset_card_of_nodup hs.identities).trans (List.length_map _)

lemma size_le_capacity (r : Registry) : r.size ≤ r.capacity := List.length_filterMap_le _ _

lemma size_eq_capacity_iff : r.size = r.capacity ↔ ∀ n < r.capacity, ¬ r.Free n := by
  rw [size, sessions, capacity, List.filterMap_length_eq_length]
  constructor
  · intro h n hn hfree
    have hsome := h r.slots[n] (List.getElem_mem _)
    rw [id, Option.isSome_iff_ne_none] at hsome
    exact hsome (Option.isNone_iff_eq_none.mp ((free_iff hn).mp hfree))
  · intro h slot hslot
    obtain ⟨n, hn, rfl⟩ := List.mem_iff_getElem.mp hslot
    rw [id, Option.isSome_iff_ne_none]
    exact fun hnone => h n hn ((free_iff hn).mpr (Option.isNone_iff_eq_none.mpr hnone))

lemma Sound.free_directory (hs : Sound r) : r.directory.free = {n | r.Free n} := by
  ext n
  constructor
  · intro h a ha
    exact h a.identity ⟨n, a⟩ (hs.seat_eq_some_iff.mpr ⟨ha, rfl⟩) rfl
  · intro h x s hseat hn
    exact h s.session (hn ▸ (hs.seat_eq_some_iff.mp hseat).1)

lemma Sound.ordered (hs : Sound r) :
    r.sessions.Pairwise fun a b =>
      ∀ n m, r.occupant n = some a → r.occupant m = some b → n < m := by
  rw [sessions, List.pairwise_filterMap, List.pairwise_iff_getElem]
  intro i j hi hj hlt a ha b hb n m hn hm
  have ha' : r.occupant i = some a :=
    occupant_eq_some_iff.mpr (List.getElem?_eq_some_iff.mpr ⟨hi, ha⟩)
  have hb' : r.occupant j = some b :=
    occupant_eq_some_iff.mpr (List.getElem?_eq_some_iff.mpr ⟨hj, hb⟩)
  rwa [hs.slot_eq_of_id hn ha' rfl, hs.slot_eq_of_id hm hb' rfl]

lemma Sound.lists (hs : Sound r) (condition : Session → Bool) :
    r.directory.Lists condition ((r.sessions.filter condition).map (·.identity)) where
  mem_iff x := by
    simp only [List.mem_map, List.mem_filter]
    constructor
    · rintro ⟨a, ⟨ha, hc⟩, rfl⟩
      obtain ⟨n, hn⟩ := mem_sessions_iff.mp ha
      exact ⟨⟨n, a⟩, hs.seat_eq_some_iff.mpr ⟨hn, rfl⟩, hc⟩
    · rintro ⟨s, hseat, hc⟩
      obtain ⟨ha, hx⟩ := hs.seat_eq_some_iff.mp hseat
      exact ⟨s.session, ⟨mem_sessions_iff.mpr ⟨_, ha⟩, hc⟩, hx⟩
  ordered := by
    rw [List.pairwise_map]
    refine (hs.ordered.sublist List.filter_sublist).imp_of_mem fun {a b} ha hb h s t hs' ht' => ?_
    have hmem {c : Session} {u : Seat} (hc : c ∈ r.sessions.filter condition)
        (hu : r.directory.seat c.identity = some u) : r.occupant u.slot = some c := by
      obtain ⟨hocc, hx⟩ := hs.seat_eq_some_iff.mp hu
      rw [hocc, hs.eq_of_identity (mem_sessions_iff.mpr ⟨_, hocc⟩) (List.mem_filter.mp hc).1 hx]
    exact h _ _ (hmem ha hs') (hmem hb ht')

/-! ### What operations do to the map -/

lemma Sound.directory_remove (hs : Sound r) (condition : Session → Bool) :
    (r.remove condition).2.directory = r.directory.keep fun a => !condition a := by
  refine Directory.ext (fun x => Option.ext fun s => ?_) rfl
  refine (hs.remove condition).seat_eq_some_iff.trans ?_
  rw [occupant_remove, Directory.seat_keep, Option.filter_eq_some_iff, Option.filter_eq_some_iff]
  have hold : r.directory.seat x = some s ↔ _ := hs.seat_eq_some_iff
  rw [hold]
  tauto

lemma Sound.directory_remove_own (hs : Sound r) {condition : Session → Bool}
    (h : ∀ a ∈ r.sessions, condition a = true ↔ a.identity = x) :
    (r.remove condition).2.directory = r.directory.erase x := by
  rw [hs.directory_remove]
  refine Directory.ext (fun y => ?_) rfl
  rw [Directory.seat_keep, Directory.seat_erase]
  rcases hseat : r.directory.seat y with _ | s
  · simp
  · obtain ⟨ha, hy⟩ := hs.seat_eq_some_iff.mp hseat
    have hown := h s.session (mem_sessions_iff.mpr ⟨_, ha⟩)
    rw [Option.filter_some]
    by_cases hx : y = x
    · rw [if_pos hx, hown.mpr (hy.trans hx)]
      rfl
    · have hc : condition s.session = false :=
        Bool.eq_false_iff.mpr fun hc => hx (hy.symm.trans (hown.mp hc))
      rw [if_neg hx, hc]
      rfl

lemma nonempty_of_remove {condition : Session → Bool} (ha : a ∈ r.sessions)
    (hc : condition a = true) : (!(r.remove condition).1.isEmpty) = true := by
  rw [Bool.not_eq_true', List.isEmpty_eq_false_iff]
  exact List.ne_nil_of_mem (List.mem_filter.mpr ⟨ha, hc⟩)

lemma Sound.directory_modify (hs : Sound r) {change : Session → Session}
    (hchange : ∀ a, (change a).identity = a.identity) (hmodify : Sound (r.modify x change)) :
    (r.modify x change).directory = r.directory.change x change := by
  refine Directory.ext (fun y => Option.ext fun s => ?_) rfl
  refine hmodify.seat_eq_some_iff.trans ?_
  have hidentity (a : Session) :
      (if a.identity = x then change a else a).identity = a.identity := by
    split
    · exact hchange a
    · rfl
  rw [RegistryRuns.modify_eq, occupant_mapSessions, Option.map_eq_some_iff, Directory.seat_change,
    Option.map_eq_some_iff]
  constructor
  · rintro ⟨⟨a, ha, hs'⟩, hy⟩
    rw [← hs', hidentity] at hy
    exact ⟨⟨s.slot, a⟩, hs.seat_eq_some_iff.mpr ⟨ha, hy⟩, Seat.ext rfl (by rw [← hs', ← hy])⟩
  · rintro ⟨u, hu, rfl⟩
    obtain ⟨ha, hy⟩ := hs.seat_eq_some_iff.mp hu
    rw [← hy]
    exact ⟨⟨u.session, ha, rfl⟩, hidentity u.session⟩

lemma Sound.directory_seated (hs : Sound r) {n : Nat} (hn : n < r.capacity) (hfree : r.Free n)
    (habsent : ∀ b ∈ r.sessions, b.identity ≠ a.identity) (hseated : Sound (r.seated n a)) :
    (r.seated n a).directory = r.directory.put a.identity ⟨n, a⟩ := by
  refine Directory.ext (fun y => Option.ext fun s => ?_) rfl
  refine hseated.seat_eq_some_iff.trans ?_
  have hold : r.directory.seat y = some s ↔ _ := hs.seat_eq_some_iff
  rw [occupant_seated hn, Directory.seat_put]
  by_cases hy : y = a.identity
  · rw [if_pos hy, Option.some.injEq]
    constructor
    · rintro ⟨hb, hx⟩
      split at hb
      · rename_i hslot
        exact Seat.ext hslot.symm (Option.some.inj hb)
      · exact absurd (hx.trans hy) (habsent s.session (mem_sessions_iff.mpr ⟨_, hb⟩))
    · rintro rfl
      exact ⟨if_pos rfl, hy.symm⟩
  · rw [if_neg hy, hold]
    refine and_congr_left fun hx => ?_
    by_cases hslot : s.slot = n
    · -- the slot was free, and the newcomer in it has another identity
      rw [if_pos hslot, hslot, Option.some.injEq]
      refine iff_of_false ?_ (hfree s.session)
      rintro rfl
      exact hy hx.symm
    · rw [if_neg hslot]

end Registry

namespace RegistryRuns

variable {config : Registry.Config} {r t : Registry} {d d' : Directory} {log : List Event}
  {e : Event} {x y : String}

lemma directory_enroll (hs : r.Sound) (hcap : r.capacity = r.config.maxClients) (x : String)
    (link : Option Link) (now : Time) :
    Directory.Step r.config r.directory ⟨.enroll x link now, (perform r (.enroll x link now)).1⟩
      (perform r (.enroll x link now)).2.directory := by
  have hnone (hx : ∀ a ∈ r.sessions, a.identity ≠ x) : r.directory.seat x = none :=
    hs.seat_eq_none_iff.mpr hx
  have hsound := sound_step hs (.perform (.enroll x link now))
  simp only [perform] at hsound ⊢
  rcases Registry.enroll_cases hs x link now with
    ⟨n, a, ha, hx, h⟩ | ⟨hx, hfull, h⟩ | ⟨n, hx, hn, hleast, h⟩ <;> rw [h] at hsound ⊢
  · exact .present (s := ⟨n, a⟩) (hs.seat_eq_some_iff.mpr ⟨ha, hx⟩)
  · refine .full (hnone hx) ?_
    rw [hs.size_directory, ← hcap]
    exact Registry.size_eq_capacity_iff.mpr hfull
  · rw [hs.directory_seated hn hleast.1 hx hsound]
    refine .enroll (hnone hx) ?_ (hs.free_directory ▸ hleast)
    rw [hs.size_directory, ← hcap]
    refine Nat.lt_of_le_of_ne r.size_le_capacity fun hsize => ?_
    exact Registry.size_eq_capacity_iff.mp hsize n hn hleast.1

lemma directory_evict (hs : r.Sound) (x : String) :
    Directory.Step r.config r.directory ⟨.evict x, (perform r (.evict x)).1⟩
      (perform r (.evict x)).2.directory := by
  simp only [perform, Registry.evict]
  rcases h : r.seat x with _ | s
  · have habsent := hs.seat_eq_none_iff.mp h
    rw [Registry.remove_eq_self fun a ha => by simpa using habsent a ha]
    exact .absent h
  · obtain ⟨ha, hx⟩ := hs.seat_eq_some_iff.mp h
    rw [hs.directory_remove_own (x := x) fun a _ => by simp,
      Registry.nonempty_of_remove (Registry.mem_sessions_iff.mpr ⟨_, ha⟩) (by simp [hx])]
    exact .evict h

lemma directory_evictSession (hs : r.Sound) (x : String) (i : Nat) :
    Directory.Step r.config r.directory ⟨.evictSession x i, (perform r (.evictSession x i)).1⟩
      (perform r (.evictSession x i)).2.directory := by
  simp only [perform, Registry.evictSession]
  by_cases h : ∃ s, r.seat x = some s ∧ s.session.id = i
  · obtain ⟨s, hseat, rfl⟩ := h
    obtain ⟨ha, hx⟩ := hs.seat_eq_some_iff.mp hseat
    have hmem := Registry.mem_sessions_iff.mpr ⟨_, ha⟩
    rw [hs.directory_remove_own (x := x) fun b hb => ?_,
      Registry.nonempty_of_remove hmem (by simp [hx])]
    · exact .evictSession hseat
    · -- nobody else has the identity
      simp only [Bool.and_eq_true, beq_iff_eq, and_iff_left_iff_imp]
      exact fun hbx => congrArg Session.id (hs.eq_of_identity hb hmem (hbx.trans hx.symm))
  · push Not at h
    rw [Registry.remove_eq_self fun a ha => ?_]
    · exact .stale h
    · obtain ⟨n, hn⟩ := Registry.mem_sessions_iff.mp ha
      by_cases hx : a.identity = x
      · simpa [hx] using h ⟨n, a⟩ (hs.seat_eq_some_iff.mpr ⟨hn, hx⟩)
      · simp [hx]

/-- Every operation does to the map of a registry what it is stated to do to a map. -/
theorem directory_step (hs : r.Sound) (hcap : r.capacity = r.config.maxClients) (h : Step r e t) :
    Directory.Step r.config r.directory e t.directory := by
  have hsound := sound_step hs h
  cases h with
  | perform o =>
    cases o with
    | enroll x link now => exact directory_enroll hs hcap x link now
    | evict x => exact directory_evict hs x
    | evictSession x i => exact directory_evictSession hs x i
    | reap now timeout =>
      have hkeep : (fun a : Session => !a.isIdle now timeout) =
          fun a => decide (elapsed a.lastActivity now ≤ timeout) := by
        funext a
        rw [Session.isIdle, ← decide_not, decide_eq_decide, Nat.not_lt]
      simp only [perform, Registry.reap, hs.directory_remove, hkeep]
      exact .reap (hs.lists _)
    | closeAll =>
      have hcount : r.closeAll.1.length = r.directory.size := by
        rw [hs.size_directory]
        exact congrArg List.length (List.filter_eq_self.mpr fun _ _ => rfl)
      simp only [perform, hcount]
      rw [Registry.closeAll, hs.directory_remove]
      exact .closeAll
    | task x task =>
      simp only [perform, hs.lookup_eq_seat, Option.map_map] at hsound ⊢
      rw [hs.directory_modify (fun a => (run_keeps a task).1) hsound]
      exact .task x task

lemma seat_of_step (h : Directory.Step config d e d') (he : e.operation.subject? = some y)
    (hne : y ≠ x) : d'.seat x = d.seat x := by
  cases h with
  | enroll =>
    obtain rfl := Option.some.inj he
    exact Directory.seat_put.trans (if_neg hne.symm)
  | evict =>
    obtain rfl := Option.some.inj he
    exact Directory.seat_erase.trans (if_neg hne.symm)
  | evictSession =>
    obtain rfl := Option.some.inj he
    exact Directory.seat_erase.trans (if_neg hne.symm)
  | task =>
    obtain rfl := Option.some.inj he
    simp only [Directory.seat_change, if_neg hne.symm]
    exact Option.map_id'
  | reap => cases he
  | closeAll => cases he
  | _ => rfl

/-! ### The result -/

/-- The registry has the slots it was set up with, its searches find what the map says, and the map
has no more entries than there are slots. -/
structure Shows (config : Registry.Config) (r : Registry) (d : Directory) : Prop where
  capacity : r.capacity = config.maxClients
  nodup : r.identities.Nodup
  size_le : d.size ≤ config.maxClients
  lookup : ∀ x, r.lookup x = (d.seat x).map Seat.session
  lookupSession : ∀ x i, r.lookupSession x i = ((d.seat x).map Seat.session).filter (·.id == i)
  contains : ∀ x, r.contains x = (d.seat x).isSome
  identities : d.Lists (fun _ => true) r.identities
  size : r.size = d.size
  isFull : r.isFull = (d.size == config.maxClients)

lemma shows_directory (hs : r.Sound) (hcap : r.capacity = config.maxClients) :
    Shows config r r.directory where
  capacity := hcap
  nodup := hs.identities
  size_le := by
    rw [hs.size_directory, ← hcap]
    exact r.size_le_capacity
  lookup _ := hs.lookup_eq_seat
  lookupSession x i := by
    rw [Registry.lookupSession, hs.lookup_eq_seat]
    rfl
  contains _ := hs.contains_eq
  identities := by
    have hlists := hs.lists fun _ => true
    rwa [List.filter_eq_self.mpr fun _ _ => rfl] at hlists
  size := hs.size_directory.symm
  isFull := by rw [Registry.isFull, hs.size_directory, hcap]

lemma directory_new (config : Registry.Config) :
    (Registry.new config).directory = .empty := by
  refine Directory.ext (fun x => ?_) rfl
  refine (sound_new config).seat_eq_none_iff.mpr fun a ha => ?_
  rw [sessions_new] at ha
  cases ha

lemma directory_run (hrun : Run Step (.new config) log r) :
    (r.Sound ∧ r.config = config ∧ r.capacity = config.maxClients) ∧
      Run (Directory.Step config) .empty log r.directory := by
  rw [← directory_new config]
  refine hrun.simulate (I := fun r => r.Sound ∧ r.config = config ∧
    r.capacity = config.maxClients) ⟨sound_new config, rfl, List.length_replicate⟩ ?_
  rintro t e u ⟨hs, hconfig, hcap⟩ hstep
  have hcarried := carried_step hs hstep
  have hmap := directory_step hs (by rw [hconfig, hcap]) hstep
  rw [hconfig] at hmap
  exact ⟨⟨sound_step hs hstep, hcarried.config.trans hconfig, hcarried.capacity.trans hcap⟩, hmap⟩

/-- **A registry is a finite map of bounded size.** Every run of a registry is a run of the map from
identities to seats, which the registry shows all along. An operation on one identity leaves the
seats of all others as they are, and a session never comes to stand in another slot. -/
theorem refines_directory (hrun : Run Step (.new config) log r) :
    Run (Directory.Step config) .empty log r.directory ∧ Shows config r r.directory ∧
    (∀ e t x y, Step r e t → e.operation.subject? = some y → y ≠ x →
      t.directory.seat x = r.directory.seat x) ∧
    ∀ more t n m a b, Run Step r more t → r.occupant n = some a → t.occupant m = some b →
      a.id = b.id → n = m := by
  obtain ⟨⟨hs, hconfig, hcap⟩, hmap⟩ := directory_run hrun
  refine ⟨hmap, shows_directory hs hcap, fun e t x y hstep => ?_,
    fun more t n m a b hmore ha hb => slot_eq_of_run hs hmore ha hb⟩
  exact seat_of_step (directory_step hs (by rw [hconfig, hcap]) hstep)

/-- Two clients fill a registry and a third one is refused. One of the two is evicted, the third one
gets its slot with nothing received and no probe noted, and the other one stays where it is. -/
theorem refines_directory_refused :
    ∃ log r, Run Step (.new ⟨2, 64, 1500⟩) log r ∧
      Run (Directory.Step ⟨2, 64, 1500⟩) .empty log r.directory ∧
      log[2]? = some ⟨.enroll "10.0.0.4:5000" none 1, .admission (.error .registryFull)⟩ ∧
      r.roll = [("10.0.0.4:5000", 3), ("10.0.0.3:5000", 2)] ∧ r.directory.size = 2 ∧
      r.directory.seat "10.0.0.4:5000" = some ⟨0,
        ⟨"10.0.0.4:5000", 3, ⟨64, 1500, [], .header, none, 0, 0⟩, 64, none, 2, 2, none⟩⟩ := by
  have hrun := run_play (.new ⟨2, 64, 1500⟩)
    [.enroll "10.0.0.2:5000" none 0, .enroll "10.0.0.3:5000" none 0,
      .enroll "10.0.0.4:5000" none 1, .evict "10.0.0.2:5000", .enroll "10.0.0.4:5000" none 2,
      .task "10.0.0.3:5000" (.touch 3)]
  obtain ⟨hmap, hshows, -, -⟩ := refines_directory hrun
  refine ⟨_, _, hrun, hmap, rfl, by decide, ?_, ?_⟩
  · rw [← hshows.size]
    decide
  · rfl

end RegistryRuns

end HomeHub
