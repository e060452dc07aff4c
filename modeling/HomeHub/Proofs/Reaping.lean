import HomeHub.Proofs.Directory

/-!
Reaping ends the sessions that have been idle for longer than the timeout, and no others.

The slots of the idle sessions are found first, and then cleared one after the other. Clearing a
slot leaves all others as they are, so that this comes to the same as one look at each slot. What
becomes of a slot is then settled by the session in it alone, and reaping twice is as good as
reaping with the shorter of the two timeouts.
-/

namespace HomeHub.Registry

variable {r t : Registry} {a : Session} {n m : Nat} {condition : Session → Bool} {now : Time}
  {timeout : Nat}

/-! ### One slot after the other -/

/-- The slots of the sessions that satisfy a condition, in their order. -/
def slotsOf (r : Registry) (condition : Session → Bool) : List Nat :=
  (List.range r.capacity).filter fun n => (r.occupant n).any condition

/-- Ends the session in a slot. -/
def clear (r : Registry) (n : Nat) : Registry := { r with slots := r.slots.set n none }

/-- Ends the sessions in some slots, one after the other; gives them. -/
def clearEach : Registry → List Nat → List Session × Registry
  | r, [] => ([], r)
  | r, n :: ns =>
    let (ended, t) := (r.clear n).clearEach ns
    ((r.occupant n).toList ++ ended, t)

lemma occupant_clear : (r.clear n).occupant m = if m = n then none else r.occupant m := by
  simp only [occupant, clear, List.getElem?_set]
  by_cases h : n = m
  · subst h
    split_ifs <;> rfl
  · rw [if_neg h, if_neg (Ne.symm h)]

lemma slots_eq_map (r : Registry) : r.slots = (List.range r.capacity).map r.occupant := by
  refine List.ext_getElem (by simp [capacity]) fun n hn _ => ?_
  simp [occupant, hn]

lemma ext_occupant (hconfig : t.config = r.config) (hnext : t.nextId = r.nextId)
    (hcap : t.capacity = r.capacity) (h : ∀ n, t.occupant n = r.occupant n) : t = r := by
  have hslots : t.slots = r.slots := by
    rw [slots_eq_map, slots_eq_map, hcap, funext h]
  obtain ⟨slots, config, nextId⟩ := t
  obtain rfl : config = r.config := hconfig
  obtain rfl : nextId = r.nextId := hnext
  exact congrArg (Registry.mk · r.config r.nextId) hslots

lemma clearEach_frame (r : Registry) (ns : List Nat) :
    (r.clearEach ns).2.config = r.config ∧ (r.clearEach ns).2.nextId = r.nextId ∧
      (r.clearEach ns).2.capacity = r.capacity := by
  induction ns generalizing r with
  | nil => exact ⟨rfl, rfl, rfl⟩
  | cons n ns ih =>
    obtain ⟨hconfig, hnext, hcap⟩ := ih (r.clear n)
    exact ⟨hconfig, hnext, hcap.trans List.length_set⟩

lemma occupant_clearEach (r : Registry) (ns : List Nat) :
    (r.clearEach ns).2.occupant m = if m ∈ ns then none else r.occupant m := by
  induction ns generalizing r with
  | nil => rfl
  | cons n ns ih =>
    rw [clearEach, ih, occupant_clear]
    by_cases hn : m = n <;> by_cases hns : m ∈ ns <;> simp [hn, hns]

lemma ended_clearEach {ns : List Nat} (h : ns.Nodup) :
    (r.clearEach ns).1 = ns.filterMap r.occupant := by
  induction ns generalizing r with
  | nil => rfl
  | cons n ns ih =>
    rw [List.nodup_cons] at h
    have hothers : ns.filterMap (r.clear n).occupant = ns.filterMap r.occupant := by
      refine List.filterMap_congr fun m hm => ?_
      rw [occupant_clear, if_neg (ne_of_mem_of_not_mem hm h.1)]
    change (r.occupant n).toList ++ ((r.clear n).clearEach ns).1 = _
    rw [ih h.2, hothers, List.filterMap_cons]
    rcases r.occupant n with _ | a <;> rfl

lemma pairwise_slotsOf (r : Registry) (condition : Session → Bool) :
    (r.slotsOf condition).Pairwise (· < ·) := List.pairwise_lt_range.filter _

lemma mem_slotsOf_iff :
    n ∈ r.slotsOf condition ↔ ∃ a, r.occupant n = some a ∧ condition a = true := by
  rw [slotsOf, List.mem_filter, List.mem_range, Option.any_eq_true]
  refine and_iff_right_of_imp ?_
  rintro ⟨a, ha, -⟩
  exact (List.getElem?_eq_some_iff.mp (occupant_eq_some_iff.mp ha)).1

lemma filterMap_slotsOf (r : Registry) (condition : Session → Bool) :
    (r.slotsOf condition).filterMap r.occupant = r.sessions.filter condition := by
  rw [sessions, slots_eq_map, List.filterMap_map, List.filter_filterMap, slotsOf,
    List.filterMap_filter]
  refine List.filterMap_congr fun n _ => ?_
  rcases h : r.occupant n with _ | a <;> simp [h, Option.filter_some]

/-- **Sessions end one by one as they do all at once.** -/
theorem clearEach_slotsOf (r : Registry) (condition : Session → Bool) :
    r.clearEach (r.slotsOf condition) = r.remove condition := by
  refine Prod.ext ?_ ?_
  · rw [ended_clearEach ((pairwise_slotsOf r condition).imp Nat.ne_of_lt), filterMap_slotsOf]
    rfl
  · obtain ⟨hconfig, hnext, hcap⟩ := clearEach_frame r (r.slotsOf condition)
    refine ext_occupant hconfig hnext (hcap.trans (capacity_remove condition).symm) fun n => ?_
    rw [occupant_clearEach, occupant_remove]
    simp only [mem_slotsOf_iff]
    rcases r.occupant n with _ | a
    · simp
    · cases hc : condition a <;> simp [hc, Option.filter_some]

/-! ### Twice -/

/-- Ending more sessions than were ended before, or fewer, is ending the larger part at once. -/
lemma remove_remove {weak strong : Session → Bool} (h : ∀ a, strong a = true → weak a = true) :
    ((r.remove weak).2.remove strong).2 = (r.remove weak).2 ∧
      ((r.remove strong).2.remove weak).2 = (r.remove weak).2 := by
  have hand (a : Session) : (!strong a && !weak a) = !weak a := by
    have := h a
    cases hs : strong a <;> cases hw : weak a <;> simp_all
  constructor <;> refine ext_occupant rfl rfl (by simp) fun n => ?_
  · simp only [occupant_remove, Option.filter_filter, Bool.and_comm (!weak _), hand]
  · simp only [occupant_remove, Option.filter_filter, hand]

lemma isIdle_iff : a.isIdle now timeout = true ↔ timeout < elapsed a.lastActivity now :=
  decide_eq_true_iff

/-! ### The result -/

/-- What reaping does to a registry, and the identities that it gives. -/
structure Reaped (now : Time) (timeout : Nat) (r : Registry) (identities : List String)
    (t : Registry) : Prop where
  /-- Those whose sessions were idle for longer than the timeout. -/
  mem_iff : ∀ x, x ∈ identities ↔
    ∃ n a, r.occupant n = some a ∧ a.identity = x ∧ timeout < elapsed a.lastActivity now
  nodup : identities.Nodup
  ordered : identities.Pairwise fun x y =>
    ∀ n m, r.position x = some n → r.position y = some m → n < m
  /-- They are the ones found in the slots that are cleared one after the other. -/
  inTurn : r.clearEach (r.slotsOf (·.isIdle now timeout)) =
    ((r.slotsOf (·.isIdle now timeout)).filterMap r.occupant, t)
  found : identities =
    ((r.slotsOf (·.isIdle now timeout)).filterMap r.occupant).map (·.identity)
  ended : ∀ {n a}, r.occupant n = some a → timeout < elapsed a.lastActivity now →
    t.occupant n = none
  /-- Any other session is as before, in the same slot. -/
  kept : ∀ {n a}, r.occupant n = some a → ¬ timeout < elapsed a.lastActivity now →
    t.occupant n = some a
  free : ∀ {n}, r.occupant n = none → t.occupant n = none
  frozen : t.capacity = r.capacity ∧ t.config = r.config ∧ t.nextId = r.nextId
  active : ∀ a ∈ t.sessions, ¬ timeout < elapsed a.lastActivity now
  again : t.reap now timeout = ([], t)
  /-- Reaping with a longer timeout, before or after, makes no difference. -/
  longer : ∀ {timeout'}, timeout ≤ timeout' →
    (t.reap now timeout').2 = t ∧ ((r.reap now timeout').2.reap now timeout).2 = t

lemma Sound.ordered_reap (hs : r.Sound) (now : Time) (timeout : Nat) :
    ((r.reap now timeout).1.map (·.identity)).Pairwise fun x y =>
      ∀ n m, r.position x = some n → r.position y = some m → n < m := by
  have hown {b : Session} {n : Nat} (hb : b ∈ (r.reap now timeout).1)
      (hn : r.position b.identity = some n) : r.occupant n = some b := by
    obtain ⟨c, hc, hx⟩ := hs.position_eq_some_iff.mp hn
    rwa [hs.eq_of_identity (mem_sessions_iff.mpr ⟨n, hc⟩) (List.mem_of_mem_filter hb) hx] at hc
  rw [List.pairwise_map]
  refine (hs.ordered.sublist List.filter_sublist).imp_of_mem fun ha hb h n m hn hm => ?_
  exact h n m (hown ha hn) (hown hb hm)

/-- **Reaping is exact.** Of a sound registry, as any run leaves one, whether the clock has gone on
or stepped back, exactly the sessions that have been idle for longer than the timeout end, their
identities are given in the order of the slots, and all else stays as it is. -/
theorem Sound.reaped (hs : r.Sound) (now : Time) (timeout : Nat) :
    Reaped now timeout r ((r.reap now timeout).1.map (·.identity)) (r.reap now timeout).2 where
  mem_iff x := by
    rw [List.mem_map]
    constructor
    · rintro ⟨a, ha, hx⟩
      obtain ⟨ha, hidle⟩ := List.mem_filter.mp ha
      obtain ⟨n, hn⟩ := mem_sessions_iff.mp ha
      exact ⟨n, a, hn, hx, isIdle_iff.mp hidle⟩
    · rintro ⟨n, a, hn, hx, hidle⟩
      exact ⟨a, List.mem_filter.mpr ⟨mem_sessions_iff.mpr ⟨n, hn⟩, isIdle_iff.mpr hidle⟩, hx⟩
  nodup := (List.filter_sublist.map _).nodup hs.identities
  ordered := hs.ordered_reap now timeout
  inTurn := by
    rw [clearEach_slotsOf, filterMap_slotsOf]
    rfl
  found := by
    rw [filterMap_slotsOf]
    rfl
  ended ha hidle := by
    rw [reap, occupant_remove, ha, Option.filter_some, isIdle_iff.mpr hidle]
    rfl
  kept ha hactive := by
    rw [reap, occupant_remove, ha, Option.filter_some,
      Bool.eq_false_iff.mpr fun h => hactive (isIdle_iff.mp h)]
    rfl
  free hnone := by
    rw [reap, occupant_remove, hnone]
    rfl
  frozen := ⟨capacity_remove _, rfl, rfl⟩
  active a ha := by
    rw [reap, sessions_remove, List.mem_filter] at ha
    rw [← isIdle_iff]
    simpa using ha.2
  again := by
    refine remove_eq_self fun a ha => ?_
    rw [reap, sessions_remove, List.mem_filter] at ha
    simpa using ha.2
  longer hle := remove_remove fun a h =>
    isIdle_iff.mpr (Nat.lt_of_le_of_lt hle (isIdle_iff.mp h))

/-- The first and the last of four clients have been silent since the beginning. The second one has
left, and the third one has sent something in between. -/
def lull : Registry :=
  (Run.play RegistryRuns.act (.new ⟨4, 64, 1500⟩)
    [.enroll "10.0.0.2:5000" none 0, .enroll "10.0.0.3:5000" none 0,
      .enroll "10.0.0.4:5000" none 0, .enroll "10.0.0.5:5000" none 0, .evict "10.0.0.3:5000",
      .task "10.0.0.4:5000" (.touch 50000)]).2

theorem Sound.reaped_lull : lull.Sound ∧
    Reaped 60001 60000 lull ["10.0.0.2:5000", "10.0.0.5:5000"] (lull.reap 60001 60000).2 ∧
    (lull.reap 60001 60000).2.roll = [("10.0.0.4:5000", 3)] := by
  have hs : lull.Sound := (RegistryRuns.directory_run (RegistryRuns.run_play _ _)).1.1
  have hgiven : (lull.reap 60001 60000).1.map (·.identity) = ["10.0.0.2:5000", "10.0.0.5:5000"] :=
    by decide
  exact ⟨hs, hgiven ▸ hs.reaped 60001 60000, by decide⟩

end HomeHub.Registry
