import HomeHub.Dispatcher
import HomeHub.Proofs.RegistryRuns

/-!
The numbers of sessions count their admissions, so that none is given out twice. A session that has
lost its slot is therefore never found again under its number, also when the slot or the identity
has long been taken by another one.
-/

namespace HomeHub.RegistryRuns

variable {config : Registry.Config} {r t : Registry} {log : List Event} {e : Event} {x : String}
  {i : Nat}

/-- The identity and the number of the session that an operation has admitted. -/
def admitted? : Event → Option (String × Nat)
  | ⟨.enroll x _ _, .admission (.ok (.admitted _ k))⟩ => some (x, k)
  | _ => none

/-- The sessions admitted in a run, first to last. -/
def admissions (log : List Event) : List (String × Nat) := log.filterMap admitted?

lemma admissions_snoc_of_none (h : admitted? e = none) :
    admissions (log ++ [e]) = admissions log := by
  simp [admissions, h]

lemma admissions_snoc_of_some {s : String × Nat} (h : admitted? e = some s) :
    admissions (log ++ [e]) = admissions log ++ [s] := by
  simp [admissions, h]

/-- No session has this identity and this number, and whoever asks for it is turned away. -/
structure Gone (r : Registry) (x : String) (i : Nat) : Prop where
  lookupSession : r.lookupSession x i = none
  evictSession : r.evictSession x i = ([], r)
  dispatch : ∀ {σ : Type} [Service σ] (d : Dispatcher) (service : Option σ) (payload : Bytes)
    (message : Inbound) (now : Time), Inbound.parse payload = .ok message →
    d.dispatch service r x i payload now = ⟨.gone, [], r, service⟩

lemma gone_of_notMem (h : (x, i) ∉ r.roll) : Gone r x i := by
  have hnone : ∀ a ∈ r.sessions, ¬ (a.identity = x ∧ a.id = i) := by
    rintro a ha ⟨rfl, rfl⟩
    exact h (List.mem_map.mpr ⟨a, ha, rfl⟩)
  have hlookup : r.lookupSession x i = none := by
    rw [Option.eq_none_iff_forall_ne_some]
    intro a ha
    obtain ⟨ha, hx, hi⟩ := Registry.mem_of_lookupSession ha
    exact hnone a ha ⟨hx, hi⟩
  refine ⟨hlookup, Registry.remove_eq_self fun a ha => ?_, ?_⟩
  · simpa using hnone a ha
  · intro σ _ d service payload message now hmessage
    simp only [Dispatcher.dispatch, hmessage, Dispatcher.noteActivity, hlookup, Option.map_none]

/-! ### Numbers -/

lemma nextId_step (hs : r.Sound) (h : Step r e t) :
    (admitted? e = none ∧ t.nextId = r.nextId) ∨
      ∃ x, admitted? e = some (x, r.nextId) ∧ t.nextId = r.nextId + 1 := by
  cases h with
  | perform o =>
    cases o with
    | enroll x link now =>
      simp only [perform]
      rcases Registry.enroll_cases hs x link now with
        ⟨n, a, -, -, h⟩ | ⟨-, -, h⟩ | ⟨n, -, -, -, h⟩ <;> rw [h]
      · exact .inl ⟨rfl, rfl⟩
      · exact .inl ⟨rfl, rfl⟩
      · exact .inr ⟨x, rfl, rfl⟩
    | _ => exact .inl ⟨rfl, rfl⟩

/-- The numbers given out so far, and the next one. -/
def Numbered (log : List Event) (r : Registry) : Prop :=
  (admissions log).map Prod.snd = List.range' 1 (admissions log).length ∧
    r.nextId = (admissions log).length + 1

lemma numbered_step (hs : r.Sound) (hi : Numbered log r) (h : Step r e t) :
    Numbered (log ++ [e]) t := by
  obtain ⟨hnumbers, hnext⟩ := hi
  rcases nextId_step hs h with ⟨he, ht⟩ | ⟨x, he, ht⟩
  · rw [Numbered, admissions_snoc_of_none he, ht]
    exact ⟨hnumbers, hnext⟩
  · rw [Numbered, admissions_snoc_of_some he, ht, List.length_append, List.length_singleton,
      List.map_append, hnumbers, hnext, List.range'_concat, Nat.one_mul, Nat.add_comm 1]
    exact ⟨rfl, rfl⟩

lemma numbered_run (h : Run Step (.new config) log r) : r.Sound ∧ Numbered log r :=
  h.invariant (I := fun log r => r.Sound ∧ Numbered log r) ⟨sound_new config, rfl, rfl⟩
    fun hi hstep => ⟨sound_step hi.1 hstep, numbered_step hi.1 hi.2 hstep⟩

lemma lt_nextId_of_admitted (h : Numbered log r) (hmem : (x, i) ∈ admissions log) :
    i < r.nextId := by
  have hi : i ∈ (admissions log).map Prod.snd := List.mem_map.mpr ⟨(x, i), hmem, rfl⟩
  rw [h.1, List.mem_range'_1] at hi
  rw [h.2]
  omega

/-- A session that is not there, but whose number has been given out, never comes. -/
lemma notMem_roll_of_carried (h : r.Carried t) (hi : i < r.nextId) (hgone : (x, i) ∉ r.roll) :
    (x, i) ∉ t.roll := by
  intro hmem
  obtain ⟨b, hb, heq⟩ := List.mem_map.mp hmem
  obtain ⟨hx, hk⟩ := Prod.mk.inj heq
  obtain ⟨n, hn⟩ := Registry.mem_sessions_iff.mp hb
  obtain ⟨a, ha, hax, hak⟩ := h.old hn (hk ▸ hi)
  refine hgone (List.mem_map.mpr ⟨a, Registry.mem_sessions_iff.mpr ⟨n, ha⟩, ?_⟩)
  rw [hax, hak, hx, hk]

/-- **A number is never used again.** The numbers given out one after the other increase, and do
not exceed the number of admissions; and a session that has been admitted and has no slot any more
is gone for good. -/
theorem gone_for_good (hrun : Run Step (.new config) log r) :
    ((admissions log).map Prod.snd).Pairwise (· < ·) ∧
    (∀ x i, (x, i) ∈ admissions log → i ≤ (admissions log).length) ∧
    ∀ x i, (x, i) ∈ admissions log → (x, i) ∉ r.roll →
      ∀ more t, Run Step r more t → Gone t x i := by
  obtain ⟨hs, hnumbered⟩ := numbered_run hrun
  refine ⟨?_, fun x i hmem => ?_, fun x i hmem hgone more t hmore => ?_⟩
  · rw [hnumbered.1]
    exact List.pairwise_lt_range'
  · have hlt := lt_nextId_of_admitted hnumbered hmem
    rw [hnumbered.2] at hlt
    exact Nat.le_of_lt_succ hlt
  · have hi := lt_nextId_of_admitted hnumbered hmem
    exact gone_of_notMem (notMem_roll_of_carried (carried_run hs hmore) hi hgone)

/-- A client is evicted and comes back under the same identity to the same slot. -/
theorem gone_for_good_reused :
    ∃ log r more t, Run Step (.new ⟨1, 64, 1500⟩) log r ∧ Run Step r more t ∧
      ("10.0.0.2:5000", 1) ∈ admissions log ∧ r.roll = [] ∧ t.roll = [("10.0.0.2:5000", 2)] ∧
      Gone t "10.0.0.2:5000" 1 := by
  have hrun := run_play (.new ⟨1, 64, 1500⟩)
    [.enroll "10.0.0.2:5000" none 0, .evict "10.0.0.2:5000"]
  have hmore (r : Registry) := run_play r [.enroll "10.0.0.2:5000" none 1]
  refine ⟨_, _, _, _, hrun, hmore _, by decide, by decide, by decide, ?_⟩
  exact (gone_for_good hrun).2.2 "10.0.0.2:5000" 1 (by decide) (by decide) _ _ (hmore _)

end HomeHub.RegistryRuns
