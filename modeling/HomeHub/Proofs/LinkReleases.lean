import HomeHub.Proofs.Draining
import HomeHub.Proofs.SizeGuard

/-!
Every link is released once: when the session ends that it came with, or at once if it gets none.

Which link a step releases is seen from the released ones before and after it. A link and the slot,
the identity and the number of the session that it came with stay together for as long as there is
such a session; so the link is held for exactly as long. Its writer is left without its handle then,
and writes what was queued before it ends.
-/

namespace HomeHub

namespace Connections

/-- The numbers of the links that sessions hold. -/
def held (c : Connections) : List Nat :=
  c.registry.sessions.filterMap fun a => a.link.map (·.number)

/-- A connection gets no session, and its link, if it has one, is released at once. -/
def turnAway (c : Connections) (transport : Option Transport) : Connections :=
  { c with
    released := c.released ++ transport.toList.map fun t => (c.nextLink t).refuse
    made := c.made + transport.toList.length }

/-- A connection gets a session in a free slot. -/
def seat (c : Connections) (slot : Nat) (x : String) (transport : Option Transport) (now : Time) :
    Connections :=
  ⟨c.registry.seated slot (c.registry.newcomer x (transport.map c.nextLink) now), c.released,
    c.made + transport.toList.length⟩

/-- The session stands in its slot. -/
def Sits (c : Connections) (slot : Nat) (x : String) (k : Nat) : Prop :=
  ∃ a, c.registry.occupant slot = some a ∧ a.identity = x ∧ a.id = k

variable {c : Connections} {n : Nat}

lemma numbers_eq (c : Connections) : c.numbers = c.held ++ c.released.map (·.number) := rfl

lemma mem_held_iff : n ∈ c.held ↔
    ∃ slot a, c.registry.occupant slot = some a ∧ a.link.map (·.number) = some n := by
  simp only [held, List.mem_filterMap, Registry.mem_sessions_iff]
  constructor
  · rintro ⟨a, ⟨slot, ha⟩, hn⟩
    exact ⟨slot, a, ha, hn⟩
  · rintro ⟨slot, a, ha, hn⟩
    exact ⟨a, ⟨slot, ha⟩, hn⟩

lemma enroll_cases (hs : c.registry.Sound) (x : String) (transport : Option Transport)
    (now : Time) :
    (∃ slot a, c.registry.occupant slot = some a ∧ a.identity = x ∧ c.enroll x transport now =
      (.ok (.alreadyConnected slot a.id), c.turnAway transport)) ∨
    (∀ a ∈ c.registry.sessions, a.identity ≠ x) ∧
      (c.enroll x transport now = (.error .registryFull, c.turnAway transport) ∨
        ∃ slot < c.registry.capacity, c.registry.Free slot ∧ c.enroll x transport now =
          (.ok (.admitted slot c.registry.nextId), c.seat slot x transport now)) := by
  have hmade : (transport.map c.nextLink).toList.length = transport.toList.length := by
    rw [Option.toList_map, List.length_map]
  have hrefuse : ((transport.map c.nextLink).map Link.refuse).toList =
      transport.toList.map fun t => (c.nextLink t).refuse := by
    rw [Option.map_map, Option.toList_map]
    rfl
  have henroll : c.enroll x transport now =
      ((c.registry.enroll x (transport.map c.nextLink) now).1,
        ⟨(c.registry.enroll x (transport.map c.nextLink) now).2.1,
          c.released ++ (c.registry.enroll x (transport.map c.nextLink) now).2.2.toList,
          c.made + (transport.map c.nextLink).toList.length⟩) := rfl
  rw [henroll, hmade]
  rcases Registry.enroll_cases hs x (transport.map c.nextLink) now with
    ⟨slot, a, ha, hx, h⟩ | ⟨hx, -, h⟩ | ⟨slot, hx, hslot, hleast, h⟩ <;> rw [h]
  · rw [hrefuse]
    exact .inl ⟨slot, a, ha, hx, rfl⟩
  · rw [hrefuse]
    exact .inr ⟨hx, .inl rfl⟩
  · refine .inr ⟨hx, .inr ⟨slot, hslot, hleast.1, ?_⟩⟩
    rw [Option.toList_none, List.append_nil]
    rfl

end Connections

namespace ConnectionRuns

open WriterRuns (taken)

variable {config : Registry.Config} {c c' : Connections} {o : Operation} {e : Event}
  {log : List Event} {a : Session} {l : Link} {frames : List Bytes} {n slot k : Nat} {x : String}

/-! ### What an event says of links -/

namespace Event

/-- The links that the event adds to the released ones. -/
def releases (e : Event) : List Nat :=
  ((e.operation.run e.before).released.drop e.before.released.length).map (·.number)

/-- The link comes, and a new session gets it. -/
def Seats (e : Event) (n slot : Nat) (x : String) (k : Nat) : Prop :=
  ∃ t now, e.operation = .enroll x (some t) now ∧ n = e.before.made ∧
    (e.before.enroll x (some t) now).1 = .ok (.admitted slot k)

/-- The link comes, and no session gets it. -/
def Refuses (e : Event) (n : Nat) : Prop :=
  ∃ x t now, e.operation = .enroll x (some t) now ∧ n = e.before.made ∧
    ∀ slot k, (e.before.enroll x (some t) now).1 ≠ .ok (.admitted slot k)

end Event

/-- A link and the session that it came with are together. -/
structure Paired (c : Connections) (n slot : Nat) (x : String) (k : Nat) : Prop where
  id_lt : k < c.registry.nextId
  lt_made : n < c.made
  same : ∀ {m a}, c.registry.occupant m = some a →
    (a.id = k ∨ a.link.map (·.number) = some n) →
      m = slot ∧ a.identity = x ∧ a.id = k ∧ a.link.map (·.number) = some n

lemma Paired.held_iff (h : Paired c n slot x k) : n ∈ c.held ↔ c.Sits slot x k := by
  rw [Connections.mem_held_iff]
  constructor
  · rintro ⟨m, a, ha, hn⟩
    obtain ⟨rfl, hx, hk, -⟩ := h.same ha (.inr hn)
    exact ⟨a, ha, hx, hk⟩
  · rintro ⟨a, ha, -, hk⟩
    exact ⟨slot, a, ha, (h.same ha (.inl hk)).2.2.2⟩

/-! ### Steps -/

lemma carries_of_ne_enroll (hs : c.registry.Sound)
    (h : ∀ x transport now, o ≠ .enroll x transport now) : Carries o c (o.run c) := by
  rcases run_cases hs o with ⟨x, transport, now, ho, -⟩ | hcarries
  · exact absurd ho (h x transport now)
  · exact hcarries

lemma Carries.occupant (h : Carries o c c') (m : Nat) : c'.registry.occupant m =
    ((c.registry.occupant m).filter fun a => !o.ends a).map o.change := by
  rw [h.registry, Registry.occupant_mapSessions, Registry.occupant_remove]

lemma Carries.exists_occupant (h : Carries o c c') {m : Nat} {b : Session}
    (hb : c'.registry.occupant m = some b) :
    ∃ a, c.registry.occupant m = some a ∧ b = o.change a := by
  rw [h.occupant] at hb
  obtain ⟨a, ha, rfl⟩ := Option.map_eq_some_iff.mp hb
  exact ⟨a, (Option.filter_eq_some_iff.mp ha).1, rfl⟩

lemma close_changeLink (o : Operation) (l : Link) : (o.changeLink l).close = l.close := by
  cases o with
  | write n w =>
    simp only [Operation.changeLink, progress]
    split <;> rfl
  | _ => rfl

lemma close_change (o : Operation) (a : Session) :
    (o.change a).link.map (·.close) = a.link.map (·.close) := by
  rcases change_cases o a with ⟨frame, -, -, h⟩ | ⟨-, h⟩
  · rw [h]
    cases hl : a.link <;> simp [Session.push, hl]
  · rw [h, Option.map_map]
    simp only [Function.comp_def, close_changeLink]

/-- A session that a step carries on stays with its link. -/
lemma Paired.carries (h : Paired c n slot x k) (hc : Carries o c c') : Paired c' n slot x k where
  id_lt := by
    rw [hc.registry]
    exact h.id_lt
  lt_made := hc.made ▸ h.lt_made
  same hb hown := by
    obtain ⟨a, ha, rfl⟩ := hc.exists_occupant hb
    have hkept := kept_change o a
    rw [hkept.id, hkept.number] at hown
    rw [hkept.identity, hkept.id, hkept.number]
    exact h.same ha hown

lemma Paired.seat (h : Paired c n slot x k) {m : Nat} (hm : m < c.registry.capacity) (y : String)
    (transport : Option Transport) (now : Time) :
    Paired (c.seat m y transport now) n slot x k where
  id_lt := Nat.lt_succ_of_lt h.id_lt
  lt_made := Nat.lt_add_right _ h.lt_made
  same {i b} hb hown := by
    rw [Connections.seat, Registry.occupant_seated hm] at hb
    split at hb
    · obtain rfl := Option.some.inj hb
      rcases hown with hid | hnumber
      · exact absurd hid (Nat.ne_of_gt h.id_lt)
      · rcases transport with _ | t
        · cases hnumber
        · exact absurd (Option.some.inj hnumber) (Nat.ne_of_gt h.lt_made)
    · exact h.same hb hown

lemma Paired.turnAway (h : Paired c n slot x k) (transport : Option Transport) :
    Paired (c.turnAway transport) n slot x k :=
  ⟨h.id_lt, Nat.lt_add_right _ h.lt_made, h.same⟩

lemma paired_seat (hi : Linked config c) {m : Nat} (hm : m < c.registry.capacity) (x : String)
    (t : Transport) (now : Time) :
    Paired (c.seat m x (some t) now) c.made m x c.registry.nextId where
  id_lt := Nat.lt_succ_self _
  lt_made := Nat.lt_succ_self _
  same {i b} hb hown := by
    rw [Connections.seat, Registry.occupant_seated hm] at hb
    split at hb
    · obtain rfl := Option.some.inj hb
      exact ⟨‹_›, rfl, rfl, rfl⟩
    · -- nobody had the number of the newcomer or that of its link
      rcases hown with hid | hnumber
      · have hlt := hi.sound.below b (Registry.mem_sessions_iff.mpr ⟨i, hb⟩)
        exact absurd hid (Nat.ne_of_lt hlt)
      · have hheld : c.made ∈ c.held := Connections.mem_held_iff.mpr ⟨i, b, hb, hnumber⟩
        exact absurd (hi.lt_made (List.mem_append_left _ hheld)) (Nat.lt_irrefl _)

/-! ### The invariant -/

/-- The session that the link came with has ended, or no session ever had it. -/
def Closed (log : List Event) (l : Link) : Prop :=
  l.writer.held = false ∧
    ((l.close = .signalled ∧ ∃ e ∈ log, ∃ slot x k, e.Seats l.number slot x k) ∨
      l.close = .dropped ∧ ∃ e ∈ log, e.Refuses l.number)

/-- What has come of the links after a run. -/
structure Tracked (log : List Event) (c : Connections) : Prop where
  released : c.released.map (·.number) = log.flatMap Event.releases
  origin : ∀ {m a l}, c.registry.occupant m = some a → a.link = some l →
    ∃ e ∈ log, e.Seats l.number m a.identity a.id
  paired : ∀ e ∈ log, ∀ {n slot x k}, e.Seats n slot x k → Paired c n slot x k
  kept : ∀ {m a l}, c.registry.occupant m = some a → a.link = some l → l.close = .kept
  closed : ∀ l ∈ c.released, Closed log l

lemma Closed.snoc (h : Closed log l) (e : Event) : Closed (log ++ [e]) l := by
  obtain ⟨hheld, ⟨hclose, e', he', h⟩ | ⟨hclose, e', he', h⟩⟩ := h
  · exact ⟨hheld, .inl ⟨hclose, e', List.mem_append_left _ he', h⟩⟩
  · exact ⟨hheld, .inr ⟨hclose, e', List.mem_append_left _ he', h⟩⟩

lemma tracked_new (config : Registry.Config) : Tracked [] (.new config) := by
  have hempty (m : Nat) (a : Session) :
      (Connections.new config).registry.occupant m ≠ some a := by
    intro ha
    have hmem : a ∈ (Registry.new config).sessions := Registry.mem_sessions_iff.mpr ⟨m, ha⟩
    rw [RegistryRuns.sessions_new] at hmem
    cases hmem
  exact ⟨rfl, fun ha => absurd ha (hempty _ _), nofun, fun ha => absurd ha (hempty _ _), nofun⟩

lemma released_snoc (h : Tracked log c) (change : Link → Link) (more : List Link)
    (hchange : ∀ l, (change l).number = l.number)
    (hreleased : (o.run c).released = c.released.map change ++ more) :
    (o.run c).released.map (·.number) = (log ++ [(⟨o, c⟩ : Event)]).flatMap Event.releases := by
  have hold : (c.released.map change).map (·.number) = c.released.map (·.number) := by
    rw [List.map_map]
    exact List.map_congr_left fun l _ => hchange l
  have hnew : (⟨o, c⟩ : Event).releases = more.map (·.number) := by
    rw [Event.releases, hreleased, List.drop_left' (List.length_map _)]
  rw [List.flatMap_append, List.flatMap_singleton, hnew, ← h.released, hreleased, List.map_append,
    hold]

lemma tracked_carries (hi : Tracked log c) (ho : ∀ x transport now, o ≠ .enroll x transport now)
    (h : Carries o c (o.run c)) : Tracked (log ++ [⟨o, c⟩]) (o.run c) where
  released := released_snoc hi o.changeLink _ (number_changeLink o) h.released
  origin {m b l} hb hl := by
    obtain ⟨a, ha, rfl⟩ := h.exists_occupant hb
    have hkept := kept_change o a
    obtain ⟨l', hl', hnumber⟩ : ∃ l', a.link = some l' ∧ l'.number = l.number := by
      rw [← Option.map_eq_some_iff, ← hkept.number, hl, Option.map_some]
    obtain ⟨e, he, hseats⟩ := hi.origin ha hl'
    rw [hkept.identity, hkept.id, ← hnumber]
    exact ⟨e, List.mem_append_left _ he, hseats⟩
  paired e he _ _ _ _ hseats := by
    rcases List.mem_append.mp he with he | he
    · exact (hi.paired e he hseats).carries h
    · obtain rfl := List.mem_singleton.mp he
      obtain ⟨t, now, henroll, -⟩ := hseats
      exact absurd henroll (ho _ _ _)
  kept {m b l} hb hl := by
    obtain ⟨a, ha, rfl⟩ := h.exists_occupant hb
    obtain ⟨l', hl', hclose⟩ : ∃ l', a.link = some l' ∧ l'.close = l.close := by
      rw [← Option.map_eq_some_iff, ← close_change o a, hl, Option.map_some]
    exact hclose.symm.trans (hi.kept ha hl')
  closed l hl := by
    rw [h.released, List.mem_append] at hl
    rcases hl with hl | hl
    · obtain ⟨l, hmem, rfl⟩ := List.mem_map.mp hl
      have hclosed := (hi.closed l hmem).snoc ⟨o, c⟩
      rwa [Closed, held_changeLink, close_changeLink, number_changeLink]
    · -- the session has ended, and it had its link from its admission
      obtain ⟨a, ha, hl⟩ := List.mem_filterMap.mp hl
      obtain ⟨m, hm⟩ := Registry.mem_sessions_iff.mp (List.mem_of_mem_filter ha)
      obtain ⟨l, hlink, rfl⟩ := Option.map_eq_some_iff.mp hl
      obtain ⟨e, he, hseats⟩ := hi.origin hm hlink
      exact ⟨rfl, .inl ⟨rfl, e, List.mem_append_left _ he, _, _, _, hseats⟩⟩

lemma tracked_turnAway (hi : Tracked log c) {transport : Option Transport} {now : Time}
    (hrun : (Operation.enroll x transport now).run c = c.turnAway transport)
    (hnot : ∀ slot k, (c.enroll x transport now).1 ≠ .ok (.admitted slot k)) :
    Tracked (log ++ [⟨.enroll x transport now, c⟩]) (c.turnAway transport) where
  released := by
    rw [← hrun]
    refine released_snoc hi id (transport.toList.map fun t => (c.nextLink t).refuse)
      (fun _ => rfl) ?_
    rw [hrun, List.map_id]
    rfl
  origin ha hl := by
    obtain ⟨e, he, hseats⟩ := hi.origin ha hl
    exact ⟨e, List.mem_append_left _ he, hseats⟩
  paired e he _ _ _ _ hseats := by
    rcases List.mem_append.mp he with he | he
    · exact (hi.paired e he hseats).turnAway transport
    · obtain rfl := List.mem_singleton.mp he
      obtain ⟨t, now, henroll, -, hadmitted⟩ := hseats
      cases henroll
      exact absurd hadmitted (hnot _ _)
  kept := hi.kept
  closed l hl := by
    rcases List.mem_append.mp hl with hl | hl
    · exact (hi.closed l hl).snoc _
    · obtain ⟨t, ht, rfl⟩ := List.mem_map.mp hl
      obtain rfl : transport = some t := Option.mem_toList.mp ht
      exact ⟨rfl, .inr ⟨rfl, _, List.mem_append_right _ List.mem_cons_self, x, t, now, rfl, rfl,
        hnot⟩⟩

lemma tracked_seat (hi : Tracked log c) (hlinked : Linked config c) {m : Nat}
    (hm : m < c.registry.capacity) {transport : Option Transport} {now : Time}
    (henroll : c.enroll x transport now =
      (.ok (.admitted m c.registry.nextId), c.seat m x transport now)) :
    Tracked (log ++ [⟨.enroll x transport now, c⟩]) (c.seat m x transport now) where
  released := by
    have hrun : (Operation.enroll x transport now).run c = c.seat m x transport now :=
      congrArg Prod.snd henroll
    rw [← hrun]
    refine released_snoc hi id [] (fun _ => rfl) ?_
    rw [hrun, List.map_id, List.append_nil]
    rfl
  origin {i b l} hb hl := by
    rw [Connections.seat, Registry.occupant_seated hm] at hb
    split at hb
    · obtain rfl := Option.some.inj hb
      obtain ⟨t, rfl, rfl⟩ := Option.map_eq_some_iff.mp hl
      obtain rfl : i = m := ‹_›
      exact ⟨_, List.mem_append_right _ List.mem_cons_self, t, now, rfl, rfl,
        congrArg Prod.fst henroll⟩
    · obtain ⟨e, he, hseats⟩ := hi.origin hb hl
      exact ⟨e, List.mem_append_left _ he, hseats⟩
  paired e he _ _ _ _ hseats := by
    rcases List.mem_append.mp he with he | he
    · exact (hi.paired e he hseats).seat hm x transport now
    · obtain rfl := List.mem_singleton.mp he
      obtain ⟨t, now, heq, rfl, hadmitted⟩ := hseats
      cases heq
      rw [henroll, Except.ok.injEq, Admission.admitted.injEq] at hadmitted
      obtain ⟨rfl, rfl⟩ := hadmitted
      exact paired_seat hlinked hm x t now
  kept {i b l} hb hl := by
    rw [Connections.seat, Registry.occupant_seated hm] at hb
    split at hb
    · obtain rfl := Option.some.inj hb
      obtain ⟨t, rfl, rfl⟩ := Option.map_eq_some_iff.mp hl
      rfl
    · exact hi.kept hb hl
  closed l hl := (hi.closed l hl).snoc _

lemma tracked_step (hlinked : Linked config c) (hi : Tracked log c) (h : Step c e c') :
    Tracked (log ++ [e]) c' := by
  obtain ⟨o, -⟩ := h
  by_cases ho : ∃ x transport now, o = .enroll x transport now
  · obtain ⟨x, transport, now, rfl⟩ := ho
    rcases Connections.enroll_cases hlinked.sound x transport now with
      ⟨m, a, -, -, h⟩ | ⟨-, h | ⟨m, hm, -, h⟩⟩
    · have hrun : (Operation.enroll x transport now).run c = c.turnAway transport :=
        congrArg Prod.snd h
      rw [hrun]
      exact tracked_turnAway hi hrun (by simp [h])
    · have hrun : (Operation.enroll x transport now).run c = c.turnAway transport :=
        congrArg Prod.snd h
      rw [hrun]
      exact tracked_turnAway hi hrun (by simp [h])
    · have hrun : (Operation.enroll x transport now).run c = c.seat m x transport now :=
        congrArg Prod.snd h
      rw [hrun]
      exact tracked_seat hi hlinked hm h
  · have hnot : ∀ x transport now, o ≠ .enroll x transport now :=
      fun x transport now heq => ho ⟨x, transport, now, heq⟩
    exact tracked_carries hi hnot (carries_of_ne_enroll hlinked.sound hnot)

/-! ### Results -/

/-- What is to be said of the links of a registry after a run. -/
structure ReleasedOnce (log : List Event) (c : Connections) : Prop where
  /-- Each link there has been is held by one session, or was released by one event. -/
  once : (c.held ++ log.flatMap Event.releases).Perm (List.range c.made)
  released : c.released.map (·.number) = log.flatMap Event.releases
  origin : ∀ n < c.made, ∃ e ∈ log, (∃ slot x k, e.Seats n slot x k) ∨ e.Refuses n
  held_iff : ∀ e ∈ log, ∀ n slot x k, e.Seats n slot x k → (n ∈ c.held ↔ c.Sits slot x k)
  /-- What comes next releases a link just if the session ends that it came with. -/
  ended_iff : ∀ e ∈ log, ∀ n slot x k, e.Seats n slot x k → ∀ f c', Step c f c' →
    (n ∈ f.releases ↔ c.Sits slot x k ∧ ¬ c'.Sits slot x k)
  refused : ∀ f c', Step c f c' → ∀ n, f.Refuses n → f.releases = [n]
  kept : ∀ a ∈ c.registry.sessions, ∀ l, a.link = some l →
    l.writer.held = true ∧ l.close = .kept
  closed : ∀ l ∈ c.released, Closed log l
  drains : ∀ l ∈ c.released, l.Drains (framesOn log l.number)
  /-- The session of the identity stays as it is, with its link. -/
  duplicate : ∀ x transport now, x ∈ c.registry.identities → ∃ slot k, c.Sits slot x k ∧
    c.enroll x transport now = (.ok (.alreadyConnected slot k), c.turnAway transport)
  full : ∀ x transport now, (c.enroll x transport now).1 = .error .registryFull →
    (c.enroll x transport now).2 = c.turnAway transport
  closeAll : c.closeAll.1.length = c.registry.size ∧ c.closeAll.2.held = [] ∧
    c.closeAll.2.released =
      c.released ++ (c.registry.sessions.filterMap (·.link)).map Link.signal

lemma once_of_tracked (hlinked : Linked config c) (hi : Tracked log c) :
    (c.held ++ log.flatMap Event.releases).Perm (List.range c.made) := by
  rw [← hi.released, ← Connections.numbers_eq]
  exact hlinked.numbers

lemma mem_releases_iff (h : (c.held ++ log.flatMap Event.releases).Perm (List.range c.made))
    (h' : (c'.held ++ (log ++ [e]).flatMap Event.releases).Perm (List.range c'.made))
    (hn : n < c.made) (hn' : n < c'.made) : n ∈ e.releases ↔ n ∈ c.held ∧ n ∉ c'.held := by
  have hmem := h.mem_iff.mpr (List.mem_range.mpr hn)
  have hmem' := h'.mem_iff.mpr (List.mem_range.mpr hn')
  have hnodup := List.nodup_append.mp (h.nodup_iff.mpr List.nodup_range)
  have hnodup' := List.nodup_append.mp (h'.nodup_iff.mpr List.nodup_range)
  rw [List.flatMap_append, List.flatMap_singleton] at hmem' hnodup'
  simp only [List.mem_append] at hmem hmem'
  constructor
  · intro hreleases
    have hnew : n ∉ log.flatMap Event.releases := fun hold =>
      (List.nodup_append.mp hnodup'.2.1).2.2 n hold n hreleases rfl
    have hgone : n ∉ c'.held := fun hheld =>
      hnodup'.2.2 n hheld n (List.mem_append_right _ hreleases) rfl
    exact ⟨hmem.resolve_right hnew, hgone⟩
  · rintro ⟨hheld, hgone⟩
    have hnew : n ∉ log.flatMap Event.releases := fun hold => hnodup.2.2 n hheld n hold rfl
    exact (hmem'.resolve_left hgone).resolve_left hnew

lemma origin_of_tracked (hlinked : Linked config c) (hi : Tracked log c) (hn : n < c.made) :
    ∃ e ∈ log, (∃ slot x k, e.Seats n slot x k) ∨ e.Refuses n := by
  have hmem := hlinked.numbers.mem_iff.mpr (List.mem_range.mpr hn)
  rw [Connections.numbers_eq, List.mem_append, Connections.mem_held_iff, List.mem_map] at hmem
  rcases hmem with ⟨slot, a, ha, hl⟩ | ⟨l, hl, rfl⟩
  · obtain ⟨l, hlink, rfl⟩ := Option.map_eq_some_iff.mp hl
    obtain ⟨e, he, hseats⟩ := hi.origin ha hlink
    exact ⟨e, he, .inl ⟨slot, _, _, hseats⟩⟩
  · obtain ⟨-, ⟨-, e, he, hseats⟩ | ⟨-, e, he, hrefuses⟩⟩ := hi.closed l hl
    · exact ⟨e, he, .inl hseats⟩
    · exact ⟨e, he, .inr hrefuses⟩

lemma releases_of_refuses (hs : c.registry.Sound) (h : Event.Refuses ⟨o, c⟩ n) :
    Event.releases ⟨o, c⟩ = [n] := by
  obtain ⟨x, t, now, rfl, rfl, hnot⟩ := h
  have haway : (c.enroll x (some t) now).2 = c.turnAway (some t) := by
    rcases Connections.enroll_cases hs x (some t) now with
      ⟨m, a, -, -, h⟩ | ⟨-, h | ⟨m, -, -, h⟩⟩
    · rw [h]
    · rw [h]
    · exact absurd (congrArg Prod.fst h) (hnot _ _)
  rw [Event.releases, Operation.run, haway, Connections.turnAway, List.drop_left' rfl]
  rfl

lemma closeAll_eq (c : Connections) : c.closeAll.1.length = c.registry.size ∧
    c.closeAll.2.held = [] ∧ c.closeAll.2.released =
      c.released ++ (c.registry.sessions.filterMap (·.link)).map Link.signal := by
  have hended : c.closeAll.1 = c.registry.sessions := List.filter_eq_self.mpr fun _ _ => rfl
  have hsessions : c.closeAll.2.registry.sessions = [] := by
    have hremove := c.registry.sessions_remove fun _ => true
    rwa [List.filter_eq_nil_iff.mpr (by simp)] at hremove
  refine ⟨congrArg List.length hended, ?_, ?_⟩
  · rw [Connections.held, hsessions]
    rfl
  · rw [List.map_filterMap, ← hended]
    rfl

/-- **Every link is released once.** Whoever comes and goes, a link is held for as long as the
session that it came with stands in its slot, and what ends that session releases it; a link whose
connection gets no session is released at once. Then its close signal has been given or dropped and
its writer is without its handle, so that it writes what was queued and ends. -/
theorem releasedOnce_of_run (hrun : Run Step (.new config) log c) : ReleasedOnce log c := by
  obtain ⟨hi, ht⟩ : Inv config (framesOn log) c ∧ Tracked log c :=
    hrun.invariant (I := fun log c => Inv config (framesOn log) c ∧ Tracked log c)
      ⟨inv_new config, tracked_new config⟩
      fun h hstep => ⟨inv_step h.1 hstep, tracked_step h.1.linked h.2 hstep⟩
  have hs := hi.linked.sound
  refine ⟨once_of_tracked hi.linked ht, ht.released, fun n => origin_of_tracked hi.linked ht,
    fun e he n slot x k hseats => (ht.paired e he hseats).held_iff, ?_, ?_, ?_, ht.closed, ?_, ?_,
    ?_, closeAll_eq c⟩
  · intro e he n slot x k hseats f c' hstep
    have hlinked' := (inv_step hi hstep).linked
    have ht' := tracked_step hi.linked ht hstep
    have hpaired := ht.paired e he hseats
    have hpaired' := ht'.paired e (List.mem_append_left _ he) hseats
    rw [← hpaired.held_iff, ← hpaired'.held_iff]
    exact mem_releases_iff (once_of_tracked hi.linked ht) (once_of_tracked hlinked' ht')
      hpaired.lt_made hpaired'.lt_made
  · rintro f c' ⟨o, -⟩ n hrefuses
    exact releases_of_refuses hs hrefuses
  · intro a ha l hl
    obtain ⟨m, hm⟩ := Registry.mem_sessions_iff.mp ha
    exact ⟨(hi.held a ha l hl).1, ht.kept hm hl⟩
  · intro l hl
    obtain ⟨slots, hinv⟩ := (hi.released l hl).inv
    exact Link.drains_of_inv hinv (ht.closed l hl).1
  · intro x transport now hx
    rcases Connections.enroll_cases hs x transport now with ⟨m, a, ha, hx, h⟩ | ⟨habsent, -⟩
    · exact ⟨m, a.id, ⟨a, ha, hx, rfl⟩, h⟩
    · obtain ⟨a, ha, hx⟩ := List.mem_map.mp hx
      exact absurd hx (habsent a ha)
  · intro x transport now hfull
    rcases Connections.enroll_cases hs x transport now with
      ⟨m, a, -, -, h⟩ | ⟨-, h | ⟨m, -, -, h⟩⟩ <;> rw [h] at hfull ⊢
    cases hfull

/-- With one slot: a client comes twice, another one is refused, a frame is queued for the first,
its session is ended twice, and its next one with all others. -/
def comings : List Operation :=
  [.enroll client (some ⟨4, .eager⟩) 0, .enroll client (some ⟨4, .eager⟩) 1,
    .enroll "10.0.0.3:5000" (some ⟨4, .eager⟩) 2, .task client (.send [49, 59, 97]),
    .evictSession client 1, .evict client, .enroll client (some ⟨4, .eager⟩) 3, .closeAll]

theorem releasedOnce_of_run_comings :
    let played := Run.play act (.new ⟨1, 64, 1500⟩) comings
    Run Step (.new ⟨1, 64, 1500⟩) played.1 played.2 ∧ ReleasedOnce played.1 played.2 ∧
      played.1.map Event.releases = [[], [1], [2], [], [0], [], [], [3]] ∧
      (played.2.released.map fun l => (l.close, taken l.run.sink.log)) =
        [(.dropped, []), (.dropped, []), (.signalled, [49, 59, 97]), (.signalled, [])] := by
  intro played
  have hfresh : ∀ o ∈ comings, o.Fresh := by simp [comings, Operation.Fresh, Sink.eager, Sink.new]
  have hrun := run_play (.new ⟨1, 64, 1500⟩) comings hfresh
  exact ⟨hrun, releasedOnce_of_run hrun, by decide +kernel, by decide +kernel⟩

end ConnectionRuns

end HomeHub
