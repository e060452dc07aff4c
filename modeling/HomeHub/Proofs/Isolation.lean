import HomeHub.Proofs.RegistryRuns

/-!
Clients do not influence each other's sessions. What one client sees of a registry is what becomes
of the operations that name it, or nobody, and its session after each of them, the slot and the
number apart. It would see the same if nobody else were ever named.

A session that is kept without a registry carries this: any registry, whoever else is in it, shows a
client the session that would be kept for it alone.
-/

namespace HomeHub

/-- One step of the writer of a link. -/
def Link.progress (event : Writer.Event) (l : Link) : Link :=
  { l with writer := (l.writer.step event).1, sink := l.sink.note (l.writer.step event).2 }

/-- A session apart from its number. -/
def Session.unnumbered (a : Session) : Session := { a with id := 0 }

namespace Registry

variable {r r' : Registry} {x y : String} {a : Session}

/-! ### Finding a session again -/

lemma Sound.lookup_eq_some_iff (hs : Sound r) :
    r.lookup x = some a ↔ a ∈ r.sessions ∧ a.identity = x := by
  refine ⟨mem_of_lookup, ?_⟩
  rintro ⟨ha, rfl⟩
  exact hs.lookup_eq ha

lemma find?_filter_of_nodup {l : List Session} (h : (l.map (·.identity)).Nodup)
    (condition : Session → Bool) :
    (l.filter condition).find? (·.identity == x) =
      (l.find? (·.identity == x)).filter condition := by
  induction l with
  | nil => rfl
  | cons a l ih =>
    rw [List.map_cons, List.nodup_cons] at h
    by_cases hx : a.identity = x
    · -- there is no other with this identity
      have hnone : (l.filter condition).find? (·.identity == x) = none := by
        rw [List.find?_eq_none]
        intro b hb hbx
        have hb := (List.mem_filter.mp hb).1
        exact h.1 (List.mem_map.mpr ⟨b, hb, (beq_iff_eq.mp hbx).trans hx.symm⟩)
      have hpos : (a.identity == x) = true := beq_iff_eq.mpr hx
      simp only [List.filter_cons, List.find?_cons, hpos, Option.filter_some]
      split
      · exact List.find?_cons_of_pos hpos
      · exact hnone
    · have hneg : (a.identity == x) = false := beq_false_of_ne hx
      simp only [List.filter_cons, List.find?_cons, hneg]
      rw [← ih h.2]
      split
      · rw [List.find?_cons, hneg]
      · rfl

lemma Sound.lookup_remove (hs : Sound r) (condition : Session → Bool) :
    (r.remove condition).2.lookup x = (r.lookup x).filter fun a => !condition a := by
  rw [lookup, sessions_remove, find?_filter_of_nodup hs.identities]
  rfl

lemma lookup_mapSessions {change : Session → Session}
    (h : ∀ a, (change a).identity = a.identity) :
    (r.mapSessions change).lookup x = (r.lookup x).map change := by
  rw [lookup, sessions_mapSessions, List.find?_map]
  simp only [Function.comp_def, h]
  rfl

lemma lookup_modify {change : Session → Session} (h : ∀ a, (change a).identity = a.identity) :
    (r.modify y change).lookup x = if x = y then (r.lookup x).map change else r.lookup x := by
  have hkeeps (a : Session) :
      (if a.identity = y then change a else a).identity = a.identity := by
    split
    · exact h a
    · rfl
  rw [RegistryRuns.modify_eq, lookup_mapSessions hkeeps]
  rcases hl : r.lookup x with _ | a
  · simp
  · have hx := (mem_of_lookup hl).2
    simp only [Option.map_some, hx]
    split <;> rfl

lemma mapSessions_congr {f g : Session → Session} (h : ∀ a ∈ r.sessions, f a = g a) :
    r.mapSessions f = r.mapSessions g := by
  have hslots : r.slots.map (Option.map f) = r.slots.map (Option.map g) := by
    refine List.map_congr_left fun slot hslot => ?_
    rcases slot with _ | a
    · rfl
    · exact congrArg some (h a (List.mem_filterMap.mpr ⟨some a, hslot, rfl⟩))
  rw [mapSessions, mapSessions, hslots]

lemma mapSessions_id (r : Registry) : r.mapSessions id = r := by
  simp [mapSessions]

lemma Sound.send_eq (hs : Sound r) (frame : Bytes) : r.send x frame =
    ((r.lookup x).map fun a => (a.send frame).1, r.modify x fun a => (a.send frame).2) := by
  unfold send
  rcases hl : r.lookup x with _ | a
  · have hsame := mapSessions_congr (r := r) (f := id)
      (g := fun a => if a.identity = x then (a.send frame).2 else a) fun a ha => by
        rw [if_neg (lookup_eq_none_iff.mp hl a ha), id]
    rw [mapSessions_id] at hsame
    exact Prod.ext rfl hsame
  · obtain ⟨ha, hx⟩ := mem_of_lookup hl
    refine Prod.ext rfl (mapSessions_congr fun b hb => ?_)
    split
    · rename_i hbx
      rw [hs.eq_of_identity hb ha (hbx.trans hx.symm)]
    · rfl

lemma Admits.lookup_eq {k : Nat} {link : Option Link} {now : Time}
    (h : Admits y k link now r r') (hs : Sound r) : r'.lookup x =
      if x = y then some (.new y k r.config.bufferCapacity r.config.staleAfter link now)
      else r.lookup x := by
  split
  · rename_i hx
    exact (h.sound hs).lookup_eq_some_iff.mpr ⟨h.mem_iff.mpr (.inl rfl), hx.symm⟩
  · rename_i hx
    ext a
    rw [(h.sound hs).lookup_eq_some_iff, hs.lookup_eq_some_iff, h.mem_iff]
    refine and_congr_left fun hax => or_iff_right ?_
    rintro rfl
    exact hx hax.symm

end Registry

namespace Isolation

open Registry

/-! ### What one client sees -/

/-- What is done to a session that has been looked up. -/
inductive Request
  | touch (now : Time)
  | heartbeat (now : Time)
  /-- Takes in bytes and pulls all there is to pull. -/
  | drain (data : Bytes) (now : Time)
  /-- The writer behind it takes a step. -/
  | write (event : Writer.Event)

/-- The items that a request gives, and the session after it. -/
def Request.run (a : Session) : Request → List Item × Session
  | .touch now => ([], a.touch now)
  | .heartbeat now => ([], a.heartbeat now)
  | .drain data now =>
    ((a.frames.feed data now).drain.1, { a with frames := (a.frames.feed data now).drain.2 })
  | .write event => ([], { a with link := a.link.map (Link.progress event) })

inductive Operation
  | enroll (identity : String) (link : Option Link) (now : Time)
  | evict (identity : String)
  | send (identity : String) (frame : Bytes)
  | request (identity : String) (request : Request)
  | fanOut (outbox : Outbox) (nonce : Nonce) (message : Outbound)
  | reap (now : Time) (timeout : Nat)
  | closeAll

/-- The identity that an operation names. -/
def Operation.subject? : Operation → Option String
  | .enroll x _ _ => some x
  | .evict x => some x
  | .send x _ => some x
  | .request x _ => some x
  | .fanOut .. => none
  | .reap .. => none
  | .closeAll => none

/-- An operation names the identity, or nobody. -/
def Operation.concerns (x : String) (o : Operation) : Bool := o.subject?.all (· == x)

def Operation.apply (r : Registry) : Operation → Registry
  | .enroll x link now => (r.enroll x link now).2.1
  | .evict x => (r.evict x).2
  | .send x frame => (r.send x frame).2
  | .request x q => r.modify x fun a => (q.run a).2
  | .fanOut outbox nonce message => (outbox.fanOut nonce r message).2
  | .reap now timeout => (r.reap now timeout).2
  | .closeAll => r.closeAll.2

/-- Whether an admission made a new session. -/
def isNew : Admission → Bool
  | .admitted _ _ => true
  | .alreadyConnected _ _ => false

/-- What becomes of an operation, for one client. -/
inductive Seen
  /-- Whether the session is new. -/
  | admission (result : Except AdmissionFault Bool)
  /-- The session of the client as it ends. -/
  | ended (session : Option Session)
  /-- None if the client has no session. -/
  | sent (result : Option (Except SendFault Unit))
  /-- None if the client has no session. -/
  | items (items : Option (List Item))

def Seen.isRefused : Seen → Bool
  | .admission (.error _) => true
  | _ => false

/-- The session of an identity, apart from its number. -/
def own (x : String) (r : Registry) : Option Session := (r.lookup x).map Session.unnumbered

/-- The session of an identity among those that have ended. -/
def leaving (x : String) (ended : List Session) : Seen :=
  .ended ((ended.find? (·.identity == x)).map Session.unnumbered)

def seen (x : String) (r : Registry) : Operation → Seen
  | .enroll y link now => .admission ((r.enroll y link now).1.map isNew)
  | .evict y => leaving x (r.evict y).1
  | .send y frame => .sent (r.send y frame).1
  | .request y q => .items ((r.lookup y).map fun a => (q.run a).1)
  | .fanOut outbox nonce message =>
    .sent ((r.lookup x).map fun a => (a.send (outbox.prepare nonce message)).1)
  | .reap now timeout => leaving x (r.reap now timeout).1
  | .closeAll => leaving x r.closeAll.1

/-- An operation, what becomes of it for one client, and the client's session after it. -/
structure Sight where
  operation : Operation
  seen : Seen
  session : Option Session

def watch (x : String) (r : Registry) (o : Operation) : Sight × Registry :=
  (⟨o, seen x r o, own x (o.apply r)⟩, o.apply r)

/-! ### A session on its own -/

/-- What an operation makes of a session that is kept without a registry. -/
def solo (config : Registry.Config) (x : String) (mine : Option Session) :
    Operation → Seen × Option Session
  | .enroll _ link now => (.admission (.ok mine.isNone),
      mine.or (some (.new x 0 config.bufferCapacity config.staleAfter link now)))
  | .evict _ => (.ended mine, none)
  | .send _ frame =>
    (.sent (mine.map fun a => (a.send frame).1), mine.map fun a => (a.send frame).2)
  | .request _ q => (.items (mine.map fun a => (q.run a).1), mine.map fun a => (q.run a).2)
  | .fanOut outbox nonce message =>
    (.sent (mine.map fun a => (a.send (outbox.prepare nonce message)).1),
      mine.map fun a => (a.send (outbox.prepare nonce message)).2)
  | .reap now timeout => (.ended (mine.filter fun a => a.isIdle now timeout),
      mine.filter fun a => !a.isIdle now timeout)
  | .closeAll => (.ended mine, none)

def watchSolo (config : Registry.Config) (x : String) (mine : Option Session) (o : Operation) :
    Sight × Option Session :=
  (⟨o, (solo config x mine o).1, (solo config x mine o).2⟩, (solo config x mine o).2)

/-! ### Steps -/

variable {config : Registry.Config} {x y : String} {r t : Registry} {o : Operation}

/-- What is done to a session keeps its identity and its number, and does not depend on the
number. -/
structure Plain {β : Type} (act : Session → β × Session) : Prop where
  identity : ∀ a, (act a).2.identity = a.identity
  id : ∀ a, (act a).2.id = a.id
  unnumbered : ∀ a, act a.unnumbered = ((act a).1, (act a).2.unnumbered)

lemma plain_run (q : Request) : Plain fun a => q.run a where
  identity a := by cases q <;> rfl
  id a := by cases q <;> rfl
  unnumbered a := by cases q <;> rfl

lemma plain_send (frame : Bytes) : Plain fun a => a.send frame where
  identity a := (a.sameButQueue_send frame).identity
  id a := (a.sameButQueue_send frame).id
  unnumbered a := by
    by_cases hlen : a.sendCapacity < frame.length
    · simp [Session.send, Session.unnumbered, hlen]
    · rcases hl : a.link with _ | l <;> simp [Session.send, Session.unnumbered, hlen, hl]

/-- All that can become of the registry: it is as it was, or a newcomer has come in, or some
sessions have ended, or some have changed in what is not their identity or number. -/
inductive Change (r : Registry) : Registry → Prop
  | same : Change r r
  | enter {y : String} {slot : Nat} {link : Option Link} {now : Time} : slot < r.capacity →
      Admits y r.nextId link now r (r.seated slot (r.newcomer y link now)) →
      Change r (r.seated slot (r.newcomer y link now))
  | remove (condition : Session → Bool) : Change r (r.remove condition).2
  | map {change : Session → Session} :
      (∀ a, (change a).identity = a.identity ∧ (change a).id = a.id) →
      Change r (r.mapSessions change)

lemma Plain.change_modify {β : Type} {act : Session → β × Session} (h : Plain act) :
    Change r (r.modify y fun a => (act a).2) := by
  refine .map fun a => ?_
  split
  · exact ⟨h.identity a, h.id a⟩
  · exact ⟨rfl, rfl⟩

lemma change_apply (hs : r.Sound) (o : Operation) : Change r (o.apply r) := by
  cases o with
  | enroll y link now =>
    simp only [Operation.apply]
    rcases enroll_cases hs y link now with ⟨n, a, -, -, h⟩ | ⟨-, -, h⟩ | ⟨n, -, hn, -, h⟩
    · rw [h]
      exact .same
    · rw [h]
      exact .same
    · have hadmits := admits_enroll (congrArg Prod.fst h)
      rw [h] at hadmits ⊢
      exact .enter hn hadmits
  | evict y => exact .remove _
  | send y frame =>
    simp only [Operation.apply, hs.send_eq]
    exact (plain_send frame).change_modify
  | request y q => exact (plain_run q).change_modify
  | fanOut outbox nonce message =>
    have hsend := plain_send (outbox.prepare nonce message)
    exact .map fun a => ⟨hsend.identity a, hsend.id a⟩
  | reap now timeout => exact .remove _
  | closeAll => exact .remove _

lemma Change.sound (h : Change r t) (hs : r.Sound) : t.Sound := by
  cases h with
  | same => exact hs
  | enter _ hadmits => exact hadmits.sound hs
  | remove condition => exact hs.remove condition
  | map hkeeps =>
    refine Onward.sound (R := fun _ _ => True) (onward_mapSessions fun a _ => ?_) hs
    exact ⟨(hkeeps a).1, (hkeeps a).2, trivial⟩

lemma Change.carried (h : Change r t) : r.Carried t := by
  cases h with
  | same => exact carried_refl r
  | enter hslot _ => exact carried_seated hslot rfl
  | remove condition => exact carried_remove condition
  | map hkeeps => exact carried_mapSessions hkeeps

lemma sound_apply (hs : r.Sound) (o : Operation) : (o.apply r).Sound :=
  (change_apply hs o).sound hs

lemma carried_apply (hs : r.Sound) (o : Operation) : r.Carried (o.apply r) :=
  (change_apply hs o).carried

/-! ### The session of one client -/

lemma identity_of_own {a : Session} (h : own x r = some a) : a.identity = x := by
  obtain ⟨b, hb, rfl⟩ := Option.map_eq_some_iff.mp h
  exact (mem_of_lookup hb).2

section Plain

variable {β : Type} {act : Session → β × Session} (h : Plain act)
include h

lemma Plain.map_fst_own : (r.lookup x).map (fun a => (act a).1) =
    (own x r).map fun a => (act a).1 := by
  rw [own, Option.map_map]
  simp only [Function.comp_def, h.unnumbered]

lemma Plain.map_unnumbered (mine : Option Session) :
    (mine.map fun a => (act a).2).map Session.unnumbered =
      (mine.map Session.unnumbered).map fun a => (act a).2 := by
  rw [Option.map_map, Option.map_map]
  simp only [Function.comp_def, h.unnumbered]

lemma Plain.own_mapSessions :
    own x (r.mapSessions fun a => (act a).2) = (own x r).map fun a => (act a).2 := by
  rw [own, own, lookup_mapSessions h.identity, h.map_unnumbered]

lemma Plain.own_modify : own x (r.modify y fun a => (act a).2) =
    if x = y then (own x r).map (fun a => (act a).2) else own x r := by
  rw [own, own, lookup_modify h.identity]
  split
  · exact h.map_unnumbered _
  · rfl

end Plain

lemma filter_unnumbered {condition : Session → Bool}
    (h : ∀ a, condition a.unnumbered = condition a) (mine : Option Session) :
    (mine.filter condition).map Session.unnumbered =
      (mine.map Session.unnumbered).filter condition := by
  rcases mine with _ | a
  · rfl
  · rw [Option.map_some, Option.filter_some, Option.filter_some, h a]
    split <;> rfl

lemma own_remove (hs : r.Sound) {condition : Session → Bool}
    (h : ∀ a, condition a.unnumbered = condition a) :
    own x (r.remove condition).2 = (own x r).filter fun a => !condition a := by
  rw [own, own, hs.lookup_remove]
  exact filter_unnumbered (fun a => congrArg not (h a)) _

lemma leaving_remove (hs : r.Sound) {condition : Session → Bool}
    (h : ∀ a, condition a.unnumbered = condition a) :
    leaving x (r.remove condition).1 = .ended ((own x r).filter condition) := by
  rw [leaving, remove, find?_filter_of_nodup hs.identities, filter_unnumbered h]
  rfl

lemma own_admits {k : Nat} {link : Option Link} {now : Time} (h : Admits y k link now r t)
    (hs : r.Sound) : own x t =
      if x = y then some (.new y 0 r.config.bufferCapacity r.config.staleAfter link now)
      else own x r := by
  rw [own, own, h.lookup_eq hs]
  split <;> rfl

lemma own_apply_of_not_concerns (hs : r.Sound) (h : o.concerns x = false) :
    own x (o.apply r) = own x r := by
  cases o with
  | enroll y link now =>
    have hne : x ≠ y := (beq_eq_false_iff_ne.mp h).symm
    simp only [Operation.apply]
    rcases enroll_cases hs y link now with ⟨n, a, -, -, h⟩ | ⟨-, -, h⟩ | ⟨n, -, -, -, h⟩
    · rw [h]
    · rw [h]
    · rw [own_admits (admits_enroll (congrArg Prod.fst h)) hs, if_neg hne]
  | evict y =>
    have hne : x ≠ y := (beq_eq_false_iff_ne.mp h).symm
    rw [Operation.apply, evict, own_remove hs fun _ => rfl]
    rcases hown : own x r with _ | a
    · rfl
    · rw [Option.filter_some, identity_of_own hown, beq_false_of_ne hne]
      rfl
  | send y frame =>
    have hne : x ≠ y := (beq_eq_false_iff_ne.mp h).symm
    rw [Operation.apply, hs.send_eq, (plain_send frame).own_modify, if_neg hne]
  | request y q =>
    have hne : x ≠ y := (beq_eq_false_iff_ne.mp h).symm
    rw [Operation.apply, (plain_run q).own_modify, if_neg hne]
  | fanOut => cases h
  | reap => cases h
  | closeAll => cases h

lemma seen_eq_solo (hs : r.Sound) (h : o.concerns x = true)
    (hok : o.subject? = some x → (seen x r o).isRefused = false) :
    (seen x r o, own x (o.apply r)) = solo r.config x (own x r) o := by
  cases o with
  | enroll y link now =>
    obtain rfl : y = x := beq_iff_eq.mp h
    have hok := hok rfl
    simp only [seen, Operation.apply, solo] at hok ⊢
    rcases enroll_cases hs y link now with ⟨n, a, ha, hx, h⟩ | ⟨-, -, h⟩ | ⟨n, hx, -, -, h⟩
    · -- the client is there
      have hown : own y r = some a.unnumbered := by
        rw [own, ← hx, hs.lookup_eq (mem_sessions_iff.mpr ⟨n, ha⟩), Option.map_some]
      rw [h, hown]
      rfl
    · rw [h] at hok
      cases hok
    · have hown : own y r = none := by rw [own, lookup_eq_none_iff.mpr hx, Option.map_none]
      rw [own_admits (admits_enroll (congrArg Prod.fst h)) hs, if_pos rfl, h, hown]
      rfl
  | evict y =>
    obtain rfl : y = x := beq_iff_eq.mp h
    rw [seen, Operation.apply, evict, own_remove hs fun _ => rfl, leaving_remove hs fun _ => rfl,
      solo]
    rcases hown : own y r with _ | a
    · rfl
    · rw [Option.filter_some, Option.filter_some, identity_of_own hown, beq_self_eq_true]
      rfl
  | send y frame =>
    obtain rfl : y = x := beq_iff_eq.mp h
    rw [seen, Operation.apply, hs.send_eq, (plain_send frame).own_modify, if_pos rfl,
      (plain_send frame).map_fst_own, solo]
  | request y q =>
    obtain rfl : y = x := beq_iff_eq.mp h
    rw [seen, Operation.apply, (plain_run q).own_modify, if_pos rfl, (plain_run q).map_fst_own,
      solo]
  | fanOut outbox nonce message =>
    have hsend := plain_send (outbox.prepare nonce message)
    have hown : own x (Operation.apply r (.fanOut outbox nonce message)) =
        (own x r).map fun a => (a.send (outbox.prepare nonce message)).2 := hsend.own_mapSessions
    rw [seen, hown, hsend.map_fst_own, solo]
  | reap now timeout =>
    rw [seen, Operation.apply, reap, own_remove hs fun _ => rfl, leaving_remove hs fun _ => rfl,
      solo]
  | closeAll =>
    rw [seen, Operation.apply, closeAll, own_remove hs fun _ => rfl, leaving_remove hs fun _ => rfl,
      solo]
    rcases own x r with _ | a <;> rfl

/-! ### Runs -/

variable {os : List Operation}

/-- The client is admitted whenever it is to be admitted. -/
def Welcome (x : String) (log : List Sight) : Prop :=
  ∀ s ∈ log, s.operation.subject? = some x → s.seen.isRefused = false

instance (log : List Sight) : Decidable (Welcome x log) :=
  inferInstanceAs (Decidable (∀ s ∈ log, s.operation.subject? = some x → _))

/-- What a client sees of a registry is what becomes of its session on its own. -/
lemma filter_play (hs : r.Sound) (hok : Welcome x (Run.play (watch x) r os).1) :
    (Run.play (watch x) r os).1.filter (·.operation.concerns x) =
      (Run.play (watchSolo r.config x) (own x r) (os.filter (·.concerns x))).1 := by
  induction os generalizing r with
  | nil => rfl
  | cons o os ih =>
    obtain ⟨hok, hlater⟩ := List.forall_mem_cons.mp hok
    have ih := ih (sound_apply hs o) hlater
    rw [(carried_apply hs o).config] at ih
    simp only [Run.play]
    rcases hc : o.concerns x with _ | _
    · rw [List.filter_cons_of_neg (by simp [watch, hc]), List.filter_cons_of_neg (by simp [hc])]
      rw [own_apply_of_not_concerns hs hc] at ih
      exact ih
    · rw [List.filter_cons_of_pos (by simp [watch, hc]), List.filter_cons_of_pos (by simp [hc])]
      have hsolo := seen_eq_solo hs hc hok
      have hstep : watchSolo r.config x (own x r) o = ((watch x r o).1, own x (o.apply r)) := by
        rw [watchSolo, ← hsolo]
        rfl
      simp only [Run.play, hstep]
      exact congrArg _ ih

lemma capacity_pos_of_enroll (hs : r.Sound) {link : Option Link} {now : Time}
    (h : (seen y r (.enroll y link now)).isRefused = false) : 0 < r.capacity := by
  rcases enroll_cases hs y link now with ⟨n, a, ha, -, -⟩ | ⟨-, -, h'⟩ | ⟨n, -, hn, -, -⟩
  · obtain ⟨hn, -⟩ := List.getElem?_eq_some_iff.mp (occupant_eq_some_iff.mp ha)
    exact Nat.lt_of_le_of_lt (Nat.zero_le n) hn
  · rw [seen, h'] at h
    cases h
  · exact Nat.lt_of_le_of_lt (Nat.zero_le n) hn

/-- Nobody but one client has a session. -/
structure Alone (x : String) (r : Registry) : Prop where
  sound : r.Sound
  others : ∀ y, y ≠ x → own y r = none

lemma own_eq_none_iff : own x r = none ↔ ∀ a ∈ r.sessions, a.identity ≠ x := by
  rw [own, Option.map_eq_none_iff, lookup_eq_none_iff]

lemma own_apply_eq_none (hs : r.Sound) (h : own y r = none) (hne : o.subject? ≠ some y) :
    own y (o.apply r) = none := by
  rcases hc : o.concerns y with _ | _
  · rw [own_apply_of_not_concerns hs hc, h]
  · have hsolo := congrArg Prod.snd (seen_eq_solo hs hc fun hy => absurd hy hne)
    rw [h] at hsolo
    cases o with
    | fanOut => exact hsolo
    | reap => exact hsolo
    | closeAll => exact hsolo
    | _ => exact absurd (congrArg some (beq_iff_eq.mp hc)) hne

lemma alone_apply (h : Alone x r) (hc : o.concerns x = true) : Alone x (o.apply r) := by
  refine ⟨sound_apply h.sound o, fun y hy => own_apply_eq_none h.sound (h.others y hy) ?_⟩
  intro hsubject
  rw [Operation.concerns, hsubject, Option.all_some, beq_iff_eq] at hc
  exact hy hc

lemma welcome_of_alone (h : Alone x r) (hpos : 0 < r.capacity) {link : Option Link} {now : Time} :
    (seen x r (.enroll x link now)).isRefused = false := by
  rcases enroll_cases h.sound x link now with ⟨n, a, -, -, h'⟩ | ⟨hx, hfull, -⟩ | ⟨n, -, -, -, h'⟩
  · rw [seen, h']
    rfl
  · have hocc := hfull 0 hpos
    simp only [Free, not_forall, not_not] at hocc
    obtain ⟨a, ha⟩ := hocc
    have ha := mem_sessions_iff.mpr ⟨0, ha⟩
    exact absurd rfl (own_eq_none_iff.mp (h.others a.identity (hx a ha)) a ha)
  · rw [seen, h']
    rfl

lemma exists_sight (hs : r.Sound) (ho : o ∈ os) :
    ∃ t, (t.Sound ∧ r.Carried t) ∧ (watch x t o).1 ∈ (Run.play (watch x) r os).1 :=
  Run.exists_mem_play (I := fun t => t.Sound ∧ r.Carried t) ⟨hs, carried_refl r⟩
    (fun _ hi => ⟨sound_apply hi.1 _, hi.2.trans (carried_apply hi.1 _)⟩) ho

lemma welcome_filter (hs : r.Sound) (halone : Alone x r)
    (hok : Welcome x (Run.play (watch x) r os).1) :
    Welcome x (Run.play (watch x) r (os.filter (·.concerns x))).1 := by
  intro s hmem hsubject
  obtain ⟨t, o, ho, ⟨halone, hcarried⟩, rfl⟩ := Run.exists_of_mem_play
    (I := fun t => Alone x t ∧ r.Carried t) ⟨halone, carried_refl r⟩
    (fun ha hi => ⟨alone_apply hi.1 (List.mem_filter.mp ha).2,
      hi.2.trans (carried_apply hi.1.sound _)⟩) hmem
  cases o with
  | enroll y link now =>
    obtain rfl : y = x := Option.some.inj hsubject
    -- the registry let it in before, so it has a slot
    obtain ⟨u, ⟨hsound, hcarried'⟩, hmem'⟩ := exists_sight hs (List.mem_filter.mp ho).1
    have hpos := capacity_pos_of_enroll hsound (hok _ hmem' rfl)
    rw [hcarried'.capacity, ← hcarried.capacity] at hpos
    exact welcome_of_alone halone hpos
  | _ => rfl

/-- **Clients do not influence each other's sessions.** Take away from a run of a registry all that
names others than one client. If the client was let in wherever it asked, then of what is left
everything becomes the same for it: the items it sends, the results of its sends, the sessions that
end, and its session after each operation, but for the slot and the number. -/
theorem sights_filter (config : Registry.Config) (x : String) (os : List Operation)
    (hok : Welcome x (Run.play (watch x) (.new config) os).1) :
    (Run.play (watch x) (.new config) os).1.filter (·.operation.concerns x) =
      (Run.play (watch x) (.new config) (os.filter (·.concerns x))).1 := by
  have hs := RegistryRuns.sound_new config
  have halone : Alone x (.new config) := by
    refine ⟨hs, fun y _ => own_eq_none_iff.mpr ?_⟩
    simp [RegistryRuns.sessions_new]
  have hall : ∀ s ∈ (Run.play (watch x) (.new config) (os.filter (·.concerns x))).1,
      s.operation.concerns x = true := by
    intro s hmem
    obtain ⟨t, o, ho, -, rfl⟩ := Run.exists_of_mem_play (I := fun _ => True) trivial
      (fun _ _ => trivial) hmem
    exact (List.mem_filter.mp ho).2
  have hleft := filter_play hs hok
  have hright := filter_play hs (welcome_filter hs halone hok)
  rw [List.filter_eq_self.mpr hall, List.filter_filter] at hright
  simp only [Bool.and_self] at hright
  exact hleft.trans hright.symm

def first : String := "10.0.0.2:5000"

def second : String := "10.0.0.3:5000"

/-- Two clients come, are heard and are sent to, and the first one goes. -/
def visits : List Operation :=
  [.enroll first none 0, .enroll second (some (.new 7 16 .eager)) 1,
    .request second (.drain [50, 59, 97] 2), .request first (.drain [59] 3), .send first [1],
    .send second [9], .evict first, .reap 10 100]

/-- The second client has half a frame in its buffer and a frame in its queue, with the first one
there and without it. Its number is all that differs. -/
theorem sights_filter_second :
    let full := Run.play (watch second) (.new ⟨2, 64, 1500⟩) visits
    let alone := Run.play (watch second) (.new ⟨2, 64, 1500⟩) (visits.filter (·.concerns second))
    Welcome second full.1 ∧ full.1.filter (·.operation.concerns second) = alone.1 ∧
      ((full.2.lookup second).map fun a => (a.id, a.frames.buffer, a.queue)) =
        some (2, [50, 59, 97], [[9]]) ∧
      ((alone.2.lookup second).map fun a => (a.id, a.frames.buffer, a.queue)) =
        some (1, [50, 59, 97], [[9]]) := by
  have hok : Welcome second (Run.play (watch second) (.new ⟨2, 64, 1500⟩) visits).1 := by
    decide +kernel
  exact ⟨hok, sights_filter _ _ _ hok, by decide +kernel, by decide +kernel⟩

end Isolation

end HomeHub
