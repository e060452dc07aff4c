import Mathlib.Data.List.Nodup
import Mathlib.Tactic.Lemma
import HomeHub.Outbox
import HomeHub.Connections
import HomeHub.Proofs.WriterRuns

/-!
What the operations of the registry do to its sessions. Each of them either admits one session, or
carries on some of those there are, changed in their other data but with the identity and the number
that they had. So an identity has one session at most, and a number never comes back.
-/

namespace HomeHub

/-! ### Queues -/

lemma Writer.queue_step (w : Writer) (e : Writer.Event) : (w.step e).1.queue <:+ w.queue := by
  cases e <;> simp only [Writer.step] <;> split <;> simp_all [Writer.fail]
  all_goals split <;> simp_all
  all_goals split <;> simp_all

namespace Session

/-- The frames that wait for the writer of a session. -/
def queue (a : Session) : List Bytes := (a.link.map fun l => l.writer.queue).getD []

/-- Nothing but the queue of a session may have changed. -/
structure SameButQueue (a b : Session) : Prop where
  identity : b.identity = a.identity
  id : b.id = a.id
  frames : b.frames = a.frames
  lastActivity : b.lastActivity = a.lastActivity
  lastHeartbeat : b.lastHeartbeat = a.lastHeartbeat

lemma sameButQueue_refl (a : Session) : SameButQueue a a := ⟨rfl, rfl, rfl, rfl, rfl⟩

/-- The frame is not too long for the session, and its writer is at work and has room. -/
def Takes (frame : Bytes) (a : Session) : Prop :=
  frame.length ≤ a.sendCapacity ∧
    ∃ l ∈ a.link, l.writer.isGone = false ∧ l.writer.queue.length < l.writer.slots

instance (frame : Bytes) : DecidablePred (Takes frame) := fun a =>
  inferInstanceAs (Decidable (_ ∧ ∃ l ∈ a.link, _))

/-- The session with one frame more at the end of its queue. -/
def push (a : Session) (frame : Bytes) : Session :=
  { a with
    link := a.link.map fun l =>
      { l with writer := { l.writer with queue := l.writer.queue ++ [frame] } } }

variable {a : Session} {frame : Bytes}

lemma queue_push (h : a.Takes frame) : (a.push frame).queue = a.queue ++ [frame] := by
  obtain ⟨-, l, hl, -⟩ := h
  simp [queue, push, Option.mem_def.mp hl]

/-- What queuing a frame comes to: it is too long, or the writer is gone or has no room, or it goes
behind the others. -/
theorem send_cases (a : Session) (frame : Bytes) :
    (a.sendCapacity < frame.length ∧
      a.send frame = (.error (.overflow frame.length a.sendCapacity), a)) ∨
    (frame.length ≤ a.sendCapacity ∧ ¬ a.Takes frame ∧
      ∃ why, (why = .closed ∨ ∃ slots, why = .queueFull slots) ∧ a.send frame = (.error why, a)) ∨
    (a.Takes frame ∧ a.send frame = (.ok (), a.push frame)) := by
  unfold send
  split_ifs with hlong
  · exact .inl ⟨hlong, rfl⟩
  have hfits := Nat.le_of_not_lt hlong
  rcases hl : a.link with _ | l
  · exact .inr (.inl ⟨hfits, by simp [Takes, hl], .closed, .inl rfl, rfl⟩)
  have hself : { a with link := some l } = a := by rw [← hl]
  rcases WriterRuns.send_cases l.writer frame with ⟨hgone, h⟩ | ⟨-, hfull, h⟩ | ⟨hgone, hroom, h⟩
  · exact .inr (.inl ⟨hfits, by simp [Takes, hl, hgone], .closed, .inl rfl, by simp [h, hself]⟩)
  · exact .inr (.inl ⟨hfits, by simp [Takes, hl, hfull], .queueFull l.writer.slots,
      .inr ⟨_, rfl⟩, by simp [h, hself]⟩)
  · exact .inr (.inr ⟨⟨hfits, l, hl, hgone, hroom⟩, by simp [h, push, hl]⟩)

lemma send_eq (a : Session) (frame : Bytes) :
    if a.Takes frame then a.send frame = (.ok (), a.push frame)
    else ∃ why, a.send frame = (.error why, a) := by
  rcases a.send_cases frame with ⟨hlong, h⟩ | ⟨-, hnot, why, -, h⟩ | ⟨htakes, h⟩
  · rw [if_neg fun htakes => Nat.not_le_of_lt hlong htakes.1]
    exact ⟨_, h⟩
  · rw [if_neg hnot]
    exact ⟨why, h⟩
  · rwa [if_pos htakes]

lemma send_fst_eq_ok_iff : (a.send frame).1 = .ok () ↔ a.Takes frame := by
  have h := a.send_eq frame
  split_ifs at h with htakes
  · simp [h, htakes]
  · obtain ⟨why, h⟩ := h
    simp [h, htakes]

lemma send_snd (a : Session) (frame : Bytes) :
    (a.send frame).2 = if a.Takes frame then a.push frame else a := by
  have h := a.send_eq frame
  split_ifs at h ⊢
  · rw [h]
  · obtain ⟨why, h⟩ := h
    rw [h]

lemma sameButQueue_send (a : Session) (frame : Bytes) : SameButQueue a (a.send frame).2 := by
  rw [send_snd]
  split
  · exact ⟨rfl, rfl, rfl, rfl, rfl⟩
  · exact sameButQueue_refl a

lemma sendCapacity_send (a : Session) (frame : Bytes) :
    (a.send frame).2.sendCapacity = a.sendCapacity := by
  rw [send_snd]
  split <;> rfl

lemma queue_send (a : Session) (frame : Bytes) :
    (a.send frame).2.queue = a.queue ∨ (a.send frame).2.queue = a.queue ++ [frame] := by
  rw [send_snd]
  split
  · exact .inr (queue_push ‹_›)
  · exact .inl rfl

lemma queue_of_send (h : (a.send frame).1 = .ok ()) :
    (a.send frame).2.queue = a.queue ++ [frame] ∧ frame.length ≤ a.sendCapacity := by
  have htakes := send_fst_eq_ok_iff.mp h
  rw [send_snd, if_pos htakes]
  exact ⟨queue_push htakes, htakes.1⟩

end Session

namespace Registry

variable {r r' : Registry} {R : Session → Session → Prop} {a : Session}

/-! ### Sessions -/

/-- The identity and the number of each session. -/
def roll (r : Registry) : List (String × Nat) := r.sessions.map fun a => (a.identity, a.id)

structure Sound (r : Registry) : Prop where
  identities : (r.sessions.map (·.identity)).Nodup
  ids : (r.sessions.map (·.id)).Nodup
  below : ∀ a ∈ r.sessions, a.id < r.nextId

lemma sound_of_sessions_eq_nil (h : r.sessions = []) : Sound r := by
  constructor <;> simp [h]

namespace Sound

variable {b : Session}

lemma eq_of_identity (hs : Sound r) (ha : a ∈ r.sessions) (hb : b ∈ r.sessions)
    (h : a.identity = b.identity) : a = b :=
  List.inj_on_of_nodup_map hs.identities ha hb h

lemma eq_of_id (hs : Sound r) (ha : a ∈ r.sessions) (hb : b ∈ r.sessions) (h : a.id = b.id) :
    a = b :=
  List.inj_on_of_nodup_map hs.ids ha hb h

end Sound

lemma mem_of_lookup {x : String} (h : r.lookup x = some a) :
    a ∈ r.sessions ∧ a.identity = x :=
  ⟨List.mem_of_find?_eq_some h, by simpa using List.find?_some h⟩

lemma lookup_eq_none_iff {x : String} :
    r.lookup x = none ↔ ∀ a ∈ r.sessions, a.identity ≠ x := by
  simp [lookup]

lemma Sound.lookup_eq (hs : Sound r) (ha : a ∈ r.sessions) : r.lookup a.identity = some a := by
  rcases h : r.lookup a.identity with _ | b
  · exact absurd rfl (lookup_eq_none_iff.mp h a ha)
  · obtain ⟨hb, hid⟩ := mem_of_lookup h
    rw [hs.eq_of_identity hb ha hid]

lemma mem_of_lookupSession {x : String} {i : Nat} (h : r.lookupSession x i = some a) :
    a ∈ r.sessions ∧ a.identity = x ∧ a.id = i := by
  obtain ⟨hl, hi⟩ := Option.filter_eq_some_iff.mp h
  obtain ⟨ha, hx⟩ := mem_of_lookup hl
  exact ⟨ha, hx, by simpa using hi⟩

lemma Sound.lookupSession_eq (hs : Sound r) (ha : a ∈ r.sessions) :
    r.lookupSession a.identity a.id = some a := by
  simp [lookupSession, hs.lookup_eq ha]

/-! ### Sessions carried on -/

/-- Every session of the second registry comes from one of the first, and is related to it as
given; its identity and its number are the same. -/
structure Onward (R : Session → Session → Prop) (r r' : Registry) : Prop where
  roll : r'.roll.Sublist r.roll
  nextId : r'.nextId = r.nextId
  config : r'.config = r.config
  each : ∀ b ∈ r'.sessions, ∃ a ∈ r.sessions, b.identity = a.identity ∧ b.id = a.id ∧ R a b

lemma Onward.sound (h : Onward R r r') (hs : Sound r) : Sound r' where
  identities := by
    have := h.roll.map Prod.fst
    simp only [Registry.roll, List.map_map] at this
    exact this.nodup hs.identities
  ids := by
    have := h.roll.map Prod.snd
    simp only [Registry.roll, List.map_map] at this
    exact this.nodup hs.ids
  below b hb := by
    obtain ⟨a, ha, -, hid, -⟩ := h.each b hb
    rw [hid, h.nextId]
    exact hs.below a ha

/-- Changes every session. -/
def mapSessions (r : Registry) (change : Session → Session) : Registry :=
  { r with slots := r.slots.map (Option.map change) }

lemma sessions_mapSessions (r : Registry) (change : Session → Session) :
    (r.mapSessions change).sessions = r.sessions.map change := by
  simp only [sessions, mapSessions, List.filterMap_map, List.map_filterMap]
  rfl

lemma onward_mapSessions {change : Session → Session}
    (h : ∀ a ∈ r.sessions,
      (change a).identity = a.identity ∧ (change a).id = a.id ∧ R a (change a)) :
    Onward R r (r.mapSessions change) where
  roll := by
    have : (r.mapSessions change).roll = r.roll := by
      rw [roll, roll, sessions_mapSessions, List.map_map]
      refine List.map_congr_left fun a ha => ?_
      obtain ⟨h1, h2, -⟩ := h a ha
      exact Prod.ext h1 h2
    rw [this]
  nextId := rfl
  config := rfl
  each b hb := by
    rw [sessions_mapSessions] at hb
    obtain ⟨a, ha, rfl⟩ := List.mem_map.mp hb
    exact ⟨a, ha, h a ha⟩

lemma mem_modify {x : String} {change : Session → Session} (ha : a ∈ r.sessions)
    (hx : a.identity = x) : change a ∈ (r.modify x change).sessions := by
  have hmem := List.mem_map_of_mem (f := fun a => if a.identity = x then change a else a) ha
  rw [if_pos hx] at hmem
  exact (sessions_mapSessions ..) ▸ hmem

lemma onward_modify {x : String} {change : Session → Session}
    (hsame : ∀ a ∈ r.sessions, a.identity ≠ x → R a a)
    (hchange : ∀ a ∈ r.sessions, a.identity = x →
      (change a).identity = x ∧ (change a).id = a.id ∧ R a (change a)) :
    Onward R r (r.modify x change) := by
  refine onward_mapSessions fun a ha => ?_
  by_cases hx : a.identity = x
  · rw [if_pos hx, hx]
    exact hchange a ha hx
  · rw [if_neg hx]
    exact ⟨rfl, rfl, hsame a ha hx⟩

lemma sessions_remove (r : Registry) (condition : Session → Bool) :
    (r.remove condition).2.sessions = r.sessions.filter fun a => !condition a := by
  simp only [sessions, remove]
  induction r.slots with
  | nil => rfl
  | cons slot slots ih =>
    rcases slot with _ | a
    · exact ih
    · have hcons : (some a :: slots).filterMap id = a :: slots.filterMap id := rfl
      rw [List.map_cons, hcons, List.filter_cons, Option.filter_some]
      cases hc : condition a
      · exact congrArg (a :: ·) ih
      · exact ih

lemma onward_remove (condition : Session → Bool) (h : ∀ a ∈ r.sessions, R a a) :
    Onward R r (r.remove condition).2 where
  roll := by
    rw [roll, sessions_remove]
    exact List.filter_sublist.map _
  nextId := rfl
  config := rfl
  each b hb := by
    rw [sessions_remove] at hb
    have hb' := (List.mem_filter.mp hb).1
    exact ⟨b, hb', rfl, rfl, h b hb'⟩

lemma none_mem_remove {condition : Session → Bool} (ha : a ∈ r.sessions) (hc : condition a = true) :
    none ∈ (r.remove condition).2.slots := by
  obtain ⟨slot, hslot, hid⟩ := List.mem_filterMap.mp ha
  refine List.mem_map.mpr ⟨slot, hslot, ?_⟩
  rw [id] at hid
  simp [hid, hc]

lemma ne_of_mem_evictSession (hs : Sound r) (ha : a ∈ r.sessions) :
    ∀ b ∈ (r.evictSession a.identity a.id).2.sessions, b.identity ≠ a.identity := by
  intro b hb hx
  rw [evictSession, sessions_remove, List.mem_filter] at hb
  obtain rfl := hs.eq_of_identity hb.1 ha hx
  simp at hb

lemma onward_refl (h : ∀ a ∈ r.sessions, R a a) : Onward R r r :=
  ⟨List.Sublist.refl _, rfl, rfl, fun b hb => ⟨b, hb, rfl, rfl, h b hb⟩⟩

lemma onward_send (hs : Sound r) {x : String} {frame : Bytes}
    (hsame : ∀ a ∈ r.sessions, a.identity ≠ x → R a a)
    (hsend : ∀ a ∈ r.sessions, a.identity = x → R a (a.send frame).2) :
    Onward R r (r.send x frame).2 := by
  unfold send
  rcases hl : r.lookup x with _ | a
  · exact onward_refl fun a ha => hsame a ha (lookup_eq_none_iff.mp hl a ha)
  · obtain ⟨ha, hx⟩ := mem_of_lookup hl
    refine onward_modify hsame fun b hb hbx => ?_
    rw [hs.eq_of_identity hb ha (hbx.trans hx.symm)]
    have hsame := a.sameButQueue_send frame
    exact ⟨hsame.identity.trans hx, hsame.id, hsend a ha hx⟩

lemma mem_send (hs : Sound r) {frame : Bytes} (ha : a ∈ r.sessions) :
    (a.send frame).2 ∈ (r.send a.identity frame).2.sessions := by
  unfold send
  rw [hs.lookup_eq ha]
  exact mem_modify ha rfl

lemma registry_sendTo (o : Outbox) (nonce : Nonce) (r : Registry) (x : String) (m : Outbound) :
    (o.sendTo nonce r x m).2 = (r.send x (o.prepare nonce m)).2 := by
  unfold Outbox.sendTo
  rcases r.send x (o.prepare nonce m) with ⟨_ | _ | _, _⟩ <;> rfl

lemma onward_fanOut (o : Outbox) (nonce : Nonce) {m : Outbound}
    (h : ∀ a ∈ r.sessions, R a (a.send (o.prepare nonce m)).2) :
    Onward R r (o.fanOut nonce r m).2 := by
  refine onward_mapSessions fun a ha => ?_
  have hsame := a.sameButQueue_send (o.prepare nonce m)
  exact ⟨hsame.identity, hsame.id, h a ha⟩

lemma onward_mapLinks {c : Connections} {change : Link → Link}
    (h : ∀ a ∈ c.registry.sessions, R a { a with link := a.link.map change }) :
    Onward R c.registry (c.mapLinks change).registry :=
  onward_mapSessions fun a ha => ⟨rfl, rfl, h a ha⟩

/-! ### Admission -/

lemma position_eq_none_iff {x : String} :
    r.position x = none ↔ ∀ a ∈ r.sessions, a.identity ≠ x := by
  rw [position, List.findIdx?_eq_none_iff]
  constructor
  · intro h a ha
    obtain ⟨slot, hslot, hid⟩ := List.mem_filterMap.mp ha
    rw [id] at hid
    simpa [hid, holds] using h slot hslot
  · intro h slot hslot
    rcases slot with _ | a
    · rfl
    · simpa [holds] using h a (List.mem_filterMap.mpr ⟨some a, hslot, rfl⟩)

lemma perm_set {slots : List (Option Session)} {n : Nat}
    (h : slots.findIdx? Option.isNone = some n) :
    ((slots.set n (some a)).filterMap id).Perm (a :: slots.filterMap id) := by
  obtain ⟨hn, hnone, -⟩ := List.findIdx?_eq_some_iff_getElem.mp h
  have hsplit : slots = slots.take n ++ none :: slots.drop (n + 1) := by
    conv_lhs => rw [← List.take_append_drop n slots, List.drop_eq_getElem_cons hn]
    rw [Option.isNone_iff_eq_none.mp hnone]
  have hset : slots.set n (some a) = slots.take n ++ some a :: slots.drop (n + 1) := by
    rw [List.set_eq_take_append_cons_drop, if_pos hn]
  rw [hset]
  conv_rhs => rw [hsplit]
  simp only [List.filterMap_append, List.filterMap_cons, id]
  exact List.perm_middle

/-- A session has come in: it has the next number, and an identity that had no session. -/
structure Admits (x : String) (k : Nat) (link : Option Link) (now : Time) (r r' : Registry) :
    Prop where
  number : k = r.nextId
  absent : ∀ a ∈ r.sessions, a.identity ≠ x
  nextId : r'.nextId = r.nextId + 1
  config : r'.config = r.config
  sessions : r'.sessions.Perm
    (.new x k r.config.bufferCapacity r.config.staleAfter link now :: r.sessions)

lemma admits_enroll {x : String} {link : Option Link} {now : Time} {slot k : Nat}
    (h : (r.enroll x link now).1 = .ok (.admitted slot k)) :
    Admits x k link now r (r.enroll x link now).2.1 := by
  unfold enroll at h ⊢
  cases hp : r.position x with
  | some p => simp [hp] at h
  | none =>
    cases hf : r.slots.findIdx? Option.isNone with
    | none => simp [hp, hf] at h
    | some n =>
      simp only [hp, hf, Except.ok.injEq, Admission.admitted.injEq] at h
      obtain ⟨-, rfl⟩ := h
      exact ⟨rfl, position_eq_none_iff.mp hp, rfl, rfl, perm_set hf⟩

namespace Admits

variable {x : String} {k : Nat} {link : Option Link} {now : Time}

lemma mem_iff (h : Admits x k link now r r') {b : Session} : b ∈ r'.sessions ↔
    b = .new x k r.config.bufferCapacity r.config.staleAfter link now ∨ b ∈ r.sessions := by
  rw [h.sessions.mem_iff, List.mem_cons]

lemma sound (h : Admits x k link now r r') (hs : Sound r) : Sound r' where
  identities := by
    rw [(h.sessions.map _).nodup_iff, List.map_cons, List.nodup_cons, List.mem_map]
    refine ⟨fun ⟨a, ha, hx⟩ => h.absent a ha hx, hs.identities⟩
  ids := by
    rw [(h.sessions.map _).nodup_iff, List.map_cons, List.nodup_cons, List.mem_map]
    refine ⟨fun ⟨a, ha, hk⟩ => ?_, hs.ids⟩
    exact Nat.ne_of_lt (hs.below a ha) (hk.trans h.number)
  below b hb := by
    rw [h.nextId]
    rcases h.mem_iff.mp hb with rfl | hb
    · exact Nat.lt_succ_of_le (Nat.le_of_eq h.number)
    · exact Nat.lt_succ_of_lt (hs.below b hb)

end Admits

lemma exists_enroll_eq {x : String} (hx : ∀ a ∈ r.sessions, a.identity ≠ x)
    (hfree : none ∈ r.slots) (link : Option Link) (now : Time) :
    ∃ slot, (r.enroll x link now).1 = .ok (.admitted slot r.nextId) := by
  obtain ⟨n, hn⟩ : ∃ n, r.slots.findIdx? Option.isNone = some n := by
    rw [← Option.isSome_iff_exists, List.findIdx?_isSome, List.any_eq_true]
    exact ⟨none, hfree, rfl⟩
  exact ⟨n, by simp only [enroll, position_eq_none_iff.mpr hx, hn]⟩

lemma enroll_refused {x : String} {link : Option Link} {now : Time}
    (h : ∀ slot k, (r.enroll x link now).1 ≠ .ok (.admitted slot k)) :
    (r.enroll x link now).2.1 = r := by
  unfold enroll at h ⊢
  cases hp : r.position x with
  | some p => rfl
  | none =>
    cases hf : r.slots.findIdx? Option.isNone with
    | none => rfl
    | some n => simp [hp, hf] at h

end Registry

end HomeHub
