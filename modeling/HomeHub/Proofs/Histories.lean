import HomeHub.Proofs.ReadRoom

/-!
What comes of the messages of one client.

A history is a run of the server with the states between its steps. For one session it tells which
questions the read task has put to the service, which replies it has handed to the outbox, and which
frames have come into the queue. A step takes the work of the read task on by one stage
(`Advances`), and puts the frame of a reply into the queue when that is sent (`framed_step`). So,
whatever the other clients do meanwhile, each message that has come in has been put to the service
once or waits for it, and each question has got its reply (`Talk`). A read task is never stuck with
what waits, and comes to rest when all is answered (`exists_answered`).
-/

namespace HomeHub

/-! ### Sending -/

lemma Session.send_of_new {a : Session} {frame : Bytes} {number slots : Nat} {sink : Sink}
    (hlink : a.link = some (.new number slots sink)) (hfits : frame.length ≤ a.sendCapacity) :
    (a.send frame).1 = .ok () := by
  simp [send, Nat.not_lt.mpr hfits, hlink, Link.new, Writer.send, Writer.new, Writer.isGone]

lemma Registry.sendTo_eq_ok_iff {r : Registry} {o : Outbox} {nonce : Nonce} {a : Session}
    {m : Outbound} (hs : r.Sound) (ha : a ∈ r.sessions) :
    (o.sendTo nonce r a.identity m).1 = .ok () ↔ (a.send (o.prepare nonce m)).1 = .ok () := by
  unfold Outbox.sendTo Registry.send
  simp only [hs.lookup_eq ha]
  rcases hsend : (a.send (o.prepare nonce m)).1 with why | u <;> simp

lemma Dispatcher.exists_noteActivity {r : Registry} {a : Session} (hs : r.Sound)
    (ha : a ∈ r.sessions) (command : Command) (now : Time) :
    ∃ r', noteActivity r a.identity a.id command now = some r' ∧ ∃ b ∈ r'.sessions,
      b.id = a.id ∧ b.identity = a.identity ∧ b.link = a.link ∧
        b.sendCapacity = a.sendCapacity := by
  refine ⟨_, Option.map_eq_some_iff.mpr ⟨a, hs.lookupSession_eq ha, rfl⟩, _,
    Registry.mem_modify ha rfl, ?_⟩
  split <;> exact ⟨rfl, rfl, rfl, rfl⟩

namespace ServerRuns

variable {σ δ : Type}

/-! ### Histories -/

/-- The step may queue a frame for a session that is no reply of its own read task: one for all, or
the reply of another task. -/
def Event.isForeign (i : Nat) : Event → Bool
  | .admitted _ _ => false
  | .received _ _ => false
  | .skipped _ _ => false
  | .noted _ _ => false
  | .gone _ _ => false
  | .routed _ _ => false
  | .sent j _ => j != i
  | .relayed => true
  | .turned => false
  | .silent => false

/-- A step that was taken, with the states before and after it. -/
structure Moment (σ δ : Type) where
  before : St σ δ
  event : Event
  after : St σ δ

/-- The events of a history. -/
def logOf (h : List (Moment σ δ)) : List Event := h.map Moment.event

/-- A message, and what it is answered from: the state of the service and the time. -/
structure Question (σ : Type) where
  message : Inbound
  service : Option σ
  now : Time

namespace Reader

/-- The message that is to be put to the service. -/
def message? (r : Reader) : Option Inbound :=
  match r.stage with
  | .routing _ message => some message
  | _ => none

/-- The reply that is to be queued. -/
def reply? (r : Reader) : Option Outbound :=
  match r.stage with
  | .replying _ reply => some reply
  | _ => none

end Reader

/-- The messages in a sequence of items; what does not open or parse has none. -/
def recognised (server : Server σ δ) (items : List Item) : List Inbound :=
  (items.filterMap Except.toOption).filterMap (understood server)

/-- The messages of the last read that are still to be put to the service. -/
def Reader.waiting (server : Server σ δ) (r : Reader) : List Inbound :=
  r.message?.toList ++ recognised server r.items

/-- The frames that wait for the writer of a session. -/
def St.queue (s : St σ δ) (i : Nat) : List Bytes :=
  ((s.sessions.find? fun a => a.id == i).map Session.queue).getD []

namespace Moment

/-- The question that the read task of a session puts to the service. -/
def question? (i : Nat) (m : Moment σ δ) : Option (Question σ) :=
  match m.event with
  | .routed j _ =>
    if j = i then (m.before.readers i).bind fun r =>
      r.message?.map fun message => ⟨message, m.before.server.service, r.now⟩
    else none
  | _ => none

/-- The reply that the read task of a session hands to the outbox. -/
def reply? (i : Nat) (m : Moment σ δ) : Option Outbound :=
  match m.event with
  | .sent j _ => if j = i then (m.before.readers i).bind Reader.reply? else none
  | _ => none

/-- The reply that the read task of a session hands to the outbox is queued. -/
def Delivers (i : Nat) (m : Moment σ δ) : Prop :=
  ∀ payload r reply, m.event = .sent i payload → m.before.readers i = some r →
    r.reply? = some reply →
    (m.before.server.outbox.sendTo (m.before.server.nonces m.before.server.drawn)
      m.before.server.registry r.task.identity reply).1 = .ok ()

/-- The frames that come into the queue of a session, but for those of others. -/
def gain (i : Nat) (m : Moment σ δ) : List Bytes :=
  if m.event.isForeign i then [] else (m.after.queue i).drop (m.before.queue i).length

end Moment

/-- What the read task of a session has asked the service. -/
def questions (i : Nat) (h : List (Moment σ δ)) : List (Question σ) :=
  h.filterMap (Moment.question? i)

/-- The replies that the read task of a session has handed to the outbox. -/
def handed (i : Nat) (h : List (Moment σ δ)) : List Outbound := h.filterMap (Moment.reply? i)

/-- The frames that have come into the queue of a session, but for those of others. -/
def gained (i : Nat) (h : List (Moment σ δ)) : List Bytes := h.flatMap (Moment.gain i)

/-- The reply to a question. -/
def reply [Service σ] (server : Server σ δ) (x : String) (q : Question σ) : Outbound :=
  (server.dispatcher.route q.service x q.message q.now).reply

/-- A step of the server, of which all is seen. -/
def Takes [Service σ] [Flash δ] (s : St σ δ) (m : Moment σ δ) (t : St σ δ) : Prop :=
  m.before = s ∧ m.after = t ∧ Step s m.event t

variable {s t : St σ δ} {e : Event} {m : Moment σ δ} {h : List (Moment σ δ)} {i : Nat}
  {server : Server σ δ} {a b : Session}

lemma logOf_snoc (h : List (Moment σ δ)) (m : Moment σ δ) :
    logOf (h ++ [m]) = logOf h ++ [m.event] := List.map_append

lemma questions_snoc (i : Nat) (h : List (Moment σ δ)) (m : Moment σ δ) :
    questions i (h ++ [m]) = questions i h ++ (m.question? i).toList := by
  rw [questions, List.filterMap_append]
  rcases hm : m.question? i with _ | q <;> simp [questions, hm]

lemma handed_snoc (i : Nat) (h : List (Moment σ δ)) (m : Moment σ δ) :
    handed i (h ++ [m]) = handed i h ++ (m.reply? i).toList := by
  rw [handed, List.filterMap_append]
  rcases hm : m.reply? i with _ | q <;> simp [handed, hm]

lemma gained_snoc (i : Nat) (h : List (Moment σ δ)) (m : Moment σ δ) :
    gained i (h ++ [m]) = gained i h ++ m.gain i := by
  simp [gained]

section

variable [Service σ] [Flash δ]

lemma run_log (hrun : Run Takes s h t) : Run Step s (logOf h) t := by
  induction hrun with
  | nil => exact .nil
  | snoc _ hm ih =>
    obtain ⟨rfl, rfl, hstep⟩ := hm
    rw [logOf, List.map_append]
    exact ih.snoc hstep

lemma exists_history {log : List Event} (hrun : Run Step s log t) :
    ∃ h, logOf h = log ∧ Run Takes s h t := by
  induction hrun with
  | nil => exact ⟨[], rfl, .nil⟩
  | @snoc log t u e _ hstep ih =>
    obtain ⟨h, rfl, hrun⟩ := ih
    exact ⟨h ++ [⟨t, e, u⟩], by simp [logOf], hrun.snoc ⟨rfl, rfl, hstep⟩⟩

end

/-! ### Queues in a step -/

lemma queue_eq (hs : s.server.registry.Sound) (ha : a ∈ s.sessions) : s.queue a.id = a.queue := by
  rcases hf : s.sessions.find? (fun b => b.id == a.id) with _ | b
  · have := List.find?_eq_none.mp hf a ha
    simp at this
  · have hid : b.id = a.id := by simpa using List.find?_some hf
    rw [St.queue, hf, ← hs.eq_of_id (List.mem_of_find?_eq_some hf) ha hid]
    rfl

lemma queue_eq_nil (h : ∀ a ∈ s.sessions, a.id ≠ i) : s.queue i = [] := by
  have hf : s.sessions.find? (fun b => b.id == i) = none :=
    List.find?_eq_none.mpr fun a ha => by simpa using h a ha
  rw [St.queue, hf]
  rfl

lemma mem_reply {x : String} (hs : s.server.registry.Sound) (ha : a ∈ s.sessions)
    (hx : a.identity = x) (m : Outbound) :
    (a.send (frameOf s.server m)).2 ∈ (s.server.reply x m).registry.sessions := by
  rw [registry_reply, ← hx]
  exact Registry.mem_send hs ha

lemma gain_reply {x : String} {reply : Outbound} {payload : Bytes} (hs : s.server.registry.Sound)
    (ht : t.server.registry.Sound) (ha : a ∈ s.sessions) (hx : a.identity = x) (hid : a.id = i)
    (hserver : t.server = s.server.reply x reply)
    (hok : (a.send (frameOf s.server reply)).1 = .ok ()) :
    Moment.gain i ⟨s, .sent i payload, t⟩ = [frameOf s.server reply] := by
  have hmem : (a.send (frameOf s.server reply)).2 ∈ t.sessions := by
    rw [St.sessions, hserver]
    exact mem_reply hs ha hx reply
  have hbefore : s.queue i = a.queue := by rw [← hid, queue_eq hs ha]
  have hafter : t.queue i = a.queue ++ [frameOf s.server reply] := by
    rw [← hid, ← (a.sameButQueue_send _).id, queue_eq ht hmem, (Session.queue_of_send hok).1]
  simp [Moment.gain, Event.isForeign, hbefore, hafter]

section

variable [Service σ] [Flash δ] (hs : s.server.registry.Sound) (hstep : Step s e t)
include hs hstep

lemma onward_sendCapacity (hne : ∀ x k, e ≠ .admitted x k) :
    s.server.registry.Onward (fun a b => b.sendCapacity = a.sendCapacity) t.server.registry := by
  have hrefl : s.server.registry.Onward (fun a b => b.sendCapacity = a.sendCapacity)
      s.server.registry := Registry.onward_refl fun _ _ => rfl
  cases hstep with
  | enroll => exact absurd rfl (hne _ _)
  | @refuse x sink now hrefused =>
    have hsame : (s.server.accept x sink now).registry = s.server.registry :=
      (registry_accept ..).trans (Registry.enroll_refused hrefused)
    rw [hsame]
    exact hrefl
  | relay now =>
    unfold Server.relay
    split
    · exact hrefl
    · split
      split
      · exact hrefl
      · exact Registry.onward_fanOut _ _ fun a _ => a.sendCapacity_send _
  | turn now =>
    rw [(turn_frame s.server now).1]
    exact hrefl
  | aside ha =>
    cases ha with
    | publish => exact hrefl
    | write => exact Registry.onward_mapLinks fun _ _ => rfl
    | persist =>
      unfold Server.persist
      split <;> exact hrefl
    | _ => exact Registry.onward_remove _ fun _ _ => rfl
  | @read r _ _ _ hr hsec =>
    cases hsec with
    | receive _ _ _ hgot =>
      obtain ⟨a, hl, rfl⟩ := Option.map_eq_some_iff.mp hgot
      exact Registry.onward_modify (fun _ _ _ => rfl) fun b _ hx => ⟨hx, rfl, rfl⟩
    | note _ _ _ hnote =>
      obtain ⟨a, hl, rfl⟩ := Option.map_eq_some_iff.mp hnote
      refine Registry.onward_modify (fun _ _ _ => rfl) fun b _ hx => ?_
      split <;> exact ⟨hx, rfl, rfl⟩
    | @send payload reply _ =>
      rw [registry_reply]
      exact Registry.onward_send hs (fun _ _ _ => rfl) fun a _ _ => a.sendCapacity_send _
    | stop | skip | gone | route => exact hrefl
    | hangUp | fault => exact Registry.onward_remove _ fun _ _ => rfl

lemma gain_eq_nil (hne : ∀ payload, e ≠ .sent i payload) : Moment.gain i ⟨s, e, t⟩ = [] := by
  by_cases hforeign : e.isForeign i = true
  · exact if_pos hforeign
  · rw [Moment.gain, if_neg hforeign]
    by_cases hthere : ∃ b ∈ t.sessions, b.id = i
    · obtain ⟨b, hb, rfl⟩ := hthere
      rw [queue_eq (sound_step hs hstep) hb]
      refine List.drop_of_length_le ?_
      rcases step_registry hs hstep with ⟨x, k, link, now, rfl, hempty, hadm⟩ | ⟨-, hon⟩
      · rcases hadm.mem_iff.mp hb with rfl | hb
        · simp [Session.queue, Session.new, hempty]
        · rw [queue_eq hs hb]
      · obtain ⟨a, ha, -, hid, halt⟩ := hon.each b hb
        rw [hid, queue_eq hs ha]
        rcases halt.queue with hsuffix | ⟨frame, -, ⟨rfl, -⟩ | ⟨j, r, payload, -, -, -, rfl, -⟩⟩
        · exact hsuffix.length_le
        · exact absurd rfl hforeign
        · -- the reply of another task
          refine absurd ?_ hforeign
          have hj : j ≠ b.id := fun hj => hne payload (by rw [hj])
          simpa [Event.isForeign] using hj
    · rw [queue_eq_nil fun b hb hid => hthere ⟨b, hb, hid⟩]
      exact List.drop_nil

end

/-! ### What a step does for a session -/

/-- The frame is one that the outbox makes of the reply, and no longer than may be sent. -/
def Framed (server : Server σ δ) (capacity : Nat) (reply : Outbound) (frame : Bytes) : Prop :=
  frame.length ≤ capacity ∧ ∃ nonce, frame = server.outbox.prepare nonce reply

/-- What a step does of the work of a read task, where it brings some new items. -/
structure Advances [Service σ] (server : Server σ δ) (a : Session) (m : Moment σ δ)
    (r r' : Reader) (new : List Item) : Prop where
  asked : (m.question? a.id).toList.map Question.message ++ r'.waiting server =
    r.waiting server ++ recognised server new
  replied : (m.reply? a.id).toList ++ r'.reply?.toList =
    r.reply?.toList ++ (m.question? a.id).toList.map (reply server a.identity)

@[simp] lemma recognised_nil (server : Server σ δ) : recognised server [] = [] := rfl

lemma recognised_append (server : Server σ δ) (items new : List Item) :
    recognised server (items ++ new) = recognised server items ++ recognised server new := by
  simp only [recognised, List.filterMap_append]

lemma recognised_ok (server : Server σ δ) (payload : Bytes) (items : List Item) :
    recognised server (.ok payload :: items) =
      (understood server payload).toList ++ recognised server items := by
  rcases hp : understood server payload with _ | message <;>
    simp [recognised, Except.toOption, hp]

lemma understood_congr (h : s.server.outbox = server.outbox) (payload : Bytes) :
    understood s.server payload = understood server payload := by
  simp only [understood, h]

lemma question?_of_ne (he : m.event.reader? ≠ some i) : m.question? i = none := by
  unfold Moment.question?
  split
  · rename_i j payload hevent
    rw [hevent] at he
    exact if_neg fun hj => he (by rw [hj]; rfl)
  · rfl

lemma reply?_of_ne (he : m.event.reader? ≠ some i) : m.reply? i = none := by
  unfold Moment.reply?
  split
  · rename_i j payload hevent
    rw [hevent] at he
    exact if_neg fun hj => he (by rw [hj]; rfl)
  · rfl

section

variable [Service σ] {r r' : Reader}

lemma advances_other (he : m.event.reader? ≠ some a.id) : Advances server a m r r [] := by
  refine ⟨?_, ?_⟩
  · rw [question?_of_ne he]
    simp
  · rw [question?_of_ne he, reply?_of_ne he]
    simp

lemma advances_section (ha : a ∈ s.sessions) (hsound : s.server.registry.Sound)
    (houtbox : s.server.outbox = server.outbox)
    (hdispatcher : s.server.dispatcher = server.dispatcher)
    (hr : s.readers a.id = some r) (hid : r.task.session = a.id) (hx : r.task.identity = a.identity)
    {next : Server σ δ} (hsec : Section s.server r e next (some r')) :
    Advances server a ⟨s, e, t⟩ r r' (a.frames.intakes (feeds a.id [e])).1 := by
  generalize hnext : some r' = task at hsec
  cases hsec with
  | stop | hangUp | fault => cases hnext
  | @receive f got hrest _ _ hgot =>
    obtain rfl := Option.some.inj hnext
    obtain ⟨b, hl, rfl⟩ := Option.map_eq_some_iff.mp hgot
    obtain ⟨hb, hbx, -⟩ := Registry.mem_of_lookupSession hl
    obtain rfl := hsound.eq_of_identity hb ha (hbx.trans hx)
    rw [hid, feeds_received]
    refine ⟨?_, ?_⟩
    · simp [Moment.question?, Reader.waiting, Reader.message?, hrest.1, hrest.2,
        Accumulator.intakes, Accumulator.intake]
    · simp [Moment.question?, Moment.reply?, Reader.reply?, hrest.1]
  | skip hready hitems hmessage =>
    obtain rfl := Option.some.inj hnext
    rw [understood_congr houtbox] at hmessage
    refine ⟨?_, ?_⟩
    · simp [Moment.question?, Reader.waiting, Reader.message?, hready, hitems, recognised_ok,
        hmessage, feeds, Accumulator.intakes]
    · simp [Moment.question?, Moment.reply?, Reader.reply?, hready]
  | note hready hitems hmessage hnote =>
    obtain rfl := Option.some.inj hnext
    rw [understood_congr houtbox] at hmessage
    refine ⟨?_, ?_⟩
    · simp [Moment.question?, Reader.waiting, Reader.message?, hready, hitems, recognised_ok,
        hmessage, feeds, Accumulator.intakes]
    · simp [Moment.question?, Moment.reply?, Reader.reply?, hready]
  | gone _ _ _ hnote =>
    -- the session would have been found
    have hnone := Option.map_eq_none_iff.mp hnote
    rw [hx, hid, hsound.lookupSession_eq ha] at hnone
    cases hnone
  | route hrouting hrouted =>
    obtain rfl := Option.some.inj hnext
    refine ⟨?_, ?_⟩
    · simp [Moment.question?, Reader.waiting, Reader.message?, hrouting, hid, hr,
        feeds, Accumulator.intakes]
    · simp [Moment.question?, Moment.reply?, Reader.reply?, Reader.message?, hrouting, hid, hr,
        reply, ← hrouted, ← hdispatcher, hx]
  | send hreplying =>
    obtain rfl := Option.some.inj hnext
    refine ⟨?_, ?_⟩
    · simp [Moment.question?, Reader.waiting, Reader.message?, hreplying, feeds,
        Accumulator.intakes]
    · simp [Moment.question?, Moment.reply?, Reader.reply?, hreplying, hid, hr]

variable [Flash δ] (ha : a ∈ s.sessions) (hsound : s.server.registry.Sound)
  (hsize : a.sendCapacity = s.config.bufferCapacity) (houtbox : s.server.outbox = server.outbox)
  (hr : s.readers i = some r) (hx : r.task.identity = a.identity)

include ha hsound hsize houtbox hr hx

lemma framed_sent {payload : Bytes} (hid : a.id = i) (hstep : Step s (.sent i payload) t)
    (hsent : (⟨s, .sent i payload, t⟩ : Moment σ δ).Delivers i) :
    List.Forall₂ (Framed server s.config.bufferCapacity)
      (Moment.reply? i ⟨s, .sent i payload, t⟩).toList (Moment.gain i ⟨s, .sent i payload, t⟩) := by
  have hsound' := sound_step hsound hstep
  cases hstep with
  | @read r₂ _ _ _ hr₂ hsec =>
    cases hsec with
    | @send _ reply hreplying =>
      obtain rfl := Option.some.inj (hr₂.symm.trans hr)
      have hreply : r₂.reply? = some reply := by simp [Reader.reply?, hreplying]
      have hok := hsent payload r₂ reply rfl hr hreply
      rw [hx, Registry.sendTo_eq_ok_iff hsound ha] at hok
      rw [gain_reply hsound hsound' ha hx.symm hid rfl hok]
      simp only [Moment.reply?, if_true, hr, Option.bind_some, hreply, Option.toList_some]
      refine .cons ⟨?_, s.server.nonces s.server.drawn, by rw [frameOf, houtbox]⟩ .nil
      rw [← hsize]
      exact (Session.queue_of_send hok).2

/-- What comes into the queue of a session are the frames of its own replies. -/
lemma framed_step (hid : a.id = i) (hstep : Step s e t)
    (hsent : (⟨s, e, t⟩ : Moment σ δ).Delivers i) :
    List.Forall₂ (Framed server s.config.bufferCapacity) (Moment.reply? i ⟨s, e, t⟩).toList
      (Moment.gain i ⟨s, e, t⟩) := by
  by_cases hown : ∃ payload, e = .sent i payload
  · obtain ⟨payload, rfl⟩ := hown
    exact framed_sent ha hsound hsize houtbox hr hx hid hstep hsent
  · rw [gain_eq_nil hsound hstep fun payload he => hown ⟨payload, he⟩]
    have hnone : Moment.reply? i ⟨s, e, t⟩ = none := by
      unfold Moment.reply?
      split
      · rename_i j payload hevent
        exact if_neg fun hj => hown ⟨payload, by rw [← hj]; exact hevent⟩
      · rfl
    rw [hnone]
    exact .nil

end

/-! ### What has been done for a session -/

section

variable [Service σ]

/-- What the read task of a session has come to: of what the stream has yielded, each message has
been put to the service or waits for it, each question is answered, and the replies are handed over
but for one that is on its way. -/
structure Talk (server : Server σ δ) (h : List (Moment σ δ)) (s : St σ δ) (a : Session)
    (r : Reader) : Prop where
  reader : s.readers a.id = some r
  asked : (questions a.id h).map Question.message ++ r.waiting server =
    recognised server (decoded s.config a.id (logOf h))
  replied : handed a.id h ++ r.reply?.toList = (questions a.id h).map (reply server a.identity)
  queued : (∀ m ∈ h, m.Delivers a.id) →
    List.Forall₂ (Framed server s.config.bufferCapacity) (handed a.id h) (gained a.id h)

/-- What a history of the server tells about its state. -/
structure Chronicle (server : Server σ δ) (h : List (Moment σ δ)) (s : St σ δ) : Prop where
  inv : Inv (logOf h) s
  outbox : s.server.outbox = server.outbox
  dispatcher : s.server.dispatcher = server.dispatcher
  capacity : ∀ a ∈ s.sessions, a.sendCapacity = s.config.bufferCapacity
  /-- Nothing has been done for a number that is not given out yet. -/
  fresh : ∀ i, s.server.registry.nextId ≤ i →
    questions i h = [] ∧ handed i h = [] ∧ gained i h = []
  talk : ∀ a ∈ s.sessions, ∃ r, Talk server h s a r

lemma chronicle_opened (hnew : server.registry.sessions = []) :
    Chronicle server [] (opened server) where
  inv := inv_opened hnew
  outbox := rfl
  dispatcher := rfl
  capacity a ha := by
    have : a ∈ server.registry.sessions := ha
    simp [hnew] at this
  fresh _ _ := ⟨rfl, rfl, rfl⟩
  talk a ha := by
    have : a ∈ server.registry.sessions := ha
    simp [hnew] at this

lemma reader_admitted [Flash δ] {x : String} (hstep : Step s (.admitted x i) t) :
    ∃ task now, t.readers i = some (.new task now) := by
  cases hstep with
  | enroll => exact ⟨_, _, Function.update_self ..⟩
  | read _ hsec => cases hsec

lemma exists_reader_step [Flash δ] {log : List Event} {r : Reader} (hi : Inv log s)
    (hstep : Step s e t) (ha : a ∈ s.sessions) (hb : b ∈ t.sessions)
    (hx : b.identity = a.identity) (hr : s.readers a.id = some r) :
    ∃ r', t.readers a.id = some r' := by
  obtain ⟨hnumber, -, -, hown, -⟩ := hi.reader _ r hr
  have hidentity := hown a ha rfl
  cases hstep with
  | @enroll x sink now slot k _ =>
    rcases eq_or_ne a.id k with rfl | hne
    · exact ⟨_, Function.update_self ..⟩
    · exact ⟨r, (Function.update_of_ne hne ..).trans hr⟩
  | refuse | relay | turn | aside => exact ⟨r, hr⟩
  | @read r₁ _ server next hr₁ hsec =>
    rcases eq_or_ne a.id r₁.task.session with heq | hne
    · rw [← heq] at hr₁ ⊢
      obtain rfl := Option.some.inj (hr₁.symm.trans hr)
      simp only [Function.update_self]
      have hevicted : b ∉ (s.server.endSession r₁.task).registry.sessions := by
        intro hmem
        refine Registry.ne_of_mem_evictSession hi.sound ha b ?_ hx
        rw [hidentity, ← hnumber]
        exact hmem
      cases hsec with
      | stop _ hnone =>
        -- the session would have been found
        rw [← hidentity, hnumber, hi.sound.lookupSession_eq ha] at hnone
        cases hnone
      | hangUp | fault => exact absurd hb hevicted
      | receive | skip | note | gone | route | send => exact ⟨_, rfl⟩
    · exact ⟨r, (Function.update_of_ne hne ..).trans hr⟩

variable [Flash δ]

lemma advances_step {r r' : Reader} (hc : Chronicle server h s) (hstep : Step s e t)
    (ha : a ∈ s.sessions) (hr : s.readers a.id = some r) (hr' : t.readers a.id = some r') :
    Advances server a ⟨s, e, t⟩ r r' (a.frames.intakes (feeds a.id [e])).1 := by
  obtain ⟨hnumber, -, hbelow, hown, -⟩ := hc.inv.reader _ r hr
  rcases step_reader hstep hr' with ⟨hsame, hne⟩ | ⟨x, now, rfl, -⟩ | ⟨r₁, next, hr₁, -, hsec, -⟩
  · obtain rfl := Option.some.inj (hsame.symm.trans hr)
    rw [feeds_eq_nil fun f hf => hne (by rw [hf]; rfl)]
    exact advances_other hne
  · rcases step_registry hc.inv.sound hstep with ⟨y, k, link, now', he, -, hadm⟩ | ⟨hnot, -⟩
    · obtain ⟨-, rfl⟩ := Event.admitted.inj he
      exact absurd hadm.number (Nat.ne_of_lt hbelow)
    · exact absurd rfl (hnot x a.id)
  · obtain rfl := Option.some.inj (hr₁.symm.trans hr)
    exact advances_section ha hc.inv.sound hc.outbox hc.dispatcher hr hnumber
      (hown a ha rfl).symm hsec

lemma talk_step (hc : Chronicle server h s) (hstep : Step s e t) (ha : a ∈ s.sessions)
    (hb : b ∈ t.sessions) (hid : b.id = a.id) (hx : b.identity = a.identity) :
    ∃ r, Talk server (h ++ [⟨s, e, t⟩]) t b r := by
  obtain ⟨r, hr, hasked, hreplied, hqueued⟩ := hc.talk a ha
  obtain ⟨r', hr'⟩ := exists_reader_step hc.inv hstep ha hb hx hr
  obtain ⟨hasks, hreplies⟩ := advances_step hc hstep ha hr hr'
  have hown := (hc.inv.reader _ r hr).own a ha rfl
  have hdecoded : decoded s.config a.id (logOf h ++ [e]) =
      decoded s.config a.id (logOf h) ++ (a.frames.intakes (feeds a.id [e])).1 := by
    rw [decoded, feeds_append, Accumulator.intakes_append, ← hc.inv.frames a ha]
    rfl
  refine ⟨r', ?_, ?_, ?_, fun hall => ?_⟩ <;>
    simp only [hid, hx, logOf_snoc, questions_snoc, handed_snoc, gained_snoc, List.map_append,
      config_step hc.inv.sound hstep]
  · exact hr'
  · rw [List.append_assoc, hasks, ← List.append_assoc, hasked, hdecoded, recognised_append]
  · rw [List.append_assoc, hreplies, ← List.append_assoc, hreplied]
  · rw [hid] at hall
    refine List.rel_append (hqueued fun m hm => hall m (List.mem_append_left _ hm)) ?_
    exact framed_step ha hc.inv.sound (hc.capacity a ha) hc.outbox hr hown.symm rfl hstep
      (hall _ (List.mem_append_right _ List.mem_cons_self))

lemma talk_admitted {x : String} {k : Nat} (hc : Chronicle server h s)
    (hstep : Step s (.admitted x k) t) (hk : k = s.server.registry.nextId) (hid : b.id = k) :
    ∃ r, Talk server (h ++ [⟨s, .admitted x k, t⟩]) t b r := by
  obtain ⟨task, now, hr⟩ := reader_admitted hstep
  obtain ⟨hquestions, hhanded, hgained⟩ := hc.fresh k hk.ge
  have hdecoded (config : Registry.Config) :
      decoded config k (logOf h ++ [.admitted x k]) = [] := by
    rw [decoded, feeds_append, hk, feeds_nextId hc.inv]
    rfl
  have hgain : Moment.gain k ⟨s, .admitted x k, t⟩ = [] :=
    gain_eq_nil hc.inv.sound hstep fun _ he => by cases he
  refine ⟨_, hid ▸ hr, ?_, ?_, fun _ => ?_⟩ <;>
    simp only [hid, logOf_snoc, questions_snoc, handed_snoc, gained_snoc, hquestions, hhanded,
      hgained, hgain, hdecoded]
  · rfl
  · rfl
  · exact .nil

lemma lt_nextId_of_reader {log : List Event} (hi : Inv log s) (hstep : Step s e t)
    (he : e.reader? = some i) : i < s.server.registry.nextId := by
  cases hstep with
  | enroll | refuse | relay | turn | aside => cases he
  | read hr hsec =>
    have hbelow := (hi.reader _ _ hr).below
    cases hsec with
    | stop | hangUp | fault => cases he
    | receive | skip | note | gone | route | send =>
      obtain rfl := Option.some.inj he
      exact hbelow

lemma fresh_step (hc : Chronicle server h s) (hstep : Step s e t)
    (hi : t.server.registry.nextId ≤ i) : questions i (h ++ [⟨s, e, t⟩]) = [] ∧
      handed i (h ++ [⟨s, e, t⟩]) = [] ∧ gained i (h ++ [⟨s, e, t⟩]) = [] := by
  have hle := (nextId_le hc.inv.sound hstep).trans hi
  obtain ⟨hquestions, hhanded, hgained⟩ := hc.fresh i hle
  have hne : e.reader? ≠ some i := fun he =>
    Nat.not_lt.mpr hle (lt_nextId_of_reader hc.inv hstep he)
  rw [questions_snoc, handed_snoc, gained_snoc, hquestions, hhanded, hgained,
    question?_of_ne hne, reply?_of_ne hne, gain_eq_nil hc.inv.sound hstep]
  · exact ⟨rfl, rfl, rfl⟩
  · rintro payload rfl
    exact hne rfl

lemma chronicle_step (hc : Chronicle server h s) (hm : Takes s m t) :
    Chronicle server (h ++ [m]) t := by
  obtain ⟨s', e, t'⟩ := m
  obtain ⟨rfl, rfl, hstep⟩ := hm
  obtain ⟨houtbox, hdispatcher⟩ := step_frame hstep
  have hconfig := config_step hc.inv.sound hstep
  refine ⟨?_, houtbox.trans hc.outbox, hdispatcher.trans hc.dispatcher, fun b hb => ?_,
    fun i hi => fresh_step hc hstep hi, fun b hb => ?_⟩
  · rw [logOf_snoc]
    exact inv_step hc.inv hstep
  · rw [hconfig]
    rcases step_registry hc.inv.sound hstep with ⟨x, k, link, now, rfl, -, hadm⟩ | ⟨hne, -⟩
    · rcases hadm.mem_iff.mp hb with rfl | hb
      · rfl
      · exact hc.capacity b hb
    · obtain ⟨a, ha, -, -, hsize⟩ := (onward_sendCapacity hc.inv.sound hstep hne).each b hb
      rw [hsize, hc.capacity a ha]
  · rcases step_registry hc.inv.sound hstep with ⟨x, k, link, now, rfl, -, hadm⟩ | ⟨-, hon⟩
    · rcases hadm.mem_iff.mp hb with rfl | hmem
      · exact talk_admitted hc hstep hadm.number rfl
      · exact talk_step hc hstep hmem hb rfl rfl
    · obtain ⟨a, ha, hx, hid, -⟩ := hon.each b hb
      exact talk_step hc hstep ha hb hid hx

lemma chronicle_run (hnew : server.registry.sessions = []) (hrun : Run Takes (opened server) h s) :
    Chronicle server h s :=
  hrun.invariant (chronicle_opened hnew) chronicle_step

end

/-! ### Coming to rest -/

namespace Reader

/-- The sections that a read task has still to go through before it waits for bytes again. -/
def work (r : Reader) : Nat :=
  3 * r.items.length + match r.stage with
    | .ready => 0
    | .routing _ _ => 2
    | .replying _ _ => 1

lemma AtRest.waiting_eq {r : Reader} (h : r.AtRest) (server : Server σ δ) :
    r.waiting server = [] := by
  simp [waiting, message?, h.1, h.2]

lemma AtRest.reply?_eq {r : Reader} (h : r.AtRest) : r.reply? = none := by
  simp [reply?, h.1]

end Reader

section

variable [Service σ] [Flash δ] {log : List Event} {r : Reader}

/-- A session goes on to the next section of its read task. -/
structure Proceeds (s : St σ δ) (e : Event) (t : St σ δ) (a b : Session) (r r' : Reader) :
    Prop where
  step : Step s e t
  unfed : feeds a.id [e] = []
  session : b ∈ t.sessions ∧ b.id = a.id ∧ b.identity = a.identity
  reader : t.readers a.id = some r'
  work : r'.work < r.work
  items : r'.items ⊆ r.items

lemma exists_proceeds_of_section {next : Server σ δ} {r' : Reader}
    (hr : s.readers a.id = some r) (hnumber : r.task.session = a.id)
    (hsec : Section s.server r e next (some r')) (hunfed : feeds a.id [e] = [])
    (hb : b ∈ next.registry.sessions ∧ b.id = a.id ∧ b.identity = a.identity)
    (hwork : r'.work < r.work) (hitems : r'.items ⊆ r.items) :
    ∃ t b r', Proceeds s e t a b r r' := by
  rw [← hnumber] at hr
  refine ⟨_, b, r', .read hr hsec, hunfed, hb, ?_, hwork, hitems⟩
  rw [← hnumber]
  exact Function.update_self ..

/-- The read task of a session that is there is never stuck before it is at rest. -/
lemma exists_proceeds (hi : Inv log s) (ha : a ∈ s.sessions) (hr : s.readers a.id = some r)
    (hframed : ∀ why, .error why ∉ r.items) (hbusy : ¬ r.AtRest) :
    ∃ e t b r', Proceeds s e t a b r r' := by
  obtain ⟨hnumber, -, -, hown, -⟩ := hi.reader _ r hr
  have hx := hown a ha rfl
  rcases hstage : r.stage with _ | ⟨payload, message⟩ | ⟨payload, reply⟩
  · rcases hitems : r.items with _ | ⟨why | payload, rest⟩
    · exact absurd ⟨hstage, hitems⟩ hbusy
    · exact absurd (by simp [hitems]) (hframed why)
    · rcases hmessage : understood s.server payload with _ | message
      · refine ⟨_, exists_proceeds_of_section hr hnumber (.skip hstage hitems hmessage) rfl
          ⟨ha, rfl, rfl⟩ ?_ (by simp [hitems])⟩
        simp [Reader.work, hstage, hitems]
      · obtain ⟨registry, hnote, b, hb, hid, hbx, -⟩ :=
          Dispatcher.exists_noteActivity hi.sound ha message.command r.now
        rw [hx, ← hnumber] at hnote
        refine ⟨_, exists_proceeds_of_section hr hnumber (.note hstage hitems hmessage hnote) rfl
          ⟨hb, hid, hbx⟩ ?_ (by simp [hitems])⟩
        simp only [Reader.work, hstage, hitems, List.length_cons]
        omega
  · refine ⟨_, exists_proceeds_of_section hr hnumber (.route hstage rfl) rfl ⟨ha, rfl, rfl⟩ ?_
      fun _ h => h⟩
    simp [Reader.work, hstage]
  · have hsame := a.sameButQueue_send (frameOf s.server reply)
    refine ⟨_, exists_proceeds_of_section hr hnumber (.send hstage) rfl
      ⟨mem_reply hi.sound ha hx reply, hsame.id, hsame.identity⟩ ?_ fun _ h => h⟩
    simp [Reader.work, hstage]

lemma exists_rest (hi : Inv log s) (ha : a ∈ s.sessions) (hr : s.readers a.id = some r)
    (hframed : ∀ why, .error why ∉ r.items) :
    ∃ (more : List (Moment σ δ)) (t : St σ δ) (b : Session) (r' : Reader), Run Takes s more t ∧
      feeds a.id (logOf more) = [] ∧ (b ∈ t.sessions ∧ b.id = a.id ∧ b.identity = a.identity) ∧
      t.config = s.config ∧ t.readers a.id = some r' ∧ r'.AtRest := by
  induction hn : r.work using Nat.strong_induction_on generalizing log s a r with
  | _ n ih =>
    by_cases hrest : r.AtRest
    · exact ⟨[], s, a, r, .nil, rfl, ⟨ha, rfl, rfl⟩, rfl, hr, hrest⟩
    · obtain ⟨e, t, b, r', hstep, hunfed, ⟨hb, hid, hx⟩, hr', hwork, hitems⟩ :=
        exists_proceeds hi ha hr hframed hrest
      rw [← hid] at hr'
      obtain ⟨more, u, c, r'', hrun, hfeeds, ⟨hc, hcid, hcx⟩, hconfig, hr'', hrest'⟩ :=
        ih r'.work (hn ▸ hwork) (inv_step hi hstep) hb hr' (fun why h => hframed why (hitems h)) rfl
      rw [hid] at hfeeds hr''
      refine ⟨[⟨s, e, t⟩] ++ more, u, c, r'', (Run.nil.snoc ⟨rfl, rfl, hstep⟩).trans hrun, ?_,
        ⟨hc, hcid.trans hid, hcx.trans hx⟩, hconfig.trans (config_step hi.sound hstep), hr'',
        hrest'⟩
      rw [logOf, List.map_append, feeds_append, ← logOf, ← logOf, hfeeds, List.append_nil]
      exact hunfed

lemma exists_answered (hnew : server.registry.sessions = [])
    (hrun : Run Takes (opened server) h s) (ha : a ∈ s.sessions) (hr : s.readers a.id = some r)
    (hframed : ∀ why, .error why ∉ r.items) :
    ∃ (more : List (Moment σ δ)) (t : St σ δ), Run Takes s more t ∧
      (∃ b ∈ t.sessions, b.id = a.id) ∧ feeds a.id (logOf more) = [] ∧
      (questions a.id (h ++ more)).map Question.message =
        recognised server (decoded s.config a.id (logOf h)) ∧
      handed a.id (h ++ more) = (questions a.id (h ++ more)).map (reply server a.identity) := by
  obtain ⟨more, t, b, r', hmore, hunfed, ⟨hb, hid, hx⟩, hconfig, hr', hrest⟩ :=
    exists_rest (chronicle_run hnew hrun).inv ha hr hframed
  obtain ⟨r'', hr'', hasked, hreplied, -⟩ := (chronicle_run hnew (hrun.trans hmore)).talk b hb
  rw [hid] at hr'' hasked hreplied
  obtain rfl := Option.some.inj (hr'.symm.trans hr'')
  have hdecoded : decoded t.config a.id (logOf (h ++ more)) = decoded s.config a.id (logOf h) := by
    rw [hconfig, decoded, logOf, List.map_append, feeds_append, ← logOf, ← logOf, hunfed,
      List.append_nil]
    rfl
  rw [hrest.waiting_eq, List.append_nil, hdecoded] at hasked
  rw [hrest.reply?_eq, Option.toList_none, List.append_nil, hx] at hreplied
  exact ⟨more, t, hmore, ⟨b, hb, hid⟩, hunfed, hasked, hreplied⟩

end

end ServerRuns

end HomeHub
