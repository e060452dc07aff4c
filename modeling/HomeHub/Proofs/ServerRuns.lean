import Mathlib.Logic.Function.Basic
import HomeHub.Proofs.RegistryLaws
import HomeHub.Proofs.Resynchronisation
import HomeHub.Proofs.Runs
import HomeHub.Server.Periodic

/-!
A server whose read tasks take turns. Each of them goes from one section of the registry to the
next: it takes in what was read, notes the activity of its session, asks the service outside the
lock, and queues the reply. In between the other read tasks go on, and sessions come and go, also
one with the identity of a session whose payload is still being handled.
-/

namespace HomeHub.ServerRuns

open Accumulator (Feed)

/-! ### Read tasks -/

/-- Where a read task stands with a payload. -/
inductive Stage
  /-- Between two payloads. -/
  | ready
  /-- The activity is noted; the service is to be asked. -/
  | routing (payload : Bytes) (message : Inbound)
  /-- The reply is to be queued. -/
  | replying (payload : Bytes) (reply : Outbound)

/-- A read task in the middle of its work. -/
structure Reader where
  task : ReadTask
  stage : Stage
  /-- What is still to be handled of the last read. -/
  items : List Item
  /-- The time of the last read. -/
  now : Time

namespace Reader

def new (task : ReadTask) (now : Time) : Reader := ⟨task, .ready, [], now⟩

/-- Waits for bytes. -/
def AtRest (r : Reader) : Prop := r.stage = .ready ∧ r.items = []

end Reader

/-- What is seen of a step, with the number of the session that a read task works for. -/
inductive Event
  | admitted (identity : String) (session : Nat)
  | received (session : Nat) (feed : Feed)
  /-- The payload is dropped: it does not open, or is no message. -/
  | skipped (session : Nat) (payload : Bytes)
  | noted (session : Nat) (payload : Bytes)
  /-- The payload is dropped: its session has ended. -/
  | gone (session : Nat) (payload : Bytes)
  | routed (session : Nat) (payload : Bytes)
  | sent (session : Nat) (payload : Bytes)
  /-- A published value was queued for all. -/
  | relayed
  /-- A turn of the control loop. -/
  | turned
  | silent

/-- The session whose read task takes the step. -/
def Event.reader? : Event → Option Nat
  | admitted _ _ => none
  | received i _ => some i
  | skipped i _ => some i
  | noted i _ => some i
  | gone i _ => some i
  | routed i _ => some i
  | sent i _ => some i
  | relayed => none
  | turned => none
  | silent => none

variable {σ δ : Type}

/-- The message in a payload. -/
def understood (s : Server σ δ) (payload : Bytes) : Option Inbound :=
  match s.outbox.cipher.openSealed payload with
  | .ok plain => (Inbound.parse plain).toOption
  | .error _ => none

/-- The frame of a message that is sent now. -/
def frameOf (s : Server σ δ) (m : Outbound) : Bytes := s.outbox.prepare (s.nonces s.drawn) m

structure St (σ δ : Type) where
  server : Server σ δ
  /-- The read tasks, by the number of the session that each works for. -/
  readers : Nat → Option Reader

/-- A server before its first connection. -/
def opened (server : Server σ δ) : St σ δ := ⟨server, fun _ => none⟩

/-! ### Steps -/

section Steps

variable [Service σ] [Flash δ]

/-- One section of a read task: what it does to the server, and what becomes of the task. -/
inductive Section (s : Server σ δ) (r : Reader) : Event → Server σ δ → Option Reader → Prop
  | receive {f : Feed} {got : ReadTask.Received} : r.AtRest → 0 < f.data.length →
      f.data.length ≤ r.task.room →
      r.task.receive s.registry.config.bufferCapacity s.registry f.data f.time = some got →
      Section s r (.received r.task.session f) ((s.setRegistry got.registry).setTask got.task)
        (some ⟨got.task, .ready, got.items, f.time⟩)
  /-- The session has ended, and so does its task. -/
  | stop : r.AtRest → s.registry.lookupSession r.task.identity r.task.session = none →
      Section s r .silent s.prune none
  /-- The client has closed its end. -/
  | hangUp : r.AtRest → Section s r .silent (s.endSession r.task) none
  /-- The stream cannot be framed. -/
  | fault {why : FrameFault} {rest : List Item} : r.stage = .ready →
      r.items = .error why :: rest → Section s r .silent (s.endSession r.task) none
  | skip {payload : Bytes} {rest : List Item} : r.stage = .ready →
      r.items = .ok payload :: rest → understood s payload = none →
      Section s r (.skipped r.task.session payload) s (some { r with items := rest })
  | note {payload : Bytes} {rest : List Item} {message : Inbound} {registry : Registry} :
      r.stage = .ready → r.items = .ok payload :: rest → understood s payload = some message →
      Dispatcher.noteActivity s.registry r.task.identity r.task.session message.command r.now =
        some registry →
      Section s r (.noted r.task.session payload) (s.setRegistry registry)
        (some { r with stage := .routing payload message, items := rest })
  | gone {payload : Bytes} {rest : List Item} {message : Inbound} :
      r.stage = .ready → r.items = .ok payload :: rest → understood s payload = some message →
      Dispatcher.noteActivity s.registry r.task.identity r.task.session message.command r.now =
        none →
      Section s r (.gone r.task.session payload) s (some { r with items := rest })
  | route {payload : Bytes} {message : Inbound} {routed : Dispatcher.Routed σ} :
      r.stage = .routing payload message →
      s.dispatcher.route s.service r.task.identity message r.now = routed →
      Section s r (.routed r.task.session payload)
        { s with service := routed.service, outlets := s.outlets.applyAll routed.effects }
        (some { r with stage := .replying payload routed.reply })
  | send {payload : Bytes} {reply : Outbound} : r.stage = .replying payload reply →
      Section s r (.sent r.task.session payload) (s.reply r.task.identity reply)
        (some { r with stage := .ready })

/-- One step of the writer of a link. -/
def writerStep (number : Nat) (e : Writer.Event) (l : Link) : Link :=
  if l.number = number then
    let (writer, calls) := l.writer.step e
    { l with writer, sink := l.sink.note calls }
  else l

/-- What other tasks do to a server. -/
inductive Aside (s : Server σ δ) : Server σ δ → Prop
  | evict (identity : String) :
      Aside s { s with connections := (s.connections.evict identity).2 }.prune
  | evictSession (identity : String) (session : Nat) :
      Aside s { s with connections := (s.connections.evictSession identity session).2 }.prune
  | reap (now : Time) : Aside s (s.reapIdle now)
  | closeAll : Aside s { s with connections := s.connections.closeAll.2 }.prune
  | write (number : Nat) (e : Writer.Event) :
      Aside s { s with connections := s.connections.mapLinks (writerStep number e) }
  | publish (value : Json) : Aside s (s.publish value)
  | persist (now : Time) : Aside s (s.persist now)

inductive Step : St σ δ → Event → St σ δ → Prop
  | enroll {s : St σ δ} {x : String} {sink : Sink} {now : Time} {slot k : Nat} :
      (s.server.connections.enroll x (some ⟨s.server.channelSlots, sink⟩) now).1 =
        .ok (.admitted slot k) →
      Step s (.admitted x k)
        ⟨s.server.accept x sink now, Function.update s.readers k
          (some (.new (.new x k s.server.registry.config.bufferCapacity) now))⟩
  /-- A connection is refused, or its identity has a session already. -/
  | refuse {s : St σ δ} {x : String} {sink : Sink} {now : Time} :
      (∀ slot k, (s.server.connections.enroll x (some ⟨s.server.channelSlots, sink⟩) now).1 ≠
        .ok (.admitted slot k)) →
      Step s .silent ⟨s.server.accept x sink now, s.readers⟩
  | read {s : St σ δ} {r : Reader} {e : Event} {server : Server σ δ} {next : Option Reader} :
      s.readers r.task.session = some r → Section s.server r e server next →
      Step s e ⟨server, Function.update s.readers r.task.session next⟩
  | relay {s : St σ δ} (now : Time) : Step s .relayed ⟨s.server.relay now, s.readers⟩
  | turn {s : St σ δ} (now : Time) : Step s .turned ⟨s.server.turn now, s.readers⟩
  | aside {s : St σ δ} {server : Server σ δ} : Aside s.server server →
      Step s .silent ⟨server, s.readers⟩

end Steps

variable {log : List Event} {s t : St σ δ} {e : Event} {i : Nat}

/-! ### What a log tells -/

/-- The bytes received for a session. -/
def feeds (i : Nat) (log : List Event) : List Feed :=
  log.filterMap fun
    | .received j f => if j = i then some f else none
    | _ => none

/-- What the stream of a session has yielded. -/
def decoded (config : Registry.Config) (i : Nat) (log : List Event) : List Item :=
  ((Accumulator.new config.bufferCapacity config.staleAfter).intakes (feeds i log)).1

/-- The steps of the read task of a session. -/
def trail (i : Nat) (log : List Event) : List Event := log.filter fun e => e.reader? == some i

/-! ### Sessions in a step -/

/-- The step relays a published value to all, in this frame. -/
def Relays (s : St σ δ) (e : Event) (frame : Bytes) : Prop :=
  e = .relayed ∧ ∃ value, frame = frameOf s.server (.broadcast value)

/-- The step queues a frame on the writer of a session: one for all, or a reply for whoever has the
identity that the asking session had. -/
def Queues (s : St σ δ) (e : Event) (a : Session) (frame : Bytes) : Prop :=
  Relays s e frame ∨ ∃ i r payload reply, s.readers i = some r ∧
    r.stage = .replying payload reply ∧ e = .sent i payload ∧ a.identity = r.task.identity ∧
    frame = frameOf s.server reply

/-- What a step may change of a session: it takes in what is received for it, its liveness is noted
when its own payload is looked up, and its queue loses frames or gets one. -/
structure Alters (s : St σ δ) (e : Event) (a b : Session) : Prop where
  frames : b.frames = (a.frames.intakes (feeds a.id [e])).2
  liveness : (∀ payload, e ≠ .noted a.id payload) →
    b.lastActivity = a.lastActivity ∧ b.lastHeartbeat = a.lastHeartbeat
  queue : b.queue <:+ a.queue ∨ ∃ frame, b.queue = a.queue ++ [frame] ∧ Queues s e a frame

lemma feeds_received {f : Feed} : feeds i [.received i f] = [f] := by simp [feeds]

lemma feeds_received_of_ne {j : Nat} {f : Feed} (h : i ≠ j) : feeds j [.received i f] = [] := by
  simp [feeds, h]

section Alters

variable {a b : Session}

lemma alters_refl (h : feeds a.id [e] = []) : Alters s e a a :=
  ⟨by rw [h]; rfl, fun _ => ⟨rfl, rfl⟩, .inl (List.suffix_refl _)⟩

lemma alters_send {frame : Bytes} (h : feeds a.id [e] = []) (hq : Queues s e a frame) :
    Alters s e a (a.send frame).2 := by
  have hsame := a.sameButQueue_send frame
  refine ⟨by rw [h]; exact hsame.frames, fun _ => ⟨hsame.lastActivity, hsame.lastHeartbeat⟩, ?_⟩
  rcases a.queue_send frame with h | h
  · exact .inl (by simp [h])
  · exact .inr ⟨frame, h, hq⟩

lemma queue_writerStep (number : Nat) (w : Writer.Event) (l : Link) :
    (writerStep number w l).writer.queue <:+ l.writer.queue := by
  unfold writerStep
  split
  · exact l.writer.queue_step w
  · exact List.suffix_refl _

lemma alters_write (number : Nat) (w : Writer.Event) :
    Alters s .silent a { a with link := a.link.map (writerStep number w) } := by
  refine ⟨rfl, fun _ => ⟨rfl, rfl⟩, .inl ?_⟩
  simp only [Session.queue]
  rcases a.link with _ | l
  · exact List.suffix_refl _
  · exact queue_writerStep number w l

end Alters

/-! ### What the others do -/

/-- The link of the next connection. -/
def newLink (s : Server σ δ) (sink : Sink) : Link := .new s.connections.made s.channelSlots sink

lemma registry_accept (s : Server σ δ) (x : String) (sink : Sink) (now : Time) :
    (s.accept x sink now).registry = (s.registry.enroll x (some (newLink s sink)) now).2.1 := by
  simp only [Server.accept]
  split <;> rfl

lemma registry_reply (s : Server σ δ) (x : String) (m : Outbound) :
    (s.reply x m).registry = (s.registry.send x (frameOf s m)).2 :=
  Registry.registry_sendTo ..

lemma relay_frame (s : Server σ δ) (now : Time) : (s.relay now).service = s.service ∧
    (s.relay now).outbox = s.outbox ∧ (s.relay now).dispatcher = s.dispatcher := by
  unfold Server.relay
  split
  · exact ⟨rfl, rfl, rfl⟩
  · split
    split <;> exact ⟨rfl, rfl, rfl⟩

lemma onward_relay (now : Time) :
    s.server.registry.Onward (Alters s .relayed) (s.server.relay now).registry := by
  unfold Server.relay
  split
  · exact Registry.onward_refl fun _ _ => alters_refl rfl
  · split
    split
    · exact Registry.onward_refl fun _ _ => alters_refl rfl
    · exact Registry.onward_fanOut _ _ fun _ _ => alters_send rfl (.inl ⟨rfl, _, rfl⟩)

section Aside

variable [Flash δ]

lemma aside_frame {s s' : Server σ δ} (h : Aside s s') : s'.service = s.service ∧
    s'.outbox = s.outbox ∧ s'.dispatcher = s.dispatcher := by
  cases h with
  | persist now =>
    unfold Server.persist
    split <;> exact ⟨rfl, rfl, rfl⟩
  | evict x => exact ⟨rfl, rfl, rfl⟩
  | evictSession x i => exact ⟨rfl, rfl, rfl⟩
  | reap now => exact ⟨rfl, rfl, rfl⟩
  | closeAll => exact ⟨rfl, rfl, rfl⟩
  | write number w => exact ⟨rfl, rfl, rfl⟩
  | publish value => exact ⟨rfl, rfl, rfl⟩

lemma onward_aside {server : Server σ δ} (h : Aside s.server server) :
    s.server.registry.Onward (Alters s .silent) server.registry := by
  cases h with
  | evict x => exact Registry.onward_remove _ fun _ _ => alters_refl rfl
  | evictSession x i => exact Registry.onward_remove _ fun _ _ => alters_refl rfl
  | reap now => exact Registry.onward_remove _ fun _ _ => alters_refl rfl
  | closeAll => exact Registry.onward_remove _ fun _ _ => alters_refl rfl
  | write number w => exact Registry.onward_mapLinks fun _ _ => alters_write number w
  | publish value => exact Registry.onward_refl fun _ _ => alters_refl rfl
  | persist now =>
    have hsame : (s.server.persist now).registry = s.server.registry := by
      unfold Server.persist
      split <;> rfl
    rw [hsame]
    exact Registry.onward_refl fun _ _ => alters_refl rfl

end Aside

/-! ### What a step does -/

section Reading

variable [Service σ]

lemma turn_frame (s : Server σ δ) (now : Time) : (s.turn now).registry = s.registry ∧
    (s.turn now).outbox = s.outbox ∧ (s.turn now).dispatcher = s.dispatcher := by
  unfold Server.turn
  split
  · exact ⟨rfl, rfl, rfl⟩
  · split <;> exact ⟨rfl, rfl, rfl⟩

lemma onward_section (hs : s.server.registry.Sound) {r : Reader} {server : Server σ δ}
    {next : Option Reader} (hr : s.readers r.task.session = some r)
    (h : Section s.server r e server next) :
    s.server.registry.Onward (Alters s e) server.registry := by
  cases h with
  | @receive f got _ _ _ hgot =>
    obtain ⟨a, hl, rfl⟩ := Option.map_eq_some_iff.mp hgot
    obtain ⟨ha, hx, hi⟩ := Registry.mem_of_lookupSession hl
    refine Registry.onward_modify (fun b hb hne => alters_refl ?_) fun b hb hbx => ?_
    · refine feeds_received_of_ne fun hid => hne ?_
      rw [hs.eq_of_id hb ha (hid.symm.trans hi.symm), hx]
    · obtain rfl := hs.eq_of_identity hb ha (hbx.trans hx.symm)
      refine ⟨hx, rfl, ?_, fun _ => ⟨rfl, rfl⟩, .inl (List.suffix_refl _)⟩
      rw [← hi, feeds_received]
      rfl
  | stop => exact Registry.onward_refl fun _ _ => alters_refl rfl
  | hangUp => exact Registry.onward_remove _ fun _ _ => alters_refl rfl
  | fault => exact Registry.onward_remove _ fun _ _ => alters_refl rfl
  | skip => exact Registry.onward_refl fun _ _ => alters_refl rfl
  | @note payload rest message registry _ _ _ hnote =>
    obtain ⟨a, hl, rfl⟩ := Option.map_eq_some_iff.mp hnote
    obtain ⟨ha, hx, hi⟩ := Registry.mem_of_lookupSession hl
    refine Registry.onward_modify (fun b hb hne => alters_refl rfl) fun b hb hbx => ?_
    obtain rfl := hs.eq_of_identity hb ha (hbx.trans hx.symm)
    have hown : ¬ ∀ p, Event.noted r.task.session payload ≠ .noted b.id p :=
      fun hne => hne payload (by rw [hi])
    split
    · exact ⟨hx, rfl, rfl, fun hne => absurd hne hown, .inl (List.suffix_refl _)⟩
    · exact ⟨hx, rfl, rfl, fun hne => absurd hne hown, .inl (List.suffix_refl _)⟩
  | gone => exact Registry.onward_refl fun _ _ => alters_refl rfl
  | route => exact Registry.onward_refl fun _ _ => alters_refl rfl
  | @send payload reply hstage =>
    rw [registry_reply]
    refine Registry.onward_send hs (fun b _ _ => alters_refl rfl) fun b _ hbx => ?_
    exact alters_send rfl (.inr ⟨_, r, payload, reply, hr, hstage, rfl, hbx, rfl⟩)

end Reading

variable [Service σ] [Flash δ]

lemma step_registry (hs : s.server.registry.Sound) (h : Step s e t) :
    (∃ x k link now, e = .admitted x k ∧ link.writer.queue = [] ∧
      Registry.Admits x k (some link) now s.server.registry t.server.registry) ∨
    (∀ x k, e ≠ .admitted x k) ∧
      s.server.registry.Onward (Alters s e) t.server.registry := by
  cases h with
  | @enroll x sink now slot k hadm =>
    refine .inl ⟨x, k, newLink s.server sink, now, rfl, rfl, ?_⟩
    rw [registry_accept]
    exact Registry.admits_enroll hadm
  | @refuse x sink now hrefused =>
    have hsame : (s.server.accept x sink now).registry = s.server.registry :=
      (registry_accept ..).trans (Registry.enroll_refused hrefused)
    refine .inr ⟨by simp, ?_⟩
    rw [hsame]
    exact Registry.onward_refl fun _ _ => alters_refl rfl
  | read hr hsec =>
    refine .inr ⟨?_, onward_section hs hr hsec⟩
    cases hsec <;> simp
  | relay now => exact .inr ⟨by simp, onward_relay now⟩
  | turn now =>
    refine .inr ⟨by simp, ?_⟩
    rw [(turn_frame s.server now).1]
    exact Registry.onward_refl fun _ _ => alters_refl rfl
  | aside ha => exact .inr ⟨by simp, onward_aside ha⟩

lemma step_reader {r' : Reader} (h : Step s e t) (hr' : t.readers i = some r') :
    (s.readers i = some r' ∧ e.reader? ≠ some i) ∨
    (∃ x now, e = .admitted x i ∧
      r' = .new (.new x i s.server.registry.config.bufferCapacity) now) ∨
    ∃ r server, s.readers i = some r ∧ r.task.session = i ∧
      Section s.server r e server (some r') ∧
      t = ⟨server, Function.update s.readers i (some r')⟩ := by
  cases h with
  | @enroll x sink now slot k hadm =>
    rcases eq_or_ne i k with rfl | hne
    · simp only [Function.update_self] at hr'
      exact .inr (.inl ⟨x, now, rfl, (Option.some.inj hr').symm⟩)
    · simp only [Function.update_of_ne hne] at hr'
      exact .inl ⟨hr', by simp [Event.reader?]⟩
  | refuse => exact .inl ⟨hr', by simp [Event.reader?]⟩
  | @read r e server next hr hsec =>
    rcases eq_or_ne i r.task.session with rfl | hne
    · simp only [Function.update_self] at hr'
      subst hr'
      exact .inr (.inr ⟨r, server, hr, rfl, hsec, rfl⟩)
    · simp only [Function.update_of_ne hne] at hr'
      refine .inl ⟨hr', ?_⟩
      cases hsec <;> simp [Event.reader?, hne.symm]
  | relay => exact .inl ⟨hr', by simp [Event.reader?]⟩
  | turn => exact .inl ⟨hr', by simp [Event.reader?]⟩
  | aside => exact .inl ⟨hr', by simp [Event.reader?]⟩

lemma step_frame (h : Step s e t) : t.server.outbox = s.server.outbox ∧
    t.server.dispatcher = s.server.dispatcher := by
  cases h with
  | enroll h =>
    simp only [Server.accept]
    split <;> exact ⟨rfl, rfl⟩
  | refuse h =>
    simp only [Server.accept]
    split <;> exact ⟨rfl, rfl⟩
  | read _ h => cases h <;> exact ⟨rfl, rfl⟩
  | relay now => exact (relay_frame s.server now).2
  | turn now => exact (turn_frame s.server now).2
  | aside h => exact (aside_frame h).2

/-! ### A read task that is left to itself -/

section Undisturbed

variable {r : Reader} {payload : Bytes} {rest : List Item}

/-- What a payload of a session that is there comes to, up to its reply. -/
def St.answered (s : St σ δ) (r : Reader) (payload : Bytes) (rest : List Item)
    (registry : Registry) (routed : Dispatcher.Routed σ) : St σ δ :=
  ⟨{ s.server.setRegistry registry with
      service := routed.service, outlets := s.server.outlets.applyAll routed.effects },
    Function.update s.readers r.task.session
      (some { r with stage := .replying payload routed.reply, items := rest })⟩

lemma run_answered {message : Inbound} {registry : Registry} {routed : Dispatcher.Routed σ}
    (hr : s.readers r.task.session = some r) (hready : r.stage = .ready)
    (hitems : r.items = .ok payload :: rest) (hmessage : understood s.server payload = some message)
    (hnote : Dispatcher.noteActivity s.server.registry r.task.identity r.task.session
      message.command r.now = some registry)
    (hrouted : s.server.dispatcher.route s.server.service r.task.identity message r.now = routed) :
    Run Step s [.noted r.task.session payload, .routed r.task.session payload]
      (s.answered r payload rest registry routed) := by
  have hnoted := Step.read hr (.note hready hitems hmessage hnote)
  set r₁ : Reader := { r with stage := .routing payload message, items := rest }
  set s₁ : St σ δ := ⟨s.server.setRegistry registry, _⟩
  have hr₁ : s₁.readers r₁.task.session = some r₁ := Function.update_self ..
  have hanswered := Step.read hr₁ (.route rfl hrouted)
  rw [Function.update_idem] at hanswered
  exact (Run.nil.snoc hnoted).snoc hanswered

/-- A read task that nobody disturbs does with a payload what is done with it in one go. -/
lemma handlePayload_run (hr : s.readers r.task.session = some r) (hready : r.stage = .ready)
    (hitems : r.items = .ok payload :: rest) :
    ∃ log, Run Step s log ⟨s.server.handlePayload r.task payload r.now,
      Function.update s.readers r.task.session (some { r with items := rest })⟩ := by
  unfold Server.handlePayload
  rcases hopen : s.server.outbox.cipher.openSealed payload with why | plain
  · have hskip := Step.read hr (.skip hready hitems (by simp [understood, hopen]))
    exact ⟨_, Run.nil.snoc hskip⟩
  · rcases hparse : Inbound.parse plain with why | message
    · have hskip := Step.read hr
        (.skip hready hitems (by simp [understood, hopen, hparse, Except.toOption]))
      simp only [Dispatcher.dispatch, hparse]
      exact ⟨_, Run.nil.snoc hskip⟩
    · have hmessage : understood s.server payload = some message := by
        simp [understood, hopen, hparse, Except.toOption]
      rcases hnote : Dispatcher.noteActivity s.server.registry r.task.identity r.task.session
        message.command r.now with _ | registry
      · have hgone := Step.read hr (.gone hready hitems hmessage hnote)
        simp only [Dispatcher.dispatch, hparse, hnote]
        exact ⟨_, Run.nil.snoc hgone⟩
      · have hanswered := run_answered hr hready hitems hmessage hnote rfl
        set routed := s.server.dispatcher.route s.server.service r.task.identity message r.now
        set r₂ : Reader := { r with stage := .replying payload routed.reply, items := rest }
        have hr₂ : (s.answered r payload rest registry routed).readers r₂.task.session = some r₂ :=
          Function.update_self ..
        have hsent := Step.read hr₂ (.send rfl)
        rw [St.answered, Function.update_idem] at hsent
        simp only [Dispatcher.dispatch, hparse, hnote]
        have hlast : Reader.mk r.task .ready rest r.now = { r with items := rest } := by
          rw [← hready]
        rw [hlast] at hsent
        exact ⟨_, hanswered.snoc hsent⟩

lemma handleItems_run {items : List Item} (hr : s.readers r.task.session = some r)
    (hready : r.stage = .ready) (hitems : r.items = items) :
    ∃ log readers, Run Step s log ⟨s.server.handleItems r.task r.now items, readers⟩ := by
  induction items generalizing s r with
  | nil => exact ⟨[], s.readers, .nil⟩
  | cons item rest ih =>
    rcases item with why | payload
    · exact ⟨_, _, Run.nil.snoc (.read hr (.fault hready hitems))⟩
    · obtain ⟨log, hrun⟩ := handlePayload_run hr hready hitems
      set s₁ : St σ δ := ⟨s.server.handlePayload r.task payload r.now, _⟩
      have hr₁ : s₁.readers r.task.session = some { r with items := rest } :=
        Function.update_self ..
      obtain ⟨more, readers, hmore⟩ := ih (r := { r with items := rest }) hr₁ hready rfl
      exact ⟨_, readers, hrun.trans hmore⟩

/-- A read in one go is what a read task does with it when nobody comes in between. -/
theorem receive_run {f : Feed} (hr : s.readers r.task.session = some r) (hrest : r.AtRest)
    (hlen : 0 < f.data.length) (hroom : f.data.length ≤ r.task.room) :
    ∃ log readers, Run Step s log ⟨s.server.receive r.task f.data f.time, readers⟩ := by
  unfold Server.receive
  rcases hgot : r.task.receive s.server.registry.config.bufferCapacity s.server.registry f.data
    f.time with _ | got
  · have hgone := Option.map_eq_none_iff.mp hgot
    exact ⟨_, _, Run.nil.snoc (.read hr (.stop hrest hgone))⟩
  · have hread := Step.read hr (.receive hrest hlen hroom hgot)
    have htask : got.task.session = r.task.session := by
      obtain ⟨a, -, rfl⟩ := Option.map_eq_some_iff.mp hgot
      rfl
    set s₁ : St σ δ := ⟨(s.server.setRegistry got.registry).setTask got.task, _⟩
    have hr₁ : s₁.readers got.task.session = some ⟨got.task, .ready, got.items, f.time⟩ := by
      rw [htask]
      exact Function.update_self ..
    obtain ⟨log, readers, hrun⟩ := handleItems_run
      (r := ⟨got.task, .ready, got.items, f.time⟩) hr₁ rfl rfl
    exact ⟨_, readers, (Run.nil.snoc hread).trans hrun⟩

end Undisturbed

end HomeHub.ServerRuns
