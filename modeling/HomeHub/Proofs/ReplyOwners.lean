import HomeHub.Flash.Memory
import HomeHub.Proofs.LookUps
import HomeHub.Service.Echo

/-!
Whom a reply goes to. A reply is queued for whoever has the identity of the asking session at that
moment. That is the asking session itself, unless the identity has been admitted again since the
session was last seen; then it is the successor, which has not asked.

A payload whose session is gone when it is looked up has no effect: only payloads of sessions that
are there reach the service and count as activity.
-/

namespace HomeHub.ServerRuns

open Accumulator (Feed)

variable {σ δ : Type} [Service σ] {log : List Event} {s t : St σ δ} {e : Event}
  {payload : Bytes} {r : Reader}

/-- The frame is the reply to a payload that was decoded from the stream of a session with the same
identity, and looked up while that session was there. It is queued on this very session exactly if
the identity has not been admitted again since then. -/
def IsReply (log : List Event) (s : St σ δ) (e : Event) (a : Session) (frame : Bytes) : Prop :=
  ∃ i payload reply after, e = .sent i payload ∧ .admitted a.identity i ∈ log ∧
    frame = frameOf s.server reply ∧ Answers s.server a.identity payload reply ∧
    LookedUp s.config log i payload [.routed i payload] after ∧
    (a.id = i ↔ ∀ k, .admitted a.identity k ∉ after)

/-- What a step does to a session that stays. -/
structure Goes (log : List Event) (s : St σ δ) (e : Event) (a b : Session) : Prop where
  queue : b.queue <:+ a.queue ∨
    ∃ frame, b.queue = a.queue ++ [frame] ∧ (Relays s e frame ∨ IsReply log s e a frame)
  liveness : (∀ payload, e ≠ .noted a.id payload) →
    b.lastActivity = a.lastActivity ∧ b.lastHeartbeat = a.lastHeartbeat

/-- What a step does to queues, liveness and the service, by whose payloads it does it. -/
structure Accounted (log : List Event) (s : St σ δ) (e : Event) (t : St σ δ) : Prop where
  sessions : ∀ b ∈ t.sessions, e = .admitted b.identity b.id ∧ b.queue = [] ∨
    ∃ a ∈ s.sessions, b.identity = a.identity ∧ b.id = a.id ∧ Goes log s e a b
  /-- A payload that gets to the service has been looked up just before by its read task. -/
  routed : ∀ i payload, e = .routed i payload → ∃ after, LookedUp s.config log i payload [] after
  service : t.server.service = s.server.service ∨ e = .turned ∨ ∃ i payload, e = .routed i payload
  noted : ∀ i payload, e = .noted i payload → ∃ a ∈ s.sessions, a.id = i
  gone : ∀ i payload, e = .gone i payload → (∀ a ∈ s.sessions, a.id ≠ i) ∧ t.server = s.server

lemma isReply_of_queues (hi : Inv log s) {a : Session} {frame : Bytes} (ha : a ∈ s.sessions)
    (h : Queues s e a frame) : Relays s e frame ∨ IsReply log s e a frame := by
  rcases h with h | ⟨i, r, payload, reply, hr, hreplying, he, hx, hframe⟩
  · exact .inl h
  · obtain ⟨-, hadmitted, -, -, -, hstage⟩ := hi.reader i r hr
    simp only [StageInv, hreplying] at hstage
    obtain ⟨hanswers, after, hlooked, hholds⟩ := hstage
    have hiff := hholds a ha hx
    rw [← hx] at hadmitted hanswers hiff
    exact .inr ⟨i, payload, reply, after, he, hadmitted, hframe, hanswers, hlooked, hiff⟩

lemma exists_session_iff (hi : Inv log s) (hr : s.readers r.task.session = some r) :
    (s.server.registry.lookupSession r.task.identity r.task.session).isSome ↔
      ∃ a ∈ s.sessions, a.id = r.task.session := by
  constructor
  · intro h
    obtain ⟨a, hl⟩ := Option.isSome_iff_exists.mp h
    obtain ⟨ha, -, hid⟩ := Registry.mem_of_lookupSession hl
    exact ⟨a, ha, hid⟩
  · rintro ⟨a, ha, hid⟩
    rw [← (hi.reader _ r hr).own a ha hid, ← hid, hi.sound.lookupSession_eq ha]
    rfl

variable [Flash δ]

lemma sessions_of_step (hi : Inv log s) (h : Step s e t) : ∀ b ∈ t.sessions,
    e = .admitted b.identity b.id ∧ b.queue = [] ∨
      ∃ a ∈ s.sessions, b.identity = a.identity ∧ b.id = a.id ∧ Goes log s e a b := by
  intro b hb
  rcases step_registry hi.sound h with ⟨x, k, link, now, rfl, hempty, hadm⟩ | ⟨-, hon⟩
  · rcases hadm.mem_iff.mp hb with rfl | hb
    · exact .inl ⟨rfl, hempty⟩
    · exact .inr ⟨b, hb, rfl, rfl, .inl (List.suffix_refl _), fun _ => ⟨rfl, rfl⟩⟩
  · obtain ⟨a, ha, hx, hid, halt⟩ := hon.each b hb
    refine .inr ⟨a, ha, hx, hid, halt.queue.imp_right ?_, halt.liveness⟩
    exact fun ⟨frame, hframe, hq⟩ => ⟨frame, hframe, isReply_of_queues hi ha hq⟩

/-- Nothing but a section of a read task and a turn of the control loop gets to the service. -/
lemma service_of_step (h : Step s e t) :
    t.server.service = s.server.service ∨ e = .turned ∨ ∃ i payload, e = .routed i payload := by
  cases h with
  | enroll =>
    simp only [Server.accept]
    split <;> exact .inl rfl
  | refuse =>
    simp only [Server.accept]
    split <;> exact .inl rfl
  | read _ hsec =>
    cases hsec with
    | route => exact .inr (.inr ⟨_, _, rfl⟩)
    | _ => exact .inl rfl
  | relay now => exact .inl (relay_frame s.server now).1
  | turn => exact .inr (.inl rfl)
  | aside h => exact .inl (aside_frame h).1

/-! ### Replies to a successor -/

/-- The session of a client is ended. -/
def St.evict (s : St σ δ) (a : Session) : St σ δ :=
  { s with server :=
    { s.server with connections := (s.server.connections.evictSession a.identity a.id).2 }.prune }

/-- A client connects, and is admitted with the next number. -/
def St.connect (s : St σ δ) (x : String) : St σ δ :=
  let k := s.server.registry.nextId
  ⟨s.server.accept x .eager 0, Function.update s.readers k
    (some (.new (.new x k s.server.registry.config.bufferCapacity) 0))⟩

/-- The session of a client that has just connected. -/
def St.newcomer (s : St σ δ) (x : String) : Session :=
  .new x s.server.registry.nextId s.config.bufferCapacity s.config.staleAfter
    (some (newLink s.server .eager)) 0

section Successor

variable {x : String} {a : Session} {reply : Outbound}

omit [Service σ] [Flash δ] in
lemma frameOf_connect (s : St σ δ) (x : String) :
    frameOf (s.connect x).server = frameOf s.server := by
  simp only [St.connect, Server.accept]
  split <;> rfl

omit [Service σ] [Flash δ] in
lemma queue_newcomer {frame : Bytes} (h : frame.length ≤ s.config.bufferCapacity) :
    ((s.newcomer x).send frame).2.queue = [frame] := by
  simp [Session.send, St.newcomer, Session.new, newLink, Link.new, Writer.new, Writer.send,
    Writer.isGone, Session.queue, Nat.not_lt.mpr h]

lemma step_evict (s : St σ δ) (a : Session) : Step s .silent (s.evict a) :=
  .aside (.evictSession a.identity a.id)

lemma step_connect (hx : ∀ a ∈ s.sessions, a.identity ≠ x)
    (hfree : none ∈ s.server.registry.slots) :
    Step s (.admitted x s.server.registry.nextId) (s.connect x) ∧
      s.newcomer x ∈ (s.connect x).sessions := by
  obtain ⟨slot, hslot⟩ := Registry.exists_enroll_eq hx hfree (some (newLink s.server .eager)) 0
  refine ⟨.enroll hslot, ?_⟩
  rw [St.sessions, St.connect, registry_accept]
  exact (Registry.admits_enroll hslot).mem_iff.mpr (.inl rfl)

/-- As long as a reply is not queued, its session can be ended and the identity admitted again. The
reply is then queued for the successor. -/
theorem exists_reply_to_successor (hs : s.server.registry.Sound)
    (hr : s.readers r.task.session = some r) (hreplying : r.stage = .replying payload reply)
    (ha : a ∈ s.sessions) (hx : a.identity = r.task.identity) (hid : a.id = r.task.session)
    (hfits : (frameOf s.server reply).length ≤ s.config.bufferCapacity) :
    ∃ t u, Run Step s [.silent, .admitted r.task.identity s.server.registry.nextId] t ∧
      Step t (.sent r.task.session payload) u ∧
      ∃ b ∈ u.sessions, b.identity = r.task.identity ∧ b.id = s.server.registry.nextId ∧
        b.queue = [frameOf s.server reply] := by
  have hevict := step_evict s a
  obtain ⟨hconnect, hmem⟩ := step_connect (s := s.evict a) (Registry.ne_of_mem_evictSession hs ha)
    (Registry.none_mem_remove ha (by simp))
  rw [hx] at hconnect hmem
  set t := (s.evict a).connect r.task.identity
  have hsound : t.server.registry.Sound := sound_step (sound_step hs hevict) hconnect
  have hframe : frameOf t.server = frameOf s.server := frameOf_connect (s.evict a) r.task.identity
  have hne : r.task.session ≠ s.server.registry.nextId := by
    rw [← hid]
    exact Nat.ne_of_lt (hs.below a ha)
  have hr' : t.readers r.task.session = some r := (Function.update_of_ne hne ..).trans hr
  have hsent : (t.server.reply r.task.identity reply).registry =
      (t.server.registry.send r.task.identity (frameOf s.server reply)).2 := by
    rw [registry_reply, hframe]
  refine ⟨t, _, (Run.nil.snoc hevict).snoc hconnect, .read hr' (.send hreplying),
    (((s.evict a).newcomer r.task.identity).send (frameOf s.server reply)).2, ?_, ?_, ?_, ?_⟩
  · rw [St.sessions, hsent]
    exact Registry.mem_send hsound hmem
  · exact (Session.sameButQueue_send ..).identity
  · exact (Session.sameButQueue_send ..).id
  · exact queue_newcomer hfits

end Successor

/-- A server without a service, before its first connection. -/
def idle : Server Echo MemoryFlash where
  connections := .new Registry.defaultConfig
  tasks := []
  dispatcher := ⟨.default, 0⟩
  service := none
  sensor := none
  outbox := ⟨⟨none⟩⟩
  nonces := fun _ => ⟨List.replicate Cipher.nonceLength 0, rfl⟩
  drawn := 0
  outlets := ⟨none, none⟩
  board := .new (.new 0)
  channelSlots := Writer.defaultSlots
  idleTimeout := 60000

def peer : String := "10.0.0.2:5000"

/-- A liveness probe. -/
def probe : Bytes := Utf8.ofString "\x7b\"type\":\"PING\"\x7d"

def probeFeed : Feed := ⟨Frame.encode probe, 0⟩

/-- The echo of the probe. -/
def echo : Outbound := .heartbeat "" peer

/-- The server once the peer has connected. -/
def greeted : St Echo MemoryFlash := (opened idle).connect peer

/-- What the read of the probe brings. -/
def probeRead : ReadTask.Received :=
  let (items, frames) := ((opened idle).newcomer peer).frames.intake probeFeed
  ⟨items, ⟨peer, 1, ReadTask.roomFor 2048 frames⟩,
    greeted.server.registry.modify peer fun a => { a with frames }⟩

def probed : St Echo MemoryFlash :=
  ⟨(greeted.server.setRegistry probeRead.registry).setTask probeRead.task,
    Function.update greeted.readers 1 (some ⟨probeRead.task, .ready, probeRead.items, 0⟩)⟩

lemma run_probed : Run Step (opened idle) [.admitted peer 1, .received 1 probeFeed] probed := by
  have hconnect := (step_connect (s := opened idle) (x := peer) (by decide) (by decide)).1
  have hgot : ReadTask.receive ⟨peer, 1, 2048⟩ 2048 greeted.server.registry probeFeed.data 0 =
      some probeRead :=
    Option.map_eq_some_iff.mpr ⟨(opened idle).newcomer peer, by decide +kernel, rfl⟩
  have hread : Step greeted (.received 1 probeFeed) probed :=
    .read (r := .new ⟨peer, 1, 2048⟩ 0) rfl
      (.receive ⟨rfl, rfl⟩ (by decide +kernel) (by decide +kernel) hgot)
  exact (Run.nil.snoc hconnect).snoc hread

/-- The peer sends the probe, and its session is ended and its identity admitted again before the
echo is queued. -/
def echoLog : List Event :=
  [.admitted peer 1, .received 1 probeFeed, .noted 1 probe, .routed 1 probe, .silent,
    .admitted peer 2]

lemma exists_run_echoed : ∃ s t : St Echo MemoryFlash, Run Step (opened idle) echoLog s ∧
    Step s (.sent 1 probe) t ∧
    ∃ b ∈ t.sessions, b.identity = peer ∧ b.id = 2 ∧ b.queue = [frameOf idle echo] := by
  obtain ⟨message, hmessage⟩ : ∃ m, understood probed.server probe = some m :=
    Option.isSome_iff_exists.mp (by decide +kernel)
  have hfields : message.command = .heartbeat ∧ message.id = "" := by
    have h : (understood probed.server probe).map (fun m => (m.command, m.id)) =
        some (.heartbeat, "") := by decide +kernel
    simpa [hmessage] using h
  obtain ⟨a, hl⟩ : ∃ a, probed.server.registry.lookupSession peer 1 = some a :=
    Option.isSome_iff_exists.mp (by decide +kernel)
  obtain ⟨ha, hx, hid⟩ := Registry.mem_of_lookupSession hl
  have hnote : Dispatcher.noteActivity probed.server.registry peer 1 message.command 0 =
      some (probed.server.registry.modify peer fun a => a.heartbeat 0) := by
    simp [Dispatcher.noteActivity, hl, hfields.1]
  have hrouted : probed.server.dispatcher.route probed.server.service peer message 0 =
      ⟨echo, [], none⟩ := by
    simp only [Dispatcher.route, hfields]
    rfl
  have hitems : probeRead.items = [.ok probe] := by decide +kernel
  have hrun := run_probed.trans (run_answered
    (r := ⟨probeRead.task, .ready, probeRead.items, 0⟩) rfl rfl hitems hmessage hnote hrouted)
  have hsound := (hrun.invariant (inv_opened rfl) inv_step).sound
  obtain ⟨t, u, hmore, hsent, b, hb⟩ := exists_reply_to_successor hsound
    (r := ⟨probeRead.task, .replying probe echo, [], 0⟩) rfl rfl (Registry.mem_modify ha hx) hx hid
    (by decide +kernel)
  exact ⟨t, u, hrun.trans hmore, hsent, b, hb⟩

/-! ### Results -/

/-- **Whom a reply goes to.** In any run, whatever else comes in between, a reply is the answer to
a payload decoded from the stream of a session, and it is queued for that session exactly if the
identity has not been admitted again since the payload was looked up. A payload whose session is
gone by then has no effect at all. -/
theorem accounted_of_step {server : Server σ δ} (hnew : server.registry.sessions = [])
    (hrun : Run Step (opened server) log s) (hstep : Step s e t) : Accounted log s e t := by
  have hi : Inv log s := hrun.invariant (inv_opened hnew) inv_step
  refine ⟨sessions_of_step hi hstep, ?_, service_of_step hstep, ?_, ?_⟩
  · rintro i payload rfl
    cases hstep with
    | read hr hsec =>
      cases hsec with
      | route hrouting =>
        have hstage := (hi.reader _ _ hr).stage
        simp only [StageInv, hrouting] at hstage
        obtain ⟨-, after, hlooked, -⟩ := hstage
        exact ⟨after, hlooked⟩
  · rintro i payload rfl
    cases hstep with
    | read hr hsec =>
      cases hsec with
      | note _ _ _ hnote =>
        obtain ⟨a, hl, -⟩ := Option.map_eq_some_iff.mp hnote
        exact (exists_session_iff hi hr).mp (by rw [hl]; rfl)
  · rintro i payload rfl
    cases hstep with
    | read hr hsec =>
      cases hsec with
      | gone _ _ _ hnote =>
        refine ⟨fun a ha hid => ?_, rfl⟩
        have hthere := (exists_session_iff hi hr).mpr ⟨a, ha, hid⟩
        rw [Option.map_eq_none_iff.mp hnote] at hthere
        cases hthere

theorem accounted_of_step_echo : ∃ s t : St Echo MemoryFlash, idle.registry.sessions = [] ∧
    Run Step (opened idle) echoLog s ∧ Step s (.sent 1 probe) t ∧
    Accounted echoLog s (.sent 1 probe) t := by
  obtain ⟨s, t, hrun, hsent, -⟩ := exists_run_echoed
  exact ⟨s, t, rfl, hrun, hsent, accounted_of_step rfl hrun hsent⟩

/-- **An echo for the successor.** Nothing has been received for the second session, and yet a reply
is queued for it. -/
theorem echo_to_successor : ∃ (log : List Event) (s t : St Echo MemoryFlash),
    Run Step (opened idle) log s ∧ Step s (.sent 1 probe) t ∧ decoded s.config 2 log = [] ∧
      ∃ b ∈ t.sessions, b.id = 2 ∧ b.queue = [frameOf idle echo] := by
  obtain ⟨s, t, hrun, hsent, b, hb, -, hid, hqueue⟩ := exists_run_echoed
  exact ⟨echoLog, s, t, hrun, hsent, rfl, b, hb, hid, hqueue⟩

end HomeHub.ServerRuns
