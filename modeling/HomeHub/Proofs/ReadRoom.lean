import HomeHub.Proofs.DrainedFeeds
import HomeHub.Proofs.ReplyOwners

/-!
A server never drops a received byte for lack of room.

A scan between two bytes holds less than a full buffer: a header that filled it would be an
overflow, a frame that filled it would be complete, and of a body that is passed over nothing is
held. So a drained accumulator has room for a byte at least, however late the bytes come, and a
read task that brings no more than there is room for never loses any.
-/

namespace HomeHub

/-! ### Drained accumulators -/

namespace Accumulator

variable {a : Accumulator}

lemma Drained.roomFor_eq (h : Drained a) : ReadTask.roomFor a.capacity a = a.room := by
  have := h.length_lt
  unfold ReadTask.roomFor room
  omega

end Accumulator

/-! ### Servers that have started -/

namespace Server

variable {σ δ : Type} [Service σ] {p : Parts σ δ} {now : Time} {server : Server σ δ}

lemma minBufferCapacity_le {c : Config} (h : c.validate = .ok ()) :
    Config.minBufferCapacity ≤ c.bufferCapacity := by
  unfold Config.validate at h
  by_contra hsmall
  rw [Nat.not_le] at hsmall
  simp only [hsmall, if_true] at h
  split at h <;> cases h

lemma registry_start (h : start p now = .ok server) :
    server.registry = .new p.config.normalize.registryConfig ∧
      Config.minBufferCapacity ≤ p.config.normalize.bufferCapacity := by
  unfold start at h
  cases hv : p.config.normalize.validate with
  | error why => simp [hv, bind, Except.bind] at h
  | ok u =>
    cases hc : chosenCipher p.config.normalize p.cipher with
    | error why => simp [hv, hc, bind, Except.bind] at h
    | ok cipher =>
      simp only [hv, hc, bind, Except.bind, pure, Except.pure, Except.ok.injEq] at h
      subst h
      exact ⟨rfl, minBufferCapacity_le hv⟩

lemma sessions_start (h : start p now = .ok server) : server.registry.sessions = [] := by
  rw [(registry_start h).1]
  simp [Registry.new, Registry.sessions]

end Server

/-! ### Read tasks -/

namespace ServerRuns

open Accumulator (Feed Roomy Drained)

variable {σ δ : Type} {log : List Event} {s t : St σ δ} {e : Event} {i : Nat}

/-- What the accumulator of a session has come to by what was received for it. -/
def intaken (config : Registry.Config) (i : Nat) (log : List Event) : Accumulator :=
  ((Accumulator.new config.bufferCapacity config.staleAfter).intakes (feeds i log)).2

lemma intaken_append (config : Registry.Config) (i : Nat) (log more : List Event) :
    intaken config i (log ++ more) = ((intaken config i log).intakes (feeds i more)).2 := by
  rw [intaken, feeds_append, Accumulator.intakes_append]
  rfl

lemma feeds_eq_nil (h : ∀ f, e ≠ .received i f) : feeds i [e] = [] := by
  cases e with
  | received j f =>
    refine feeds_received_of_ne fun hj => h f ?_
    rw [hj]
  | _ => rfl

/-- Every read was within the room that its accumulator had, and every read task knows the room that
there is now. -/
structure Rooms (log : List Event) (s : St σ δ) : Prop where
  pos : 1 ≤ s.config.bufferCapacity
  roomy : ∀ i, Roomy (.new s.config.bufferCapacity s.config.staleAfter) (feeds i log)
  reader : ∀ i r, s.readers i = some r → r.task.room = (intaken s.config i log).room

lemma rooms_opened {server : Server σ δ} (h : 1 ≤ server.registry.config.bufferCapacity) :
    Rooms [] (opened server) :=
  ⟨h, fun _ => trivial, fun _ _ hr => by simp [opened] at hr⟩

lemma drained_intaken (h : Rooms log s) (i : Nat) : Drained (intaken s.config i log) ∧
    (intaken s.config i log).capacity = s.config.bufferCapacity ∧
      (intaken s.config i log).dropped = 0 :=
  Accumulator.intakes_drained (Accumulator.drained_new h.pos) (h.roomy i)

lemma room_receive [Service σ] (hi : Inv log s) (h : Rooms log s) {r : Reader}
    (hr : s.readers r.task.session = some r) {f : Feed} {got : ReadTask.Received}
    (hfits : f.data.length ≤ r.task.room)
    (hgot : r.task.receive s.config.bufferCapacity s.server.registry f.data f.time = some got) :
    got.task.room = ((intaken s.config r.task.session log).intake f).2.room := by
  obtain ⟨a, hl, rfl⟩ := Option.map_eq_some_iff.mp hgot
  obtain ⟨ha, -, hid⟩ := Registry.mem_of_lookupSession hl
  have hframes : a.frames = intaken s.config r.task.session log := by
    rw [hi.frames a ha, hid]
    rfl
  obtain ⟨hd, hcap, -⟩ := drained_intaken h r.task.session
  rw [h.reader _ _ hr] at hfits
  obtain ⟨hdrained, hsame, -⟩ := Accumulator.intake_drained hd hfits
  have hroom := hdrained.roomFor_eq
  rw [hsame, hcap, ← hframes] at hroom
  rw [← hframes]
  exact hroom

variable [Service σ] [Flash δ]

/-- A read is within the room of the accumulator that takes it in. -/
lemma roomy_step (h : Rooms log s) (hstep : Step s e t) (i : Nat) :
    Roomy (intaken s.config i log) (feeds i [e]) := by
  by_cases hread : ∃ f, e = .received i f
  · obtain ⟨f, rfl⟩ := hread
    cases hstep with
    | read hr hsec =>
      cases hsec with
      | receive _ _ hfits _ =>
        rw [feeds_received]
        rw [h.reader _ _ hr] at hfits
        exact ⟨hfits, trivial⟩
  · rw [feeds_eq_nil fun f hf => hread ⟨f, hf⟩]
    trivial

lemma room_step (hi : Inv log s) (h : Rooms log s) (hstep : Step s e t) {r' : Reader}
    (hr' : t.readers i = some r') : r'.task.room = (intaken s.config i (log ++ [e])).room := by
  rw [intaken_append]
  rcases step_reader hstep hr' with ⟨hr, hne⟩ | ⟨x, now, rfl, rfl⟩ | ⟨r, server, hr, rfl, hsec, -⟩
  · rw [feeds_eq_nil fun f hf => hne (by rw [hf]; rfl)]
    exact h.reader i r' hr
  · -- nothing has been received yet
    obtain ⟨y, k, link, at', he, -, hadm⟩ | ⟨hne, -⟩ := step_registry hi.sound hstep
    · obtain ⟨-, rfl⟩ := Event.admitted.inj he
      rw [intaken, hadm.number, feeds_nextId hi]
      rfl
    · exact absurd rfl (hne x i)
  · generalize hnext : some r' = next at hsec
    cases hsec with
    | stop | hangUp | fault => cases hnext
    | receive _ _ hfits hgot =>
      obtain rfl := Option.some.inj hnext
      rw [feeds_received]
      exact room_receive hi h hr hfits hgot
    | skip | note | gone | route | send =>
      obtain rfl := Option.some.inj hnext
      exact h.reader _ r hr

lemma rooms_step (hi : Inv log s) (h : Rooms log s) (hstep : Step s e t) :
    Rooms (log ++ [e]) t := by
  have hconfig := config_step hi.sound hstep
  refine ⟨?_, fun i => ?_, fun i r' hr' => ?_⟩ <;> rw [hconfig]
  · exact h.pos
  · rw [feeds_append, Accumulator.roomy_append]
    exact ⟨h.roomy i, roomy_step h hstep i⟩
  · exact room_step hi h hstep hr'

lemma rooms_of_run {p : Server.Parts σ δ} {now : Time} {server : Server σ δ}
    (hstart : Server.start p now = .ok server) (hrun : Run Step (opened server) log s) :
    Inv log s ∧ Rooms log s ∧ s.config = p.config.normalize.registryConfig := by
  obtain ⟨hregistry, hmin⟩ := Server.registry_start hstart
  have hconfig : server.registry.config = p.config.normalize.registryConfig := by
    rw [hregistry]
    rfl
  have hpos : 1 ≤ server.registry.config.bufferCapacity := by
    rw [hconfig]
    exact le_trans (by decide) hmin
  exact hrun.invariant
    (I := fun log s => Inv log s ∧ Rooms log s ∧ s.config = p.config.normalize.registryConfig)
    ⟨inv_opened (Server.sessions_start hstart), rooms_opened hpos, hconfig⟩
    fun ⟨hi, hrooms, hsame⟩ hstep =>
      ⟨inv_step hi hstep, rooms_step hi hrooms hstep, (config_step hi.sound hstep).trans hsame⟩

/-- **No byte is dropped.** Whatever the clients send, and in whatever pieces and at whatever times
it is read, a server that has started keeps every byte that it reads; each read task may always
read a byte at least, and never more than its accumulator has room for. -/
theorem room_of_run {p : Server.Parts σ δ} {now : Time} {server : Server σ δ}
    (hstart : Server.start p now = .ok server) (hrun : Run Step (opened server) log s) :
    s.config.bufferCapacity = p.config.normalize.bufferCapacity ∧
      (∀ a ∈ s.sessions, a.frames.dropped = 0 ∧
        a.frames.buffer.length < s.config.bufferCapacity) ∧
      ∀ i r, s.readers i = some r → 1 ≤ r.task.room ∧ r.task.room ≤ s.config.bufferCapacity ∧
        ∀ a ∈ s.sessions, a.id = i →
          r.task.room = s.config.bufferCapacity - a.frames.buffer.length := by
  obtain ⟨hi, hrooms, hconfig⟩ := rooms_of_run hstart hrun
  refine ⟨congrArg Registry.Config.bufferCapacity hconfig, fun a ha => ?_, fun i r hr => ?_⟩
  · obtain ⟨hd, hsize, hdropped⟩ := drained_intaken hrooms a.id
    have hlt := hd.length_lt
    rw [hsize] at hlt
    rw [hi.frames a ha]
    exact ⟨hdropped, hlt⟩
  · obtain ⟨hd, hsize, -⟩ := drained_intaken hrooms i
    have hlt := hd.length_lt
    rw [hrooms.reader i r hr, Accumulator.room, hsize]
    rw [hsize] at hlt
    refine ⟨Nat.sub_pos_of_lt hlt, Nat.sub_le _ _, fun a ha hid => ?_⟩
    rw [hi.frames a ha, hid]
    rfl

/-- Parts of a server without a service. -/
def bare : Server.Parts Echo MemoryFlash where
  config := .default
  cipher := none
  nonces := idle.nonces
  service := none
  sensor := none
  store := none
  board := .new (.new 0)
  channelSlots := Writer.defaultSlots
  host := none

def started : Server Echo MemoryFlash := match Server.start bare 0 with
  | .ok server => server
  | .error _ => idle

lemma start_bare : Server.start bare 0 = .ok started := rfl

/-- The header `20;` and two bytes of the body. -/
def beginning : Feed := ⟨[50, 48, 59, 97, 98], 0⟩

theorem room_of_run_beginning : Server.start bare 0 = .ok started ∧
    ∃ s, Run Step (opened started) [.admitted peer 1, .received 1 beginning] s ∧
      ∃ a ∈ s.sessions, ∃ r, s.readers 1 = some r ∧ a.id = 1 ∧ a.frames.dropped = 0 ∧
        1 ≤ r.task.room ∧ r.task.room = s.config.bufferCapacity - a.frames.buffer.length := by
  have hconnect := (step_connect (s := opened started) (x := peer) (by decide) (by decide)).1
  obtain ⟨got, hgot⟩ : ∃ got, ReadTask.receive ⟨peer, 1, 2048⟩ 2048
      ((opened started).connect peer).server.registry beginning.data 0 = some got :=
    Option.isSome_iff_exists.mp (by decide +kernel)
  have hrun := (Run.nil.snoc hconnect).snoc (.read (r := .new ⟨peer, 1, 2048⟩ 0) rfl
    (.receive ⟨rfl, rfl⟩ (by decide) (by decide) hgot))
  obtain ⟨a, hl, rfl⟩ := Option.map_eq_some_iff.mp hgot
  obtain ⟨ha, hx, hid⟩ := Registry.mem_of_lookupSession hl
  obtain ⟨-, hkept, hroom⟩ := room_of_run start_bare hrun
  have hmem := @Registry.mem_modify _ _ _ (fun b : Session =>
    { b with frames := (a.frames.intake beginning).2 }) ha hx
  obtain ⟨hpos, -, heq⟩ := hroom 1 _ rfl
  exact ⟨start_bare, _, hrun, _, hmem, _, rfl, hid, (hkept _ hmem).1, hpos, heq _ hmem hid⟩

end ServerRuns

end HomeHub
