import HomeHub.Proofs.ServerRuns

/-!
The way of a payload through its read task. It is decoded from the stream of the session, its
session is looked up, the service is asked, and the reply is queued; none of this is disturbed by
what other tasks do meanwhile. But from the look-up on the session is only known by its identity,
and this may come to be that of another session.
-/

namespace HomeHub.ServerRuns

open Accumulator (Feed)

variable {σ δ : Type} [Service σ] {log after : List Event} {s t : St σ δ} {e : Event}
  {i : Nat} {x : String} {payload : Bytes} {r : Reader}

def St.sessions (s : St σ δ) : List Session := s.server.registry.sessions

def St.config (s : St σ δ) : Registry.Config := s.server.registry.config

/-- The reply is the answer to the message in a payload. -/
def Answers (s : Server σ δ) (x : String) (payload : Bytes) (reply : Outbound) : Prop :=
  ∃ (message : Inbound) (service : Option σ) (now : Time), understood s payload = some message ∧
    reply = (s.dispatcher.route service x message now).reply

/-- A payload decoded from the stream of a session was looked up while the session was there. After
that the log is as given, and the read task of the session has taken the given steps. -/
def LookedUp (config : Registry.Config) (log : List Event) (i : Nat) (payload : Bytes)
    (steps after : List Event) : Prop :=
  ∃ before, log = before ++ .noted i payload :: after ∧ trail i after = steps ∧
    .ok payload ∈ decoded config i before

/-- Whoever has the identity is the session itself, unless the identity was admitted again. -/
def Holds (s : St σ δ) (x : String) (i : Nat) (after : List Event) : Prop :=
  ∀ a ∈ s.sessions, a.identity = x → (a.id = i ↔ ∀ k, .admitted x k ∉ after)

/-- A payload that has been looked up is still on its way, and its read task has since taken the
given steps. -/
def Pending (log : List Event) (s : St σ δ) (i : Nat) (x : String) (payload : Bytes)
    (steps : List Event) : Prop :=
  ∃ after, LookedUp s.config log i payload steps after ∧ Holds s x i after

/-! ### Logs -/

lemma feeds_append (i : Nat) (log more : List Event) :
    feeds i (log ++ more) = feeds i log ++ feeds i more := List.filterMap_append

lemma mem_decoded_append {config : Registry.Config} {item : Item}
    (h : item ∈ decoded config i log) (more : List Event) :
    item ∈ decoded config i (log ++ more) := by
  rw [decoded, feeds_append, Accumulator.intakes_append]
  exact List.mem_append_left _ h

lemma trail_append (i : Nat) (log more : List Event) :
    trail i (log ++ more) = trail i log ++ trail i more := List.filter_append ..

lemma trail_of_ne (h : e.reader? ≠ some i) : trail i [e] = [] := by
  simp [trail, h]

lemma LookedUp.snoc {config : Registry.Config} {steps : List Event}
    (h : LookedUp config log i payload steps after) (e : Event) :
    LookedUp config (log ++ [e]) i payload (steps ++ trail i [e]) (after ++ [e]) := by
  obtain ⟨before, rfl, rfl, hmem⟩ := h
  exact ⟨before, by simp, trail_append .., hmem⟩

/-! ### The invariant -/

/-- A payload on its way through its read task. -/
def StageInv (log : List Event) (s : St σ δ) (i : Nat) (r : Reader) : Prop :=
  match r.stage with
  | .ready => True
  | .routing payload message =>
    understood s.server payload = some message ∧ Pending log s i r.task.identity payload []
  | .replying payload reply =>
    Answers s.server r.task.identity payload reply ∧
      Pending log s i r.task.identity payload [.routed i payload]

structure ReaderInv (log : List Event) (s : St σ δ) (i : Nat) (r : Reader) : Prop where
  number : r.task.session = i
  admitted : .admitted r.task.identity i ∈ log
  below : i < s.server.registry.nextId
  own : ∀ a ∈ s.sessions, a.id = i → a.identity = r.task.identity
  items : ∀ payload, .ok payload ∈ r.items → .ok payload ∈ decoded s.config i log
  stage : StageInv log s i r

structure Inv (log : List Event) (s : St σ δ) : Prop where
  sound : s.server.registry.Sound
  /-- Bytes are received only for numbers that have been given out. -/
  known : ∀ i f, .received i f ∈ log → i < s.server.registry.nextId
  frames : ∀ a ∈ s.sessions, a.frames =
    ((Accumulator.new s.config.bufferCapacity s.config.staleAfter).intakes (feeds a.id log)).2
  reader : ∀ i r, s.readers i = some r → ReaderInv log s i r

lemma inv_opened {server : Server σ δ} (h : server.registry.sessions = []) :
    Inv [] (opened server) where
  sound := Registry.sound_of_sessions_eq_nil h
  known _ _ hmem := by simp at hmem
  frames a ha := by
    have : a ∈ server.registry.sessions := ha
    simp [h] at this
  reader _ _ hr := by simp [opened] at hr

lemma feeds_nextId (hi : Inv log s) : feeds s.server.registry.nextId log = [] := by
  refine List.filterMap_eq_nil_iff.mpr fun e he => ?_
  cases e with
  | received j f =>
    have hne : j ≠ s.server.registry.nextId := Nat.ne_of_lt (hi.known j f he)
    simp [hne]
  | _ => rfl

lemma mem_decoded_of_mem_received (hi : Inv log s) {f : Feed} {got : ReadTask.Received}
    (h : r.task.receive s.config.bufferCapacity s.server.registry f.data f.time = some got)
    {item : Item} (hitem : item ∈ got.items) :
    item ∈ decoded s.config r.task.session (log ++ [.received r.task.session f]) := by
  obtain ⟨a, hl, rfl⟩ := Option.map_eq_some_iff.mp h
  obtain ⟨ha, -, hid⟩ := Registry.mem_of_lookupSession hl
  have hitem' : item ∈ (a.frames.intakes [f]).1 := List.mem_append_left _ hitem
  rw [hi.frames a ha, hid] at hitem'
  rw [decoded, feeds_append, feeds_received, Accumulator.intakes_append]
  exact List.mem_append_right _ hitem'

/-! ### Sessions in a step -/

variable [Flash δ]

section Step

variable (hs : s.server.registry.Sound) (hstep : Step s e t)
include hs hstep

lemma sound_step : t.server.registry.Sound := by
  rcases step_registry hs hstep with ⟨x, k, link, now, -, -, h⟩ | ⟨-, h⟩
  · exact h.sound hs
  · exact h.sound hs

lemma config_step : t.config = s.config := by
  rcases step_registry hs hstep with ⟨x, k, link, now, -, -, h⟩ | ⟨-, h⟩
  · exact h.config
  · exact h.config

lemma nextId_le : s.server.registry.nextId ≤ t.server.registry.nextId := by
  rcases step_registry hs hstep with ⟨x, k, link, now, -, -, h⟩ | ⟨-, h⟩
  · exact Nat.le_of_lt (Nat.lt_of_lt_of_eq (Nat.lt_succ_self _) h.nextId.symm)
  · exact Nat.le_of_eq h.nextId.symm

lemma exists_before {b : Session} (hb : b ∈ t.sessions) (hid : b.id < s.server.registry.nextId) :
    ∃ a ∈ s.sessions, b.identity = a.identity ∧ b.id = a.id := by
  rcases step_registry hs hstep with ⟨x, k, link, now, -, -, h⟩ | ⟨-, h⟩
  · rcases h.mem_iff.mp hb with rfl | hb
    · have hk : k < s.server.registry.nextId := hid
      rw [h.number] at hk
      exact absurd hk (Nat.lt_irrefl _)
    · exact ⟨b, hb, rfl, rfl⟩
  · obtain ⟨a, ha, hx, hi, -⟩ := h.each b hb
    exact ⟨a, ha, hx, hi⟩

lemma holds_step (hlt : i < s.server.registry.nextId) (h : Holds s x i after) :
    Holds t x i (after ++ [e]) := by
  intro b hb hx
  rcases step_registry hs hstep with ⟨y, k, link, now, rfl, -, hadm⟩ | ⟨hne, hon⟩
  · rcases hadm.mem_iff.mp hb with rfl | hb
    · have hy : y = x := hx
      have hk : k ≠ i := by
        rw [hadm.number]
        exact (Nat.ne_of_lt hlt).symm
      refine ⟨fun hi => absurd hi hk, fun hall => absurd ?_ (hall k)⟩
      simp [hy]
    · -- the newcomer has another identity
      have hy : x ≠ y := fun hy => hadm.absent b hb (hx.trans hy)
      rw [h b hb hx]
      simp [hy]
  · obtain ⟨a, ha, hax, hai, -⟩ := hon.each b hb
    rw [hai, h a ha (hax.symm.trans hx)]
    refine forall_congr' fun k => ?_
    simp [(hne x k).symm]

lemma Pending.step {steps : List Event} (h : Pending log s i x payload steps)
    (hlt : i < s.server.registry.nextId) :
    Pending (log ++ [e]) t i x payload (steps ++ trail i [e]) := by
  obtain ⟨after, hlooked, hholds⟩ := h
  refine ⟨after ++ [e], ?_, holds_step hs hstep hlt hholds⟩
  rw [config_step hs hstep]
  exact hlooked.snoc e

omit hs

lemma understood_step (payload : Bytes) :
    understood t.server payload = understood s.server payload := by
  rw [understood, (step_frame hstep).1]
  rfl

lemma Answers.step {reply : Outbound} (h : Answers s.server x payload reply) :
    Answers t.server x payload reply := by
  obtain ⟨message, service, now, hmessage, hreply⟩ := h
  refine ⟨message, service, now, (understood_step hstep payload).trans hmessage, ?_⟩
  rw [(step_frame hstep).2]
  exact hreply

end Step

/-! ### Read tasks in a step -/

section Reader

variable (hs : s.server.registry.Sound) (hstep : Step s e t)
include hs hstep

/-- What a read task keeps over a step, given where it stands afterwards. -/
lemma ReaderInv.step {r' : Reader} (h : ReaderInv log s i r)
    (htask : r'.task.identity = r.task.identity ∧ r'.task.session = r.task.session)
    (hitems : ∀ payload, .ok payload ∈ r'.items →
      .ok payload ∈ r.items ∨ .ok payload ∈ decoded s.config i (log ++ [e]))
    (hstage : StageInv (log ++ [e]) t i r') : ReaderInv (log ++ [e]) t i r' where
  number := htask.2.trans h.number
  admitted := by
    rw [htask.1]
    exact List.mem_append_left _ h.admitted
  below := Nat.lt_of_lt_of_le h.below (nextId_le hs hstep)
  own b hb hi := by
    obtain ⟨a, ha, hx, hai⟩ := exists_before hs hstep hb (hi ▸ h.below)
    rw [hx, h.own a ha (hai.symm.trans hi), htask.1]
  items payload hp := by
    rw [config_step hs hstep]
    rcases hitems payload hp with hp | hp
    · exact mem_decoded_append (h.items payload hp) _
    · exact hp
  stage := hstage

lemma stageInv_other (h : ReaderInv log s i r) (hne : e.reader? ≠ some i) :
    StageInv (log ++ [e]) t i r := by
  have hstage := h.stage
  have hpending {payload : Bytes} {steps : List Event}
      (hp : Pending log s i r.task.identity payload steps) :
      Pending (log ++ [e]) t i r.task.identity payload steps := by
    simpa only [trail_of_ne hne, List.append_nil] using hp.step hs hstep h.below
  unfold StageInv at hstage ⊢
  cases hr : r.stage with
  | ready => trivial
  | routing payload message =>
    simp only [hr] at hstage ⊢
    exact ⟨(understood_step hstep payload).trans hstage.1, hpending hstage.2⟩
  | replying payload reply =>
    simp only [hr] at hstage ⊢
    exact ⟨hstage.1.step hstep, hpending hstage.2⟩

lemma readerInv_other (h : ReaderInv log s i r) (hne : e.reader? ≠ some i) :
    ReaderInv (log ++ [e]) t i r :=
  h.step hs hstep ⟨rfl, rfl⟩ (fun _ => .inl) (stageInv_other hs hstep h hne)

end Reader

lemma readerInv_section (hi : Inv log s) (hr : s.readers r.task.session = some r)
    {server : Server σ δ} {r' : Reader} (h : Section s.server r e server (some r')) :
    ReaderInv (log ++ [e]) ⟨server, Function.update s.readers r.task.session (some r')⟩
      r.task.session r' := by
  have hstep := Step.read hr h
  have hinv := hi.reader _ r hr
  have hstage := hinv.stage
  unfold StageInv at hstage
  generalize hnext : some r' = next at h
  cases h with
  | stop => cases hnext
  | hangUp => cases hnext
  | fault => cases hnext
  | receive _ _ _ hgot =>
    obtain rfl := Option.some.inj hnext
    refine hinv.step hi.sound hstep ?_ (fun p hp => .inr (mem_decoded_of_mem_received hi hgot hp))
      trivial
    obtain ⟨a, -, rfl⟩ := Option.map_eq_some_iff.mp hgot
    exact ⟨rfl, rfl⟩
  | skip hready hitems =>
    obtain rfl := Option.some.inj hnext
    exact hinv.step hi.sound hstep ⟨rfl, rfl⟩
      (fun p hp => .inl (hitems ▸ List.mem_cons_of_mem _ hp)) (by simp [StageInv, hready])
  | gone hready hitems =>
    obtain rfl := Option.some.inj hnext
    exact hinv.step hi.sound hstep ⟨rfl, rfl⟩
      (fun p hp => .inl (hitems ▸ List.mem_cons_of_mem _ hp)) (by simp [StageInv, hready])
  | @note payload rest message registry hready hitems hmessage hnote =>
    obtain rfl := Option.some.inj hnext
    refine hinv.step hi.sound hstep ⟨rfl, rfl⟩
      (fun p hp => .inl (hitems ▸ List.mem_cons_of_mem _ hp))
      ⟨hmessage, [], ⟨log, rfl, rfl, ?_⟩, ?_⟩
    · rw [config_step hi.sound hstep]
      exact hinv.items payload (hitems ▸ List.mem_cons_self)
    · -- the session has just been found under its identity
      intro b hb hx
      obtain ⟨a, hl, -⟩ := Option.map_eq_some_iff.mp hnote
      obtain ⟨ha, hax, hai⟩ := Registry.mem_of_lookupSession hl
      obtain ⟨a', ha', hbx, hbi, -⟩ := (onward_section hi.sound hr
        (.note hready hitems hmessage hnote)).each b hb
      have hsame := hi.sound.eq_of_identity ha' ha ((hbx.symm.trans hx).trans hax.symm)
      simp [hbi, hsame, hai]
  | @route payload message routed hrouting hrouted =>
    obtain rfl := Option.some.inj hnext
    simp only [hrouting] at hstage
    refine hinv.step hi.sound hstep ⟨rfl, rfl⟩ (fun _ => .inl)
      ⟨⟨message, _, _, hstage.1, by rw [← hrouted]⟩, ?_⟩
    simpa [trail, Event.reader?] using hstage.2.step hi.sound hstep hinv.below
  | send hreplying =>
    obtain rfl := Option.some.inj hnext
    exact hinv.step hi.sound hstep ⟨rfl, rfl⟩ (fun _ => .inl) trivial

lemma readerInv_new {k : Nat} {limit : Nat} {now : Time} (hs : s.server.registry.Sound)
    (hstep : Step s (.admitted x k) t) :
    ReaderInv (log ++ [.admitted x k]) t k (.new (.new x k limit) now) := by
  rcases step_registry hs hstep with ⟨y, l, link, at', he, -, hadm⟩ | ⟨hne, -⟩
  · obtain ⟨rfl, rfl⟩ := Event.admitted.inj he
    refine ⟨rfl, List.mem_append_right _ List.mem_cons_self, ?_, fun b hb hk => ?_,
      fun p hp => by simp [Reader.new] at hp, trivial⟩
    · rw [hadm.nextId, hadm.number]
      exact Nat.lt_succ_self _
    · rcases hadm.mem_iff.mp hb with rfl | hb
      · rfl
      · exact absurd (hk.trans hadm.number) (Nat.ne_of_lt (hs.below b hb))
  · exact absurd rfl (hne x k)

/-! ### Runs -/

lemma inv_step (hi : Inv log s) (h : Step s e t) : Inv (log ++ [e]) t where
  sound := sound_step hi.sound h
  known j f hmem := by
    refine Nat.lt_of_lt_of_le ?_ (nextId_le hi.sound h)
    rcases List.mem_append.mp hmem with hmem | hmem
    · exact hi.known j f hmem
    · obtain rfl := List.mem_singleton.mp hmem
      cases h with
      | read hr hsec =>
        have hinv := hi.reader _ _ hr
        cases hsec
        exact hinv.below
  frames b hb := by
    rw [feeds_append, Accumulator.intakes_append, config_step hi.sound h]
    rcases step_registry hi.sound h with ⟨x, k, link, now, rfl, -, hadm⟩ | ⟨-, hon⟩
    · have hnone : feeds b.id [.admitted x k] = [] := rfl
      rw [hnone]
      rcases hadm.mem_iff.mp hb with rfl | hb
      · simp only [Session.new, hadm.number, feeds_nextId hi]
        rfl
      · exact hi.frames b hb
    · obtain ⟨a, ha, -, hid, halt⟩ := hon.each b hb
      rw [halt.frames, hi.frames a ha, hid]
  reader j r' hr' := by
    rcases step_reader h hr' with ⟨hr, hne⟩ | ⟨x, now, rfl, rfl⟩ | ⟨r, server, hr, rfl, hsec, rfl⟩
    · exact readerInv_other hi.sound h (hi.reader j r' hr) hne
    · exact readerInv_new hi.sound h
    · exact readerInv_section hi hr hsec

end HomeHub.ServerRuns
