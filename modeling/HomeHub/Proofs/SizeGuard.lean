import Mathlib.Algebra.Order.Floor.Div
import Mathlib.Data.List.Pairwise
import HomeHub.Proofs.ConnectionRuns
import HomeHub.Proofs.FanOuts
import HomeHub.Proofs.HeaderLaws
import HomeHub.Proofs.Sealing

/-!
No client gets a frame that is longer than the registry allows.

Only `Session.send` puts frames into a queue, and it looks at the length of the frame first. What a
session may send is settled at its admission, so a bound for the queue is one for all that is
written behind it: what the sink of a link has taken begins what was queued on that link (`Served`).

The length that counts is that of the frame on the wire. The nonce has no part in it.
-/

namespace HomeHub

/-! ### Lengths -/

/-- The length of the frame of a message of `n` bytes. -/
def Outbox.wireLength (isSealed : Bool) (n : Nat) : Nat :=
  Frame.frameLength (if isSealed then 4 * ((Cipher.nonceLength + n) ⌈/⌉ 3) else n)

namespace Outbox

variable {o : Outbox} {nonce : Nonce} {m : Outbound}

lemma length_prepare :
    (o.prepare nonce m).length = wireLength o.cipher.isEnabled m.bytes.length := by
  rw [prepare, Frame.length_encode, wireLength]
  congr 1
  rcases hkey : o.cipher.key with _ | key
  · simp [Cipher.sealWith, Cipher.isEnabled, hkey]
  · have hcipher : o.cipher = .ofKey key := by rw [Cipher.ofKey, ← hkey]
    rw [hcipher, Cipher.length_sealWith, Nat.ceilDiv_eq_add_pred_div]
    rfl

end Outbox

namespace Session

variable {a : Session} {frame : Bytes} {why : SendFault} {length capacity : Nat}

lemma send_eq_overflow_iff : (a.send frame).1 = .error (.overflow length capacity) ↔
    length = frame.length ∧ capacity = a.sendCapacity ∧ capacity < length := by
  rcases a.send_cases frame with ⟨hlong, h⟩ | ⟨hfits, -, why, hwhy, h⟩ | ⟨htakes, h⟩ <;> rw [h]
  · rw [Except.error.injEq, SendFault.overflow.injEq]
    constructor
    · rintro ⟨rfl, rfl⟩
      exact ⟨rfl, rfl, hlong⟩
    · rintro ⟨rfl, rfl, -⟩
      exact ⟨rfl, rfl⟩
  · constructor
    · rcases hwhy with rfl | ⟨slots, rfl⟩ <;> intro hcontra <;> cases hcontra
    · rintro ⟨rfl, rfl, hlong⟩
      exact absurd hfits (Nat.not_le_of_lt hlong)
  · constructor
    · intro hcontra
      cases hcontra
    · rintro ⟨rfl, rfl, hlong⟩
      exact absurd htakes.1 (Nat.not_le_of_lt hlong)

end Session

namespace Registry

variable {r : Registry}

lemma Sound.sendTo_fst (hs : r.Sound) (o : Outbox) (nonce : Nonce) (x : String) (m : Outbound) :
    (o.sendTo nonce r x m).1 =
      match r.lookup x with
      | none => .error (.unknownClient x)
      | some a => (a.send (o.prepare nonce m)).1.mapError .send := by
  unfold Outbox.sendTo
  rw [hs.send_eq]
  rcases r.lookup x with _ | a
  · rfl
  · rcases hsend : (a.send (o.prepare nonce m)).1 with why | u <;> simp [hsend, Except.mapError]

lemma Sound.send_eq_self (hs : r.Sound) {x : String} {frame : Bytes}
    (h : ∀ a, r.lookup x = some a → ¬ a.Takes frame) : (r.send x frame).2 = r := by
  rw [hs.send_eq]
  refine (mapSessions_congr (g := id) fun a ha => ?_).trans (mapSessions_id r)
  split
  · rename_i hx
    exact (a.send_snd frame).trans (if_neg (h a (hx ▸ hs.lookup_eq ha)))
  · rfl

/-- The frame of a message has this length, and the session may send less. -/
def Exceeds (o : Outbox) (m : Outbound) (a : Session) (length capacity : Nat) : Prop :=
  length = Outbox.wireLength o.cipher.isEnabled m.bytes.length ∧ capacity = a.sendCapacity ∧
    capacity < length

/-- How messages that are too long are refused. -/
structure Refuses (r : Registry) : Prop where
  /-- By the length of the frame alone, whatever the nonce. -/
  sendTo : ∀ (o : Outbox) nonce x (m : Outbound) length capacity,
    (o.sendTo nonce r x m).1 = .error (.send (.overflow length capacity)) ↔
      ∃ a, r.lookup x = some a ∧ Exceeds o m a length capacity
  unsent : ∀ (o : Outbox) nonce x m why, (o.sendTo nonce r x m).1 = .error why →
    (o.sendTo nonce r x m).2 = r
  /-- Each session decides on a message to all as if it were for it alone. -/
  fanOut : ∀ (o : Outbox) nonce (m : Outbound), ∀ a ∈ r.sessions, ∀ length capacity,
    (a.send (o.prepare nonce m)).1 = .error (.overflow length capacity) ↔
      Exceeds o m a length capacity
  passed : ∀ (o : Outbox) nonce m n a why, r.occupant n = some a →
    (a.send (o.prepare nonce m)).1 = .error why → (o.fanOut nonce r m).2.occupant n = some a

lemma send_prepare_eq_overflow_iff {o : Outbox} {nonce : Nonce} {m : Outbound} {a : Session}
    {length capacity : Nat} :
    (a.send (o.prepare nonce m)).1 = .error (.overflow length capacity) ↔
      Exceeds o m a length capacity := by
  rw [Session.send_eq_overflow_iff, Outbox.length_prepare, Exceeds]

theorem Sound.refuses (hs : r.Sound) : Refuses r where
  sendTo o nonce x m length capacity := by
    rw [hs.sendTo_fst]
    rcases hl : r.lookup x with _ | a
    · simp
    · have hiff := @send_prepare_eq_overflow_iff o nonce m a length capacity
      simp only [Option.some.injEq, exists_eq_left', ← hiff]
      rcases hsend : (a.send (o.prepare nonce m)).1 with why | u <;> simp [Except.mapError]
  unsent o nonce x m why h := by
    rw [hs.sendTo_fst] at h
    rw [registry_sendTo, hs.send_eq_self]
    intro a hl htakes
    simp [hl, Session.send_fst_eq_ok_iff.mpr htakes, Except.mapError] at h
  fanOut o nonce m a _ length capacity := send_prepare_eq_overflow_iff
  passed o nonce m n a why ha h := by
    have hnot : ¬ a.Takes (o.prepare nonce m) := by
      rw [← Session.send_fst_eq_ok_iff, h]
      simp
    rw [Outbox.fanOut, occupant_fanOutFrame, ha, Option.map_some, if_neg hnot]

end Registry

namespace ConnectionRuns

open WriterRuns (taken)

variable {config : Registry.Config} {c c' : Connections} {o : Operation} {e : Event}
  {log : List Event} {a : Session} {l : Link} {frames : List Bytes} {frame : Bytes} {n : Nat}

/-! ### What a log tells -/

/-- The frame that a step has for a session. -/
def Operation.offer? (o : Operation) (a : Session) : Option Bytes :=
  match o with
  | task x (.send frame) => if a.identity = x then some frame else none
  | sendTo o nonce x m => if a.identity = x then some (o.prepare nonce m) else none
  | fanOut o nonce m => some (o.prepare nonce m)
  | _ => none

/-- The session that holds a link. -/
def holder (c : Connections) (n : Nat) : Option Session :=
  c.registry.sessions.find? fun a => a.link.any (·.number == n)

/-- The frame that a step queues on a link, if it does. -/
def Event.queuedOn (n : Nat) (e : Event) : Option Bytes :=
  (holder e.before n).bind fun a =>
    (e.operation.offer? a).filter fun frame => Outbox.isQueued (a.send frame)

/-- The frames that were queued on each link, first to last. -/
def framesOn (log : List Event) (n : Nat) : List Bytes := log.filterMap (·.queuedOn n)

lemma framesOn_snoc (log : List Event) (e : Event) :
    framesOn (log ++ [e]) = fun n => framesOn log n ++ (e.queuedOn n).toList := by
  funext n
  rw [framesOn, List.filterMap_append]
  rcases h : e.queuedOn n with _ | frame <;> simp [framesOn, h]

/-! ### Who holds a link -/

lemma mem_of_holder (h : holder c n = some a) :
    a ∈ c.registry.sessions ∧ ∃ l, a.link = some l ∧ l.number = n := by
  refine ⟨List.mem_of_find?_eq_some h, ?_⟩
  simpa [Option.any_eq_true] using List.find?_some h

lemma number_mem (ha : a ∈ c.registry.sessions) (hl : a.link = some l) :
    l.number ∈ c.registry.sessions.filterMap fun a => a.link.map (·.number) :=
  List.mem_filterMap.mpr ⟨a, ha, by rw [hl]; rfl⟩

lemma eq_of_number (hnodup : c.numbers.Nodup) {b : Session} {k : Link}
    (ha : a ∈ c.registry.sessions) (hb : b ∈ c.registry.sessions) (hl : a.link = some l)
    (hk : b.link = some k) (h : k.number = l.number) : b = a := by
  have hpair := (List.nodup_append.mp hnodup).1
  rw [List.Nodup, List.pairwise_filterMap] at hpair
  have hsymm : Std.Symm fun a b : Session => ∀ i, a.link.map (·.number) = some i →
      ∀ j, b.link.map (·.number) = some j → i ≠ j :=
    ⟨fun _ _ h i hi j hj => (h j hj i hi).symm⟩
  by_contra hne
  exact hpair.forall hb ha hne k.number (by rw [hk]; rfl) l.number (by rw [hl]; rfl) h

lemma holder_eq (hnodup : c.numbers.Nodup) (ha : a ∈ c.registry.sessions) (hl : a.link = some l) :
    holder c l.number = some a := by
  rcases h : holder c l.number with _ | b
  · have hany := List.find?_eq_none.mp h a ha
    simp [hl] at hany
  · obtain ⟨hb, k, hk, hnumber⟩ := mem_of_holder h
    rw [eq_of_number hnodup ha hb hl hk hnumber]

lemma holder_eq_none (h : n ∉ c.registry.sessions.filterMap fun a => a.link.map (·.number)) :
    holder c n = none := by
  rcases hh : holder c n with _ | a
  · rfl
  · obtain ⟨ha, l, hl, rfl⟩ := mem_of_holder hh
    exact absurd (number_mem ha hl) h

lemma queuedOn_of_holder (h : holder e.before n = some a) : e.queuedOn n =
    (e.operation.offer? a).filter fun frame => a.Takes frame := by
  simp only [Event.queuedOn, h, Option.bind_some, Session.isQueued_send]

lemma queuedOn_eq_none (h : holder e.before n = none) : e.queuedOn n = none := by
  rw [Event.queuedOn, h, Option.bind_none]

lemma offer?_of_ends (h : o.ends a = true) : o.offer? a = none := by
  cases o with
  | task | sendTo | fanOut => cases h
  | _ => rfl

lemma send_change_cases (a : Session) (frame : Bytes) :
    (∃ f, (some frame).filter (fun f => a.Takes f) = some f ∧ a.Takes f ∧
      (a.send frame).2 = a.push f) ∨
    (some frame).filter (fun f => a.Takes f) = none ∧ (a.send frame).2.link = a.link.map id := by
  rw [Session.send_snd, Option.map_id, id]
  split
  · rename_i htakes
    exact .inl ⟨frame, by simp [htakes], htakes, rfl⟩
  · rename_i hnot
    exact .inr ⟨by simp [hnot], rfl⟩

lemma change_cases (o : Operation) (a : Session) :
    (∃ frame, (o.offer? a).filter (fun frame => a.Takes frame) = some frame ∧
      a.Takes frame ∧ o.change a = a.push frame) ∨
    (o.offer? a).filter (fun frame => a.Takes frame) = none ∧
      (o.change a).link = a.link.map o.changeLink := by
  have hsame : a.link = a.link.map id := by rw [Option.map_id, id]
  cases o with
  | task x t =>
    by_cases hx : a.identity = x
    · cases t with
      | send frame =>
        simp only [Operation.offer?, Operation.change, if_pos hx]
        exact send_change_cases a frame
      | _ =>
        simp only [Operation.change, if_pos hx]
        exact .inr ⟨rfl, hsame⟩
    · simp only [Operation.change, if_neg hx]
      cases t with
      | send frame =>
        simp only [Operation.offer?, if_neg hx]
        exact .inr ⟨rfl, hsame⟩
      | _ => exact .inr ⟨rfl, hsame⟩
  | sendTo o nonce x m =>
    simp only [Operation.offer?, Operation.change]
    split
    · exact send_change_cases a _
    · exact .inr ⟨rfl, hsame⟩
  | fanOut o nonce m => exact send_change_cases a _
  | write n w => exact .inr ⟨rfl, rfl⟩
  | _ => exact .inr ⟨rfl, hsame⟩

/-! ### The writer of a link -/

/-- These frames were queued on a link, and its writer has done with them what a writer does. -/
structure Served (frames : List Bytes) (l : Link) : Prop where
  inv : ∃ slots, WriterRuns.Inv slots frames l.sink.log l.writer
  queue : ∀ frame ∈ l.writer.queue, frame ∈ frames

lemma served_new {t : Transport} (h : t.sink.log = []) : Served [] (c.nextLink t) where
  inv := ⟨t.slots, h ▸ WriterRuns.inv_new t.slots⟩
  queue _ h := h

lemma served_release (h : Served frames l) {close : CloseSignal} :
    Served frames { l with writer := l.writer.release, close } where
  inv := h.inv.imp fun _ hi => WriterRuns.inv_release hi
  queue := h.queue

lemma served_progress (h : Served frames l) (n : Nat) (w : Writer.Event) :
    Served frames (progress n w l) := by
  unfold progress
  split
  · obtain ⟨slots, hi⟩ := h.inv
    refine ⟨⟨slots, WriterRuns.inv_moves hi (l.writer.moves_step w)⟩, fun frame hmem => ?_⟩
    exact h.queue frame ((l.writer.queue_step w).subset hmem)
  · exact h

lemma held_changeLink (o : Operation) (l : Link) :
    (o.changeLink l).writer.held = l.writer.held := by
  cases o with
  | write n w =>
    simp only [Operation.changeLink, progress]
    split
    · exact (l.writer.moves_step w).held
    · rfl
  | _ => rfl

lemma served_changeLink (h : Served frames l) (o : Operation) :
    Served frames (o.changeLink l) := by
  cases o with
  | write n w => exact served_progress h n w
  | _ => exact h

lemma served_push (h : Served frames l) (hheld : l.writer.held = true)
    (hgone : l.writer.isGone = false) (hroom : l.writer.queue.length < l.writer.slots)
    (frame : Bytes) : Served (frames ++ [frame])
      { l with writer := { l.writer with queue := l.writer.queue ++ [frame] } } where
  inv := h.inv.imp fun _ hi => WriterRuns.inv_queued hi hheld hgone hroom frame
  queue f hf := by
    rcases List.mem_append.mp hf with hf | hf
    · exact List.mem_append_left _ (h.queue f hf)
    · exact List.mem_append_right _ hf

/-! ### The invariant -/

/-- After these frames have been queued on the links. -/
structure Inv (config : Registry.Config) (frames : Nat → List Bytes) (c : Connections) : Prop where
  linked : Linked config c
  capacity : ∀ a ∈ c.registry.sessions, a.sendCapacity = config.bufferCapacity
  held : ∀ a ∈ c.registry.sessions, ∀ l, a.link = some l →
    l.writer.held = true ∧ Served (frames l.number) l
  released : ∀ l ∈ c.released, Served (frames l.number) l
  unmade : ∀ n, c.made ≤ n → frames n = []
  short : ∀ n, ∀ frame ∈ frames n, frame.length ≤ config.bufferCapacity

variable {queued : Nat → List Bytes}

namespace Inv

lemma holder_unmade (hi : Inv config queued c) (h : c.made ≤ n) : holder c n = none :=
  holder_eq_none fun hmem =>
    Nat.not_lt_of_le h (hi.linked.lt_made (List.mem_append_left _ hmem))

lemma holder_released (hi : Inv config queued c) (hl : l ∈ c.released) : holder c l.number = none :=
  holder_eq_none fun hmem => (List.nodup_append.mp hi.linked.nodup).2.2 _ hmem _
    (List.mem_map_of_mem hl) rfl

lemma short_queuedOn (hi : Inv config queued c) (h : Event.queuedOn n ⟨o, c⟩ = some frame) :
    frame.length ≤ config.bufferCapacity := by
  obtain ⟨a, ha, hoffer⟩ := Option.bind_eq_some_iff.mp h
  obtain ⟨-, hqueued⟩ := Option.filter_eq_some_iff.mp hoffer
  rw [Session.isQueued_send, decide_eq_true_eq] at hqueued
  exact hi.capacity a (mem_of_holder ha).1 ▸ hqueued.1

end Inv

lemma inv_new (config : Registry.Config) : Inv config (framesOn []) (.new config) := by
  have hsessions : (Connections.new config).registry.sessions = [] :=
    RegistryRuns.sessions_new config
  refine ⟨linked_new config, ?_, ?_, fun _ h => (List.not_mem_nil h).elim, fun _ _ => rfl,
    fun _ _ h => (List.not_mem_nil h).elim⟩ <;> simp [hsessions]

/-! ### Steps -/

lemma served_carried (hi : Inv config queued c) (ha : a ∈ c.registry.sessions) {k : Link}
    (hk : (o.change a).link = some k) : k.writer.held = true ∧
      Served (queued k.number ++ (Event.queuedOn k.number ⟨o, c⟩).toList) k := by
  obtain ⟨l, hl, hnumber⟩ : ∃ l, a.link = some l ∧ l.number = k.number := by
    have hsame := (kept_change o a).number
    rw [hk] at hsame
    exact Option.map_eq_some_iff.mp hsame.symm
  obtain ⟨hheld, hserved⟩ := hi.held a ha l hl
  rw [← hnumber, queuedOn_of_holder (holder_eq hi.linked.nodup ha hl)]
  rcases change_cases o a with ⟨frame, hoffer, htakes, hchange⟩ | ⟨hoffer, hchange⟩
  · obtain ⟨-, l', hl', hgone, hroom⟩ := htakes
    obtain rfl : l = l' := Option.some.inj (hl.symm.trans hl')
    rw [hchange, Session.push, hl, Option.map_some, Option.some.injEq] at hk
    rw [hoffer, ← hk]
    exact ⟨hheld, served_push hserved hheld hgone hroom frame⟩
  · rw [hchange, hl, Option.map_some, Option.some.injEq] at hk
    rw [hoffer, ← hk, Option.toList_none, List.append_nil]
    exact ⟨(held_changeLink o l).trans hheld, served_changeLink hserved o⟩

lemma inv_carries (hi : Inv config queued c) (hlinked : Linked config c') (h : Carries o c c') :
    Inv config (fun n => queued n ++ (Event.queuedOn n ⟨o, c⟩).toList) c' where
  linked := hlinked
  capacity b hb := by
    rw [h.sessions] at hb
    obtain ⟨a, ha, rfl⟩ := List.mem_map.mp hb
    rw [(kept_change o a).sendCapacity]
    exact hi.capacity a (List.mem_of_mem_filter ha)
  held b hb k hk := by
    rw [h.sessions] at hb
    obtain ⟨a, ha, rfl⟩ := List.mem_map.mp hb
    exact served_carried hi (List.mem_of_mem_filter ha) hk
  released k hk := by
    rw [h.released, List.mem_append] at hk
    rcases hk with hk | hk
    · obtain ⟨l, hl, rfl⟩ := List.mem_map.mp hk
      rw [number_changeLink, queuedOn_eq_none (hi.holder_released hl), Option.toList_none,
        List.append_nil]
      exact served_changeLink (hi.released l hl) o
    · -- the session has ended, so it is not offered anything
      obtain ⟨a, ha, hk⟩ := List.mem_filterMap.mp hk
      obtain ⟨ha, hends⟩ := List.mem_filter.mp ha
      obtain ⟨l, hl, rfl⟩ := Option.map_eq_some_iff.mp hk
      rw [show l.signal.number = l.number from rfl,
        queuedOn_of_holder (holder_eq hi.linked.nodup ha hl), offer?_of_ends hends,
        Option.filter_none, Option.toList_none, List.append_nil]
      exact served_release (hi.held a ha l hl).2
  unmade n hn := by
    rw [h.made] at hn
    rw [hi.unmade n hn, queuedOn_eq_none (hi.holder_unmade hn)]
    rfl
  short n frame hmem := by
    rw [List.mem_append, Option.mem_toList] at hmem
    rcases hmem with hmem | hmem
    · exact hi.short n frame hmem
    · exact hi.short_queuedOn hmem

lemma inv_enrolls {x : String} {transport : Option Transport} {now : Time}
    (hi : Inv config queued c) (hlinked : Linked config c')
    (hfresh : ∀ t ∈ transport, t.sink.log = []) (h : Enrolls x transport now c c') :
    Inv config queued c' := by
  have hnew : ∀ t ∈ transport, Served (queued c.made) (c.nextLink t) := by
    intro t ht
    rw [hi.unmade c.made (Nat.le_refl _)]
    exact served_new (hfresh t ht)
  have hunmade : ∀ n, c'.made ≤ n → queued n = [] := by
    rw [h.made]
    exact fun n hn => hi.unmade n (Nat.le_of_add_right_le hn)
  rcases h.seated with ⟨k, hadmits, hreleased⟩ | ⟨hsame, hreleased⟩
  · refine ⟨hlinked, fun b hb => ?_, fun b hb l hl => ?_, hreleased ▸ hi.released, hunmade,
      hi.short⟩
    · rcases hadmits.mem_iff.mp hb with rfl | hb
      · exact congrArg Registry.Config.bufferCapacity hi.linked.fixed
      · exact hi.capacity b hb
    · rcases hadmits.mem_iff.mp hb with rfl | hb
      · obtain ⟨t, ht, rfl⟩ := Option.map_eq_some_iff.mp hl
        exact ⟨rfl, hnew t ht⟩
      · exact hi.held b hb l hl
  · refine ⟨hlinked, hsame ▸ hi.capacity, hsame ▸ hi.held, fun l hl => ?_, hunmade, hi.short⟩
    rw [hreleased, List.mem_append, List.mem_map] at hl
    rcases hl with hl | ⟨l, hl, rfl⟩
    · exact hi.released l hl
    · obtain ⟨t, ht, rfl⟩ := Option.map_eq_some_iff.mp (Option.mem_toList.mp hl)
      exact served_release (hnew t ht)

lemma inv_step (hi : Inv config (framesOn log) c) (h : Step c e c') :
    Inv config (framesOn (log ++ [e])) c' := by
  obtain ⟨o, hfresh⟩ := h
  have hlinked := linked_run hi.linked o
  rw [framesOn_snoc]
  rcases run_cases hi.linked.sound o with ⟨x, transport, now, rfl, h⟩ | h
  · have hnone (n : Nat) : Event.queuedOn n ⟨.enroll x transport now, c⟩ = none := by
      rw [Event.queuedOn]
      rcases holder c n <;> rfl
    simp only [hnone, Option.toList_none, List.append_nil]
    exact inv_enrolls hi hlinked hfresh h
  · exact inv_carries hi hlinked h

/-! ### Results -/

/-- What is to be said of a registry with its links after a run. -/
structure Guarded (log : List Event) (c : Connections) : Prop where
  /-- Of a link that a session holds, and of a released one. -/
  queued : ∀ l ∈ c.links, ∀ frame ∈ l.writer.queue,
    frame.length ≤ c.registry.config.bufferCapacity
  /-- What the peer has got are the frames that were queued for it, one after the other. -/
  written : ∀ l ∈ c.links, taken l.sink.log <+: (framesOn log l.number).flatten
  short : ∀ n, ∀ frame ∈ framesOn log n, frame.length ≤ c.registry.config.bufferCapacity
  refuses : c.registry.Refuses

/-- **No frame is longer than the registry allows.** Whoever comes and goes and whatever is sent,
the frames that wait for a client or have been written to it are within the bound. Whether a message
is within it is settled by the length of its text and by whether there is a key; if it is not, it
is refused with the length of its frame, and all stays as it was. -/
theorem guarded_of_run (hrun : Run Step (.new config) log c) : Guarded log c := by
  have hi : Inv config (framesOn log) c :=
    hrun.invariant (I := fun log c => Inv config (framesOn log) c) (inv_new config) inv_step
  have hserved : ∀ l ∈ c.links, Served (framesOn log l.number) l := by
    intro l hl
    rcases Connections.mem_links_iff.mp hl with ⟨a, ha, hl⟩ | hl
    · exact (hi.held a ha l hl).2
    · exact hi.released l hl
  rw [← hi.linked.fixed] at hi
  refine ⟨fun l hl frame hmem => ?_, fun l hl => ?_, hi.short, hi.linked.sound.refuses⟩
  · exact hi.short l.number frame ((hserved l hl).queue frame hmem)
  · obtain ⟨slots, hinv⟩ := (hserved l hl).inv
    exact hinv.taken_first

def client : String := "10.0.0.2:5000"

def probe : Outbound := .heartbeat "" client

/-- A probe is sent to a client, whose peer has then taken 20 bytes of it. -/
def probing : List Operation :=
  [.enroll client (some ⟨4, .eager⟩) 0, .sendTo ⟨.disabled⟩ (.ofNat 0) client probe,
    .write 0 .take, .write 0 (.accept 20)]

/-- Where a frame has 60 bytes at most, a probe of 54 may be sent; sealed it would have 95. -/
theorem guarded_of_run_probing :
    let played := Run.play act (.new ⟨1, 60, 5000⟩) probing
    Run Step (.new ⟨1, 60, 5000⟩) played.1 played.2 ∧ Guarded played.1 played.2 ∧
      (framesOn played.1 0).map List.length = [54] ∧
      (played.2.links.map fun l => (taken l.sink.log).length) = [20] ∧
      ∀ key nonce, ((⟨.ofKey key⟩ : Outbox).sendTo nonce played.2.registry client probe).1 =
        .error (.send (.overflow 95 60)) := by
  intro played
  have hfresh : ∀ o ∈ probing, o.Fresh := by simp [probing, Operation.Fresh, Sink.eager, Sink.new]
  have hrun := run_play (.new ⟨1, 60, 5000⟩) probing hfresh
  have hguarded := guarded_of_run hrun
  refine ⟨hrun, hguarded, by decide +kernel, by decide +kernel, fun key nonce => ?_⟩
  have hsize : (played.2.registry.lookup client).map (·.sendCapacity) = some 60 := by
    decide +kernel
  obtain ⟨a, ha, hsize⟩ := Option.map_eq_some_iff.mp hsize
  have hlength : Outbox.wireLength true probe.bytes.length = 95 := by decide +kernel
  exact (hguarded.refuses.sendTo ⟨.ofKey key⟩ nonce client probe 95 60).mpr
    ⟨a, ha, hlength.symm, hsize.symm, by decide⟩

end ConnectionRuns

end HomeHub
