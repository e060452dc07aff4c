import HomeHub.Proofs.Histories
import HomeHub.Proofs.JsonText
import HomeHub.Proofs.Sealing

/-!
One reply for each message, in order.

What the read task of a session puts to the service, and what it hands over in reply, is told by the
history of the server (`Chronicle`). Here the messages are those of the frames that a scan of the
stream reads, a reply has the type and the id of its message (`Proper`), and the frames of the
replies can be read by a client (`Recovers`): they are no longer than its buffer, and what is sealed
opens. Only a frame with a header of more than ten digits, though it may be sent, cannot be read.
-/

namespace HomeHub

/-! ### Headers -/

namespace Frame

/-- The bytes in front of the first semicolon. -/
def header (frame : Bytes) : Bytes := frame.takeWhile (· != delimiter)

lemma header_encode (payload : Bytes) :
    header (encode payload) = numeral (Decimal.digits payload.length) := by
  have hdigits : ∀ b ∈ numeral (Decimal.digits payload.length), (b != delimiter) = true := by
    intro b hb
    refine bne_iff_ne.mpr fun hd => ?_
    rw [hd] at hb
    exact delimiter_notMem_numeral (fun _ => Decimal.lt_of_mem_digits) hb
  rw [header, encode_eq, List.takeWhile_append_of_pos hdigits, List.takeWhile_cons]
  simp

lemma length_lt_of_header {payload : Bytes}
    (h : (header (encode payload)).length ≤ maxHeaderDigits) :
    payload.length < 10 ^ maxHeaderDigits := by
  rw [header_encode, length_numeral] at h
  exact (Decimal.lt_pow_length_digits _).trans_le (Nat.pow_le_pow_right (by decide) h)

end Frame

lemma Cipher.opens (c : Cipher) (nonce : Nonce) (plain : Bytes) :
    c.openSealed (c.sealWith nonce plain) = .ok plain := by
  rcases c with ⟨_ | key⟩
  · rfl
  · exact openSealed_sealWith

namespace ServerRuns

open Accumulator (Feed Roomy Unbroken Drained content)

variable {σ δ : Type} {s t : St σ δ} {h : List (Moment σ δ)} {i : Nat} {server : Server σ δ}
  {a : Session}

/-! ### Replies -/

/-- The members of a document that is a message: the type is one that a client may send, and the id
is empty unless the document has a string for it. -/
structure Says (members : List (String × Json)) (message : Inbound) : Prop where
  inbound : message.command.isInbound = true
  type : Json.member? "type" members = some (.string message.command.wire)
  id : Json.member? "id" members = some (.string message.id) ∨
    message.id = "" ∧ ∀ id, Json.member? "id" members ≠ some (.string id)

lemma wire_ofWire {name : String} (h : Command.ofWire name ≠ .unrecognized) :
    (Command.ofWire name).wire = name := by
  unfold Command.ofWire at h ⊢
  split_ifs at h ⊢ <;> simp_all [Command.wire]

lemma idOf_cases (members : List (String × Json)) :
    Json.member? "id" members = some (.string (Inbound.idOf members)) ∨
      Inbound.idOf members = "" ∧ ∀ id, Json.member? "id" members ≠ some (.string id) := by
  unfold Inbound.idOf
  split
  · rename_i id hid
    exact .inl hid
  · rename_i hno
    exact .inr ⟨rfl, hno⟩

lemma says_ofMembers {members : List (String × Json)} {message : Inbound}
    (hm : Inbound.ofMembers members = .ok message) : Says members message := by
  unfold Inbound.ofMembers at hm
  split at hm
  · rename_i name htype
    split at hm
    · cases hm
    · cases hm
    · rename_i hrecognised hsendable
      obtain rfl := Except.ok.inj hm
      refine ⟨?_, ?_, idOf_cases members⟩
      · show (Command.ofWire name).isInbound = true
        cases hc : Command.ofWire name <;> simp_all [Command.isInbound]
      · rw [wire_ofWire hrecognised]
        exact htype
  · cases hm

lemma exists_says {payload : Bytes} {message : Inbound}
    (hm : understood server payload = some message) :
    ∃ plain members, server.outbox.cipher.openSealed payload = .ok plain ∧
      Json.ofBytes? plain = some (.object members) ∧ Says members message := by
  unfold understood at hm
  split at hm
  · rename_i plain hplain
    rcases hparse : Inbound.parse plain with why | message'
    · simp [hparse, Except.toOption] at hm
    · simp only [hparse, Except.toOption, Option.some.injEq] at hm
      subst hm
      unfold Inbound.parse at hparse
      split at hparse
      · cases hparse
      · rename_i members hjson
        exact ⟨plain, members, hplain, hjson, says_ofMembers hparse⟩
      · cases hparse
  · cases hm

section

variable [Service σ]

/-- The service is absent, is not ready, or fails. -/
def Unserved (q : Question σ) : Prop :=
  ∀ state, q.service = some state → Service.isReady state = true →
    ∃ why, (Service.handle state q.message.command q.message.body).result = .error why

/-- A reply has the type and the id of the message, or it is an error notice; and this only to a
message for the service, when that does not serve it. -/
inductive Proper (x : String) (q : Question σ) : Outbound → Prop
  | answer (data : Option Json) : Proper x q (.reply (some q.message.id) x q.message.command data)
  | notice (text : String) : q.message.command.isDomain = true → Unserved q →
      Proper x q (.error x text)

lemma proper_forward {x : String} {q : Question σ} (hdomain : q.message.command.isDomain = true) :
    Proper x q (Dispatcher.forward q.service x q.message).reply := by
  unfold Dispatcher.forward
  split
  · rename_i hnone
    exact .notice _ hdomain fun state hstate => by simp [hnone] at hstate
  · rename_i state hsome
    split
    · split
      · exact .answer _
      · rename_i why _ _ hfailed
        refine .notice _ hdomain fun state' hstate _ => ⟨why, ?_⟩
        obtain rfl := Option.some.inj (hsome.symm.trans hstate)
        rw [hfailed]
    · rename_i hready
      refine .notice _ hdomain fun state' hstate hready' => ?_
      obtain rfl := Option.some.inj (hsome.symm.trans hstate)
      exact absurd hready' hready

lemma proper_reply {x : String} {q : Question σ} (hm : q.message.command.isInbound = true) :
    Proper x q (reply server x q) := by
  unfold reply Dispatcher.route
  cases hc : q.message.command with
  | heartbeat =>
    simp only
    rw [Outbound.heartbeat, ← hc]
    exact .answer none
  | identity =>
    simp only
    rw [Outbound.answer, ← hc]
    exact .answer _
  | configure | query => exact proper_forward (by rw [hc]; rfl)
  | error | unrecognized =>
    rw [hc] at hm
    cases hm

end

/-! ### Clients -/

/-- The payloads that a client gets open, one after the other, to the texts of the replies. -/
def Recovers (server : Server σ δ) (replies : List Outbound) (items : List Item) : Prop :=
  items.map (Except.map server.outbox.cipher.openSealed) =
    replies.map fun reply => .ok (.ok reply.bytes)

lemma exists_payloads {size capacity : Nat} {replies : List Outbound} {frames : List Bytes}
    (hframes : List.Forall₂ (Framed server size) replies frames) (hsize : size ≤ capacity)
    (hshort : ∀ frame ∈ frames, (Frame.header frame).length ≤ Frame.maxHeaderDigits) :
    ∃ payloads : List Bytes, frames = payloads.map Frame.encode ∧
      (∀ p ∈ payloads, (Span.frame p).Valid capacity) ∧
      Recovers server replies (payloads.map .ok) := by
  induction hframes with
  | nil => exact ⟨[], rfl, by simp, rfl⟩
  | @cons reply frame replies frames hframe _ ih =>
    rw [List.forall_mem_cons] at hshort
    obtain ⟨payloads, rfl, hvalid, hrecovers⟩ := ih hshort.2
    obtain ⟨hlength, nonce, rfl⟩ := hframe
    refine ⟨server.outbox.cipher.sealWith nonce reply.bytes :: payloads, rfl, ?_, ?_⟩
    · rw [List.forall_mem_cons]
      refine ⟨⟨?_, Frame.length_lt_of_header hshort.1⟩, hvalid⟩
      rw [← Frame.length_encode]
      exact hlength.trans hsize
    · unfold Recovers at hrecovers ⊢
      rw [List.map_cons, List.map_cons, List.map_cons, hrecovers, Except.map, Cipher.opens]

/-- A client that takes in the frames, in whatever pieces it has room for or one by one, gets the
texts of the replies. -/
lemma recovers_intakes {size capacity staleAfter : Nat} {replies : List Outbound}
    {frames : List Bytes} {feeds : List Feed} (hpos : 1 ≤ size)
    (hframes : List.Forall₂ (Framed server size) replies frames) (hsize : size ≤ capacity)
    (hshort : ∀ frame ∈ frames, (Frame.header frame).length ≤ Frame.maxHeaderDigits)
    (hfed : feeds.map Feed.data = frames ∨ content feeds = frames.flatten ∧
      Roomy (.new capacity staleAfter) feeds ∧ Unbroken (.new capacity staleAfter) feeds) :
    Recovers server replies ((Accumulator.new capacity staleAfter).intakes feeds).1 := by
  obtain ⟨payloads, rfl, hvalid, hrecovers⟩ := exists_payloads hframes hsize hshort
  have hd : Drained (Accumulator.new capacity staleAfter) :=
    Accumulator.drained_new (hpos.trans hsize)
  have hc : (Accumulator.new capacity staleAfter).Clear := ⟨rfl, rfl⟩
  obtain ⟨hcut, hroom, htime⟩ : content feeds = payloads.flatMap Frame.encode ∧
      Roomy (.new capacity staleAfter) feeds ∧ Unbroken (.new capacity staleAfter) feeds := by
    rcases hfed with hwhole | hcut
    · refine ⟨?_, Accumulator.roomy_frames hd hc hvalid hwhole⟩
      rw [content, List.flatMap, hwhole, ← List.flatMap]
    · rwa [List.flatMap]
  rw [Accumulator.intakes_frames hd hc hvalid hcut htime hroom]
  exact hrecovers

/-! ### One message -/

section

variable [Service σ] [Flash δ] {payload : Bytes} {message : Inbound}

omit [Service σ] [Flash δ] in
lemma handed_eq_nil (hne : ∀ payload, .sent i payload ∉ logOf h) : handed i h = [] := by
  refine List.filterMap_eq_nil_iff.mpr fun m hm => ?_
  unfold Moment.reply?
  split
  · rename_i j payload hevent
    refine if_neg fun hj => hne payload ?_
    rw [← hj, ← hevent]
    exact List.mem_map_of_mem hm
  · rfl

omit [Service σ] [Flash δ] in
lemma delivers_of_quiet (hne : ∀ payload, .sent i payload ∉ logOf h) : ∀ m ∈ h, m.Delivers i := by
  intro m hm payload _ _ hevent
  refine absurd ?_ (hne payload)
  rw [← hevent]
  exact List.mem_map_of_mem hm

omit [Service σ] [Flash δ] in
lemma service_connect (s : St σ δ) (x : String) :
    (s.connect x).server.service = s.server.service := by
  simp only [St.connect, Server.accept]
  split <;> rfl

omit [Service σ] [Flash δ] in
lemma receive_eq (hs : s.server.registry.Sound) (ha : a ∈ s.sessions) (room limit : Nat)
    (f : Feed) : ReadTask.receive ⟨a.identity, a.id, room⟩ limit s.server.registry f.data f.time =
      some ⟨(a.frames.intake f).1,
        ⟨a.identity, a.id, ReadTask.roomFor limit (a.frames.intake f).2⟩,
        s.server.registry.modify a.identity fun b =>
          { b with frames := (a.frames.intake f).2 }⟩ :=
  Option.map_eq_some_iff.mpr ⟨a, hs.lookupSession_eq ha, rfl⟩

/-- What a server has come to once a client has connected and its first frame is read. -/
structure FirstRead (server : Server σ δ) (payload : Bytes) (s : St σ δ) (r : Reader)
    (a : Session) : Prop where
  run : Run Step (opened server) [.admitted peer server.registry.nextId,
    .received server.registry.nextId ⟨Frame.encode payload, 0⟩] s
  reader : s.readers r.task.session = some r
  task : r.task.identity = peer ∧ r.task.session = server.registry.nextId
  stage : r.stage = .ready ∧ r.items = [.ok payload] ∧ r.now = 0
  session : a ∈ s.sessions ∧ a.identity = peer ∧ a.id = server.registry.nextId
  free : a.sendCapacity = server.registry.config.bufferCapacity ∧
    ∃ number slots sink, a.link = some (.new number slots sink)
  server : s.server.service = server.service ∧ s.server.dispatcher = server.dispatcher ∧
    s.server.outbox = server.outbox ∧ frameOf s.server = frameOf server

lemma exists_firstRead (hnew : server.registry.sessions = [])
    (hfree : none ∈ server.registry.slots)
    (hvalid : (Span.frame payload).Valid server.registry.config.bufferCapacity) :
    ∃ s r a, FirstRead server payload s r a := by
  set k := server.registry.nextId with hk
  set f : Feed := ⟨Frame.encode payload, 0⟩ with hf
  have hx : ∀ a ∈ (opened server).sessions, a.identity ≠ peer := by
    intro a ha
    have : a ∈ server.registry.sessions := ha
    simp [hnew] at this
  obtain ⟨hconnect, hmem⟩ := step_connect hx hfree
  have hi₁ : Inv [.admitted peer k] ((opened server).connect peer) :=
    inv_step (inv_opened hnew) hconnect
  obtain ⟨houtbox, hdispatcher⟩ := step_frame hconnect
  have hservice := service_connect (opened server) peer
  have hframe := frameOf_connect (opened server) peer
  set s₁ := (opened server).connect peer
  set a := (opened server).newcomer peer with ha
  set r : Reader := .new (.new peer k server.registry.config.bufferCapacity) 0
  have hr : s₁.readers r.task.session = some r := Function.update_self ..
  have hlength : f.data.length ≤ server.registry.config.bufferCapacity := by
    rw [hf, Frame.length_encode]
    exact hvalid.1
  have hpos : 0 < f.data.length := by
    rw [hf, Frame.length_encode, Frame.frameLength, Frame.headerLength]
    omega
  have hitems : (a.frames.intake f).1 = [.ok payload] :=
    Accumulator.intake_frame (Accumulator.drained_new (hpos.trans_le hlength)) ⟨rfl, rfl⟩ hvalid
      rfl
  have hgot := receive_eq hi₁.sound hmem server.registry.config.bufferCapacity
    s₁.config.bufferCapacity f
  have hread := Step.read (r := r) hr (.receive (f := f) ⟨rfl, rfl⟩ hpos hlength hgot)
  set task : ReadTask :=
    ⟨peer, k, ReadTask.roomFor s₁.config.bufferCapacity (a.frames.intake f).2⟩
  refine ⟨_, ⟨task, .ready, (a.frames.intake f).1, 0⟩,
    { a with frames := (a.frames.intake f).2 }, (Run.nil.snoc hconnect).snoc hread,
    Function.update_self .., ⟨rfl, rfl⟩, ⟨rfl, hitems, rfl⟩, ⟨?_, rfl, rfl⟩, ⟨rfl, _, _, _, rfl⟩,
    hservice, hdispatcher, houtbox, hframe⟩
  · exact @Registry.mem_modify _ _ _ (fun b : Session =>
      { b with frames := (a.frames.intake f).2 }) hmem rfl

/-- What a server has come to when the reply to the first message is about to be queued. -/
structure FirstReply (server : Server σ δ) (payload : Bytes) (reply : Outbound)
    (h : List (Moment σ δ)) (s : St σ δ) (r : Reader) (a : Session) : Prop where
  run : Run Takes (opened server) h s
  fed : feeds r.task.session (logOf h) = [⟨Frame.encode payload, 0⟩]
  quiet : ∀ payload, .sent r.task.session payload ∉ logOf h
  reader : s.readers r.task.session = some r
  stage : r.stage = .replying payload reply
  session : a ∈ s.sessions ∧ a.identity = r.task.identity ∧ a.id = r.task.session
  sends : (a.send (frameOf s.server reply)).1 = .ok ()

lemma exists_firstReply (hnew : server.registry.sessions = [])
    (hfree : none ∈ server.registry.slots) (hmessage : understood server payload = some message)
    (hvalid : (Span.frame payload).Valid server.registry.config.bufferCapacity)
    (hfits : (frameOf server (reply server peer ⟨message, server.service, 0⟩)).length ≤
      server.registry.config.bufferCapacity) :
    ∃ h s r a, FirstReply server payload (reply server peer ⟨message, server.service, 0⟩)
      h s r a := by
  obtain ⟨s, r, a, hrun, hr, ⟨hx, hk⟩, ⟨hready, hitems, hnow⟩, ⟨ha, hax, hak⟩,
    ⟨hsize, number, slots, sink, hlink⟩, hservice, hdispatcher, houtbox, hframe⟩ :=
    exists_firstRead hnew hfree hvalid
  have hi : Inv _ s := hrun.invariant (inv_opened hnew) inv_step
  obtain ⟨registry, hnote, b, hb, hbid, hbx, hbl, hbs⟩ :=
    Dispatcher.exists_noteActivity hi.sound ha message.command r.now
  rw [hax, hak, ← hx, ← hk] at hnote
  have hrouted : (s.server.dispatcher.route s.server.service r.task.identity message r.now).reply =
      reply server peer ⟨message, server.service, 0⟩ := by
    rw [hservice, hdispatcher, hx, hnow]
    rfl
  have hasked := hrun.trans (run_answered hr hready hitems
    ((understood_congr houtbox payload).trans hmessage) hnote rfl)
  obtain ⟨h, hlog, hhistory⟩ := exists_history hasked
  refine ⟨h, _, { r with stage := .replying payload _, items := [] }, b, hhistory, ?_, ?_,
    Function.update_self .., congrArg _ hrouted,
    ⟨hb, hbx.trans (hax.trans hx.symm), hbid.trans (hak.trans hk.symm)⟩, ?_⟩
  · rw [hlog]
    simp [feeds, hk]
  · simp [hlog]
  · refine Session.send_of_new (hbl.trans hlink) ?_
    rw [hbs, hsize]
    -- the outbox is what it was
    show (frameOf s.server _).length ≤ _
    rw [hframe]
    exact hfits

lemma exists_exchange (hnew : server.registry.sessions = []) (hfree : none ∈ server.registry.slots)
    (hmessage : understood server payload = some message)
    (hvalid : (Span.frame payload).Valid server.registry.config.bufferCapacity)
    (hfits : (frameOf server (reply server peer ⟨message, server.service, 0⟩)).length ≤
      server.registry.config.bufferCapacity) :
    ∃ (h : List (Moment σ δ)) (s : St σ δ), ∃ a ∈ s.sessions, Run Takes (opened server) h s ∧
      feeds a.id (logOf h) = [⟨Frame.encode payload, 0⟩] ∧ (∀ m ∈ h, m.Delivers a.id) ∧
      handed a.id h = [reply server peer ⟨message, server.service, 0⟩] := by
  obtain ⟨h, s, r, a, hrun, hfed, hquiet, hr, hstage, ⟨ha, hx, hid⟩, hsends⟩ :=
    exists_firstReply hnew hfree hmessage hvalid hfits
  have hsound : s.server.registry.Sound :=
    ((run_log hrun).invariant (inv_opened hnew) inv_step).sound
  set answer := reply server peer ⟨message, server.service, 0⟩
  set frame := frameOf s.server answer
  have hreply : r.reply? = some answer := by simp [Reader.reply?, hstage]
  have hsent := (Registry.sendTo_eq_ok_iff hsound ha).mpr hsends
  rw [hx] at hsent
  set t : St σ δ := ⟨s.server.reply r.task.identity answer, _⟩
  have hsend : Step s (.sent r.task.session payload) t := .read hr (.send hstage)
  have hid' : (a.send frame).2.id = r.task.session := (a.sameButQueue_send frame).id.trans hid
  refine ⟨h ++ [⟨s, .sent r.task.session payload, t⟩], t, (a.send frame).2,
    mem_reply hsound ha hx answer, hrun.snoc ⟨rfl, rfl, hsend⟩, ?_, ?_, ?_⟩ <;> rw [hid']
  · rw [logOf_snoc, feeds_append, hfed]
    simp [feeds]
  · intro m hm p r' reply' hevent hr' hreply'
    rcases List.mem_append.mp hm with hm | hm
    · exact delivers_of_quiet hquiet m hm p r' reply' hevent hr' hreply'
    · obtain rfl := List.mem_singleton.mp hm
      obtain rfl := Option.some.inj (hr.symm.trans hr')
      obtain rfl := Option.some.inj (hreply.symm.trans hreply')
      exact hsent
  · rw [handed_snoc, handed_eq_nil hquiet]
    simp [Moment.reply?, hr, hreply]

end

/-! ### A service with much to say -/

/-- A service that answers every command with one document. -/
structure Fixed where
  answer : Json

instance : Service Fixed where
  serviceType _ := 0
  isReady _ := true
  handle service _ _ := ⟨.ok service.answer, [], service⟩
  start service _ _ := service
  poll service _ _ := ([], service)

/-- A text of so many letters. -/
def letters (n : Nat) : Json := .string (String.ofList (List.replicate n 'a'))

/-- A question for the state of the service. -/
def ask : Bytes := Utf8.ofString "\x7b\"type\":\"GET\"\x7d"

/-- Parts of a server with a large buffer, and with a service that has ten thousand million letters
to say. -/
def verbose : Server.Parts Fixed MemoryFlash where
  config := { Config.default with bufferCapacity := 2 * 10 ^ 10 }
  cipher := none
  nonces := idle.nonces
  service := some ⟨letters (10 ^ 10)⟩
  sensor := none
  store := none
  board := .new (.new 0)
  channelSlots := Writer.defaultSlots
  host := none

def talker : Server Fixed MemoryFlash := (Server.start verbose 0).toOption.get rfl

lemma start_verbose : Server.start verbose 0 = .ok talker := rfl

/-- The reply to the question. -/
def outpour (n : Nat) : Outbound := .answer "" peer .query (letters n)

def preamble : List Char :=
  '\x7b' :: Json.stringChars "id" ++ ':' :: Json.stringChars "" ++
    ',' :: Json.stringChars "client_id" ++ ':' :: Json.stringChars peer ++
    ',' :: Json.stringChars "type" ++ ':' :: Json.stringChars "GET" ++
    ',' :: Json.stringChars "data" ++ [':', '"']

lemma chars_outpour (n : Nat) :
    (outpour n).toJson.chars = preamble ++ List.replicate n 'a' ++ ['"', '\x7d'] := by
  have hletters : (List.replicate n 'a').flatMap Json.escapeChar = List.replicate n 'a' := by
    induction n with
    | zero => rfl
    | succ n ih =>
      rw [List.replicate_succ, List.flatMap_cons, ih]
      rfl
  simp [outpour, Outbound.answer, Outbound.toJson, Json.chars, Json.membersChars, letters, preamble,
    Json.stringChars, hletters, Command.wire]

lemma bytes_outpour (n : Nat) : (outpour n).bytes =
    (preamble ++ List.replicate n 'a' ++ ['"', '\x7d']).map fun c => UInt8.ofNat c.toNat := by
  have hascii : IsAscii (preamble ++ List.replicate n 'a' ++ ['"', '\x7d']) := by
    refine isAscii_append.mpr ⟨isAscii_append.mpr ⟨by decide +kernel, fun c hc => ?_⟩, by decide⟩
    rw [List.eq_of_mem_replicate hc]
    decide
  rw [Outbound.bytes, Json.bytes, chars_outpour, Utf8.encode_ascii hascii]

lemma length_outpour (n : Nat) : (outpour n).bytes.length = n + 60 := by
  have hpreamble : preamble.length = 58 := by decide +kernel
  rw [bytes_outpour]
  simp [hpreamble]
  omega

lemma delimiter_notMem_outpour (n : Nat) : Frame.delimiter ∉ (outpour n).bytes := by
  rw [bytes_outpour, List.map_append, List.map_append, List.map_replicate]
  simp only [List.mem_append, not_or]
  refine ⟨⟨by decide +kernel, fun h => ?_⟩, by decide⟩
  have := List.eq_of_mem_replicate h
  revert this
  decide

/-- A payload of ten thousand million bytes or more, without semicolons, never comes out. -/
lemma intakes_unreadable {payload : Bytes} {capacity staleAfter : Nat} {now : Time}
    (hlong : 10 ^ Frame.maxHeaderDigits ≤ payload.length) (hdelim : Frame.delimiter ∉ payload)
    (hfits : (Frame.encode payload).length ≤ capacity) :
    ((Accumulator.new capacity staleAfter).intakes [⟨Frame.encode payload, now⟩]).1 = [] := by
  set digits := Frame.numeral (Decimal.digits payload.length) with hdigits
  have hnone : Frame.parseLength digits = none := by
    have hlt : Frame.maxHeaderDigits < digits.length := by
      by_contra hle
      rw [Nat.not_lt, hdigits, ← Frame.header_encode] at hle
      exact Nat.not_lt.mpr hlong (Frame.length_lt_of_header hle)
    simp [Frame.parseLength, hlt]
  have hheader : Frame.delimiter ∉ digits :=
    Frame.delimiter_notMem_numeral fun _ => Decimal.lt_of_mem_digits
  have hlength := congrArg List.length (Frame.encode_eq payload)
  rw [List.length_append, List.length_cons, ← hdigits] at hlength
  have hd : Drained (Accumulator.new capacity staleAfter) := Accumulator.drained_new (by omega)
  have hroom : Roomy (.new capacity staleAfter) [⟨Frame.encode payload, now⟩] := ⟨hfits, trivial⟩
  have htime : Unbroken (.new capacity staleAfter) [⟨Frame.encode payload, now⟩] := ⟨rfl, trivial⟩
  have hcontent : content [⟨Frame.encode payload, now⟩] =
      digits ++ [Frame.delimiter] ++ payload := by
    simp [content, Frame.encode_eq, hdigits]
  have hcapacity : (Accumulator.new capacity staleAfter).capacity = capacity := rfl
  rw [← Accumulator.items_intakes hd htime hroom, Accumulator.scan_new, hcontent, hcapacity,
    FrameScan.run_append, FrameScan.start, FrameScan.run_malformed hheader (by omega) hnone,
    FrameScan.run_header hdelim (by simp only [List.length_nil]; omega)]

lemma prepare_talker (nonce : Nonce) (m : Outbound) :
    talker.outbox.prepare nonce m = Frame.encode m.bytes := rfl

lemma length_frame_outpour {n : Nat} (hn : n + 60 < 10 ^ 11) :
    (Frame.encode (outpour n).bytes).length ≤ n + 72 := by
  have hdigits : (Decimal.digits (n + 60)).length ≤ 11 :=
    Decimal.length_digits_le (by decide) hn
  rw [Frame.length_encode, Frame.frameLength, Frame.headerLength, ← Frame.length_digits,
    length_outpour]
  omega

/-! ### Results -/

section

variable [Service σ] [Flash δ]

/-- The messages in what has been received for a session: of the frames that a scan of the stream
reads, those that open and parse. -/
def messages (server : Server σ δ) (config : Registry.Config) (i : Nat) (log : List Event) :
    List Inbound :=
  recognised server (FrameScan.run config.bufferCapacity FrameScan.start
    (content (feeds i log))).items

/-- How a server deals with what one of its clients has sent, by the history so far. -/
structure Conversed (server : Server σ δ) (h : List (Moment σ δ)) (s : St σ δ) (a : Session)
    (r : Reader) : Prop where
  reader : s.readers a.id = some r
  /-- The messages have been put to the service, each once and in order, but for those of the last
  read that wait for it. -/
  asked : (questions a.id h).map Question.message ++ r.waiting server =
    messages server s.config a.id (logOf h)
  /-- Each of these has got one reply, in the same order, but for one that is on its way. -/
  replied : handed a.id h ++ r.reply?.toList = (questions a.id h).map (reply server a.identity)
  /-- Unless the stream cannot be framed, the read task can go on until every message has got its
  reply. -/
  completed : (∀ why, .error why ∉ r.items) → ∃ (more : List (Moment σ δ)) (t : St σ δ),
    Run Takes s more t ∧ (∃ b ∈ t.sessions, b.id = a.id) ∧ feeds a.id (logOf more) = [] ∧
    (questions a.id (h ++ more)).map Question.message = messages server s.config a.id (logOf h) ∧
    handed a.id (h ++ more) = (questions a.id (h ++ more)).map (reply server a.identity)
  /-- What a message is, and what reply it gets. -/
  proper : ∀ q ∈ questions a.id h,
    (∃ payload plain members, server.outbox.cipher.openSealed payload = .ok plain ∧
      Json.ofBytes? plain = some (.object members) ∧ Says members q.message) ∧
    Proper a.identity q (reply server a.identity q)
  /-- If they can all be queued, the frames of the replies come into the queue, in order. -/
  queued : (∀ m ∈ h, m.Delivers a.id) →
    List.Forall₂ (Framed server s.config.bufferCapacity) (handed a.id h) (gained a.id h)
  /-- A client that takes them in gets the texts of the replies, if it can read the headers. -/
  recovered : (∀ m ∈ h, m.Delivers a.id) →
    (∀ frame ∈ gained a.id h, (Frame.header frame).length ≤ Frame.maxHeaderDigits) →
    ∀ (capacity staleAfter : Nat) (fed : List Feed), s.config.bufferCapacity ≤ capacity →
      fed.map Feed.data = gained a.id h ∨ content fed = (gained a.id h).flatten ∧
        Roomy (.new capacity staleAfter) fed ∧ Unbroken (.new capacity staleAfter) fed →
      Recovers server (handed a.id h) ((Accumulator.new capacity staleAfter).intakes fed).1

/-- **One reply for each message, in order.** Whatever a client sends, and in whatever pieces it is
read, as long as no frame of it is abandoned as stale: each message in it is put to the service
once, in the order of receipt, and gets one reply, also if other clients are served meanwhile. If
the replies can all be queued, a client that takes their frames in gets their texts back, in
order. -/
theorem conversed_of_run {p : Server.Parts σ δ} {now : Time}
    (hstart : Server.start p now = .ok server) (hrun : Run Takes (opened server) h s)
    (ha : a ∈ s.sessions)
    (htime : Unbroken (.new s.config.bufferCapacity s.config.staleAfter) (feeds a.id (logOf h))) :
    ∃ r, Conversed server h s a r := by
  have hnew := Server.sessions_start hstart
  obtain ⟨-, hrooms, -⟩ := rooms_of_run hstart (run_log hrun)
  obtain ⟨r, hreader, hasked, hreplied, hqueued⟩ := (chronicle_run hnew hrun).talk a ha
  have hitems := Accumulator.items_intakes (Accumulator.drained_new hrooms.pos) htime
    (hrooms.roomy a.id)
  rw [Accumulator.scan_new] at hitems
  have hmessages : recognised server (decoded s.config a.id (logOf h)) =
      messages server s.config a.id (logOf h) := congrArg _ hitems.symm
  refine ⟨r, hreader, hasked.trans hmessages, hreplied, fun hframed => ?_, fun q hq => ?_, hqueued,
    fun hsent hshort capacity staleAfter fed hsize hfed => ?_⟩
  · rw [← hmessages]
    exact exists_answered hnew hrun ha hreader hframed
  · have hmem : q.message ∈ recognised server (decoded s.config a.id (logOf h)) := by
      rw [← hasked]
      exact List.mem_append_left _ (List.mem_map_of_mem hq)
    obtain ⟨payload, -, hmessage⟩ := List.mem_filterMap.mp hmem
    obtain ⟨plain, members, hplain, hjson, hsays⟩ := exists_says hmessage
    exact ⟨⟨payload, plain, members, hplain, hjson, hsays⟩, proper_reply hsays.inbound⟩
  · exact recovers_intakes hrooms.pos (hqueued hsent) hsize hshort hfed

end

theorem conversed_of_run_probe : Server.start bare 0 = .ok started ∧
    ∃ (h : List (Moment Echo MemoryFlash)) (s : St Echo MemoryFlash), ∃ a ∈ s.sessions,
      Run Takes (opened started) h s ∧
      Unbroken (.new s.config.bufferCapacity s.config.staleAfter) (feeds a.id (logOf h)) ∧
      handed a.id h = [echo] ∧ ∃ r, Conversed started h s a r := by
  obtain ⟨message, hmessage⟩ : ∃ m, understood started probe = some m :=
    Option.isSome_iff_exists.mp (by decide +kernel)
  have hfields : message.command = .heartbeat ∧ message.id = "" := by
    have h : (understood started probe).map (fun m => (m.command, m.id)) =
        some (.heartbeat, "") := by decide +kernel
    simpa [hmessage] using h
  have hecho : reply started peer ⟨message, started.service, 0⟩ = echo := by
    simp only [reply, Dispatcher.route, hfields]
    rfl
  obtain ⟨h, s, a, ha, hrun, hfeeds, -, hhanded⟩ := exists_exchange
    (Server.sessions_start start_bare) (by decide) hmessage (by decide +kernel)
    (by rw [hecho]; decide +kernel)
  have htime : Unbroken (.new s.config.bufferCapacity s.config.staleAfter)
      (feeds a.id (logOf h)) := by
    rw [hfeeds]
    exact ⟨rfl, trivial⟩
  rw [hecho] at hhanded
  exact ⟨start_bare, h, s, a, ha, hrun, htime, hhanded, conversed_of_run start_bare hrun ha htime⟩

/-- **A reply that is lost.** The buffers hold a reply of ten thousand million letters, and it is
queued as one frame. But the header of the frame has eleven digits, and none of more than ten is
read: a client that takes the frame in gets nothing. -/
theorem outpour_lost : Server.start verbose 0 = .ok talker ∧
    ∃ (h : List (Moment Fixed MemoryFlash)) (s : St Fixed MemoryFlash), ∃ a ∈ s.sessions,
      Run Takes (opened talker) h s ∧
      Unbroken (.new s.config.bufferCapacity s.config.staleAfter) (feeds a.id (logOf h)) ∧
      (∀ m ∈ h, m.Delivers a.id) ∧
      ∃ fed : List Feed, fed.map Feed.data = gained a.id h ∧
        ¬ Recovers talker (handed a.id h)
          ((Accumulator.new s.config.bufferCapacity s.config.staleAfter).intakes fed).1 := by
  obtain ⟨message, hmessage⟩ : ∃ m, understood talker ask = some m :=
    Option.isSome_iff_exists.mp (by decide +kernel)
  have hfields : message.command = .query ∧ message.id = "" := by
    have h : (understood talker ask).map (fun m => (m.command, m.id)) = some (.query, "") := by
      decide +kernel
    simpa [hmessage] using h
  have hreply : reply talker peer ⟨message, talker.service, 0⟩ = outpour (10 ^ 10) := by
    simp only [reply, Dispatcher.route, hfields]
    have hservice : talker.service = some ⟨letters (10 ^ 10)⟩ := rfl
    rw [hservice]
    simp only [Dispatcher.forward, hfields]
    rfl
  have hlength : (Frame.encode (outpour (10 ^ 10)).bytes).length ≤
      talker.registry.config.bufferCapacity :=
    le_trans (length_frame_outpour (by decide)) (by decide)
  obtain ⟨h, s, a, ha, hrun, hfeeds, hsent, hhanded⟩ := exists_exchange
    (Server.sessions_start start_verbose) (by decide +kernel) hmessage (by decide +kernel)
    (by rw [hreply]; exact hlength)
  rw [hreply] at hhanded
  have hnew := Server.sessions_start start_verbose
  obtain ⟨r, -, -, -, hqueued⟩ := (chronicle_run hnew hrun).talk a ha
  have hframes := hqueued hsent
  rw [hhanded] at hframes
  obtain ⟨frame, frames, ⟨hfits, nonce, rfl⟩, hnil, hgained⟩ :=
    List.forall₂_cons_left_iff.mp hframes
  obtain rfl := List.forall₂_nil_left_iff.mp hnil
  refine ⟨start_verbose, h, s, a, ha, hrun, ?_, hsent,
    [⟨Frame.encode (outpour (10 ^ 10)).bytes, 0⟩], by rw [hgained]; rfl, ?_⟩
  · rw [hfeeds]
    exact ⟨rfl, trivial⟩
  · rw [prepare_talker] at hfits
    rw [intakes_unreadable ?_ (delimiter_notMem_outpour _) hfits]
    · simp [Recovers, hhanded]
    · rw [length_outpour]
      decide

end ServerRuns

end HomeHub
