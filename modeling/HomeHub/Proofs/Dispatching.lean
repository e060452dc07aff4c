import HomeHub.Proofs.Conversation
import HomeHub.Proofs.Envelopes
import HomeHub.Proofs.SessionNumbers
import HomeHub.Service.Echo

/-!
What a dispatch does to the registry and to the service.

A payload that is no message changes nothing, even if its session has ended. Neither does a message
whose session has ended, and it is not put to the service. Of any other message the activity is
noted, in the one session that it came from; what is for the service is put to it once if it is
ready. The calls are told by a service that writes them down and for the rest is the one it hears
for.
-/

namespace HomeHub

namespace Command

lemma ofWire_eq_unrecognized_iff {name : String} :
    ofWire name = .unrecognized ↔ name ∉ all.map wire := by
  unfold ofWire
  split_ifs <;> simp_all [all, wire]

lemma ofWire_eq_error_iff {name : String} : ofWire name = .error ↔ name = error.wire := by
  unfold ofWire
  split_ifs <;> simp_all [wire]

end Command

namespace Registry

variable {r : Registry} {a : Session} {n : Nat}

lemma Sound.modify_eq_set (hs : Sound r) (ha : r.occupant n = some a)
    (change : Session → Session) :
    r.modify a.identity change = { r with slots := r.slots.set n (some (change a)) } := by
  have hslot := occupant_eq_some_iff.mp ha
  refine congrArg (fun slots => { r with slots }) (List.ext_getElem? fun m => ?_)
  rw [List.getElem?_map, List.getElem?_set]
  split
  · rename_i h
    subst h
    rw [hslot, if_pos (List.getElem?_eq_some_iff.mp hslot).1]
    simp
  · rename_i hne
    rcases hb : r.slots[m]? with _ | _ | b
    · rfl
    · rfl
    · have hbx : b.identity ≠ a.identity := fun hx =>
        hne (hs.slot_eq_of_identity ha (occupant_eq_some_iff.mpr hb) hx.symm)
      simp [hbx]

end Registry

namespace Dispatching

open ServerRuns (Says)

/-! ### Payloads -/

/-- What is wrong with a payload that is no message. -/
inductive Faulty (payload : Bytes) : ProtocolFault → Prop
  | malformed : Json.ofBytes? payload = none → Faulty payload .malformed
  | notObject {value : Json} : Json.ofBytes? payload = some value →
      (∀ members, value ≠ .object members) → Faulty payload .notObject
  /-- There is no type, or it is no string. -/
  | missingType {members : List (String × Json)} :
      Json.ofBytes? payload = some (.object members) →
      (∀ name, Json.member? "type" members ≠ some (.string name)) → Faulty payload .missingType
  | unrecognized {members : List (String × Json)} {name : String} :
      Json.ofBytes? payload = some (.object members) →
      Json.member? "type" members = some (.string name) → name ∉ Command.all.map Command.wire →
      Faulty payload (.unrecognized name)
  | sendOnly {members : List (String × Json)} :
      Json.ofBytes? payload = some (.object members) →
      Json.member? "type" members = some (.string Command.error.wire) →
      Faulty payload (.sendOnly Command.error.wire)

/-- What a payload says that is a message. -/
def Conveys (payload : Bytes) (message : Inbound) : Prop :=
  ∃ members, Json.ofBytes? payload = some (.object members) ∧ Says members message ∧
    message.body =
      ((Json.member? "body" members).or (Json.member? "data" members)).getD (.object [])

variable {payload : Bytes} {message : Inbound} {why : ProtocolFault}

lemma bodyOf_eq (members : List (String × Json)) : Inbound.bodyOf members =
    ((Json.member? "body" members).or (Json.member? "data" members)).getD (.object []) := by
  unfold Inbound.bodyOf
  rcases Json.member? "body" members with _ | v <;> rfl

lemma ofMembers_of_says {members : List (String × Json)} (h : Says members message)
    (hbody : message.body = Inbound.bodyOf members) :
    Inbound.ofMembers members = .ok message := by
  have hid : Inbound.idOf members = message.id := by
    unfold Inbound.idOf
    rcases h.id with hid | ⟨hempty, hno⟩
    · rw [hid]
    · rw [hempty]
      split
      · exact absurd ‹_› (hno _)
      · rfl
  rw [Inbound.ofMembers_of_type h.inbound h.type, hid, ← hbody]

lemma body_ofMembers {members : List (String × Json)}
    (h : Inbound.ofMembers members = .ok message) :
    message.body = Inbound.bodyOf members := by
  unfold Inbound.ofMembers at h
  split at h
  · split at h
    · cases h
    · cases h
    · obtain rfl := Except.ok.inj h
      rfl
  · cases h

lemma faulty_ofMembers {members : List (String × Json)}
    (hjson : Json.ofBytes? payload = some (.object members))
    (h : Inbound.ofMembers members = .error why) : Faulty payload why := by
  unfold Inbound.ofMembers at h
  split at h
  · rename_i name htype
    split at h
    · rename_i hc
      obtain rfl := Except.error.inj h
      exact .unrecognized hjson htype (Command.ofWire_eq_unrecognized_iff.mp hc)
    · rename_i hc
      obtain rfl := Except.error.inj h
      obtain rfl := Command.ofWire_eq_error_iff.mp hc
      exact .sendOnly hjson htype
    · cases h
  · rename_i hno
    obtain rfl := Except.error.inj h
    exact .missingType hjson hno

lemma faulty_or_conveys (payload : Bytes) :
    (∃ why, Faulty payload why) ∨ ∃ message, Conveys payload message := by
  rcases hjson : Json.ofBytes? payload with _ | value
  · exact .inl ⟨_, .malformed hjson⟩
  · cases value with
    | object members =>
      rcases hm : Inbound.ofMembers members with why | message
      · exact .inl ⟨why, faulty_ofMembers hjson hm⟩
      · refine .inr ⟨message, members, hjson, ServerRuns.says_ofMembers hm, ?_⟩
        rw [body_ofMembers hm, bodyOf_eq]
    | _ => exact .inl ⟨_, .notObject hjson nofun⟩

lemma parse_of_conveys (h : Conveys payload message) : Inbound.parse payload = .ok message := by
  obtain ⟨members, hjson, hsays, hbody⟩ := h
  unfold Inbound.parse
  rw [hjson]
  exact ofMembers_of_says hsays (hbody.trans (bodyOf_eq members).symm)

lemma parse_of_faulty (h : Faulty payload why) : Inbound.parse payload = .error why := by
  unfold Inbound.parse
  cases h with
  | malformed hjson => rw [hjson]
  | @notObject value hjson hno =>
    rw [hjson]
    cases value with
    | object members => exact absurd rfl (hno members)
    | _ => rfl
  | missingType hjson hno =>
    rw [hjson]
    show Inbound.ofMembers _ = _
    unfold Inbound.ofMembers
    split
    · exact absurd ‹_› (hno _)
    · rfl
  | unrecognized hjson htype hname =>
    rw [hjson]
    simp only [Inbound.ofMembers, htype, Command.ofWire_eq_unrecognized_iff.mpr hname]
  | sendOnly hjson htype =>
    rw [hjson]
    simp only [Inbound.ofMembers, htype, Command.ofWire_eq_error_iff.mpr rfl]

/-! ### A service that is overheard -/

/-- A service with the commands put to it written down. -/
structure Overheard (σ : Type) where
  service : σ
  /-- What was put to it, first to last. -/
  calls : List (Command × Json)

variable {σ : Type} [Service σ]

instance : Service (Overheard σ) where
  serviceType o := Service.serviceType o.service
  isReady o := Service.isReady o.service
  handle o command body :=
    let outcome := Service.handle o.service command body
    ⟨outcome.result, outcome.effects, ⟨outcome.state, o.calls ++ [(command, body)]⟩⟩
  start o reading now := { o with service := Service.start o.service reading now }
  poll o reading now :=
    let (effects, service) := Service.poll o.service reading now
    (effects, { o with service })

variable {d : Dispatcher} {service : Option σ} {r : Registry} {x : String} {i : Nat} {now : Time}
  {a : Session} {state : σ}

/-- A service of which nothing has been heard. -/
def unheard (service : Option σ) : Option (Overheard σ) := service.map (⟨·, []⟩)

/-- What a dispatch leaves behind apart from what was heard. -/
def forget (t : Dispatcher.Dispatched (Overheard σ)) : Dispatcher.Dispatched σ :=
  ⟨t.outcome, t.effects, t.registry, t.service.map Overheard.service⟩

/-- What a dispatch puts to the service. -/
def called (d : Dispatcher) (service : Option σ) (r : Registry) (x : String) (i : Nat)
    (payload : Bytes) (now : Time) : List (Command × Json) :=
  match (d.dispatch (unheard service) r x i payload now).service with
  | some o => o.calls
  | none => []

/-- What a reply leaves behind apart from what was heard. -/
def forgetRouted (t : Dispatcher.Routed (Overheard σ)) : Dispatcher.Routed σ :=
  ⟨t.reply, t.effects, t.service.map Overheard.service⟩

lemma forgetRouted_forward (o : Option (Overheard σ)) (x : String) (message : Inbound) :
    forgetRouted (Dispatcher.forward o x message) =
      Dispatcher.forward (o.map Overheard.service) x message := by
  rcases o with _ | o
  · rfl
  · have hready : Service.isReady o = Service.isReady o.service := rfl
    have hhandle : Service.handle o message.command message.body =
        ⟨(Service.handle o.service message.command message.body).result,
          (Service.handle o.service message.command message.body).effects,
          ⟨(Service.handle o.service message.command message.body).state,
            o.calls ++ [(message.command, message.body)]⟩⟩ := rfl
    simp only [Dispatcher.forward, Option.map_some, hready, hhandle]
    rcases Service.handle o.service message.command message.body with ⟨_ | _, effects, after⟩ <;>
      split <;> rfl

lemma forgetRouted_route (o : Option (Overheard σ)) (x : String) (message : Inbound) (now : Time) :
    forgetRouted (d.route o x message now) =
      d.route (o.map Overheard.service) x message now := by
  unfold Dispatcher.route
  cases message.command with
  | configure | query => exact forgetRouted_forward o x message
  | _ => rfl

lemma forget_dispatch (o : Option (Overheard σ)) :
    forget (d.dispatch o r x i payload now) =
      d.dispatch (o.map Overheard.service) r x i payload now := by
  unfold Dispatcher.dispatch
  rcases Inbound.parse payload with why | message
  · rfl
  · simp only [← forgetRouted_route]
    rcases Dispatcher.noteActivity r x i message.command now with _ | r' <;> rfl

/-! ### Messages -/

/-- The session with a message of it noted. -/
def noted (a : Session) (command : Command) (now : Time) : Session :=
  { a with
    lastActivity := now
    lastHeartbeat := if command = .heartbeat then some now else a.lastHeartbeat }

/-- The message is a change of the service or a question for it, and the service is ready. -/
structure Asks (service : Option σ) (state : σ) (message : Inbound) : Prop where
  domain : message.command = .configure ∨ message.command = .query
  service : service = some state
  ready : Service.isReady state = true

lemma noteActivity_eq (hs : r.Sound) {n : Nat} (ha : r.occupant n = some a) (command : Command)
    (now : Time) : Dispatcher.noteActivity r a.identity a.id command now =
      some { r with slots := r.slots.set n (some (noted a command now)) } := by
  have hmem : a ∈ r.sessions := Registry.mem_sessions_iff.mpr ⟨n, ha⟩
  have hnoted : (if command = .heartbeat then a.heartbeat now else a.touch now) =
      noted a command now := by
    unfold noted
    split_ifs <;> rfl
  rw [Dispatcher.noteActivity, hs.lookupSession_eq hmem, Option.map_some, hs.modify_eq_set ha,
    hnoted]

lemma dispatch_of_conveys (hs : r.Sound) (hm : Conveys payload message) {n : Nat}
    (ha : r.occupant n = some a) (d : Dispatcher) (service : Option σ) (now : Time) :
    d.dispatch service r a.identity a.id payload now =
      ⟨.reply (d.route service a.identity message now).reply,
        (d.route service a.identity message now).effects,
        { r with slots := r.slots.set n (some (noted a message.command now)) },
        (d.route service a.identity message now).service⟩ := by
  unfold Dispatcher.dispatch
  rw [parse_of_conveys hm]
  simp only [noteActivity_eq hs ha]

lemma service_route_of_asks (h : Asks service state message) :
    (d.route service x message now).service =
      some (Service.handle state message.command message.body).state := by
  have hforward : (Dispatcher.forward service x message).service =
      some (Service.handle state message.command message.body).state := by
    simp only [Dispatcher.forward, h.service, h.ready, if_true]
    rcases Service.handle state message.command message.body with ⟨_ | _, effects, after⟩ <;> rfl
  rw [← hforward, Dispatcher.route]
  rcases h.domain with hc | hc <;> simp only [hc]

lemma service_route_of_not_asks (h : ∀ state, ¬ Asks service state message) :
    (d.route service x message now).service = service := by
  have hforward (hdomain : message.command = .configure ∨ message.command = .query) :
      (Dispatcher.forward service x message).service = service := by
    rcases service with _ | state
    · rfl
    · have hready : Service.isReady state ≠ true := fun hready => h state ⟨hdomain, rfl, hready⟩
      simp only [Dispatcher.forward, if_neg hready]
  unfold Dispatcher.route
  cases hc : message.command with
  | configure => exact hforward (.inl hc)
  | query => exact hforward (.inr hc)
  | _ => rfl

lemma asks_unheard {o : Overheard σ} : Asks (unheard service) o message ↔
    ∃ state, o = ⟨state, []⟩ ∧ Asks service state message := by
  constructor
  · rintro ⟨hdomain, hservice, hready⟩
    obtain ⟨state, hstate, rfl⟩ := Option.map_eq_some_iff.mp hservice
    exact ⟨state, rfl, hdomain, hstate, hready⟩
  · rintro ⟨state, rfl, hdomain, hstate, hready⟩
    exact ⟨hdomain, Option.map_eq_some_iff.mpr ⟨state, hstate, rfl⟩, hready⟩

lemma called_of_dispatch {outcome : Dispatch} {effects : List Service.Effect}
    (h : d.dispatch (unheard service) r x i payload now = ⟨outcome, effects, r, unheard service⟩) :
    called d service r x i payload now = [] := by
  rw [called, h]
  rcases service with _ | state <;> rfl

/-! ### The result -/

/-- What a message does whose session is there. -/
structure Replies (d : Dispatcher) (service : Option σ) (r : Registry) (a : Session)
    (payload : Bytes) (message : Inbound) (now : Time) : Prop where
  outcome : ∃ reply, (d.dispatch service r a.identity a.id payload now).outcome = .reply reply
  /-- The message is noted in its session, and nothing else is changed. -/
  registry : ∃ n, r.occupant n = some a ∧
    (d.dispatch service r a.identity a.id payload now).registry =
      { r with slots := r.slots.set n (some (noted a message.command now)) }
  asked : ∀ state, Asks service state message →
    called d service r a.identity a.id payload now = [(message.command, message.body)] ∧
    (d.dispatch service r a.identity a.id payload now).service =
      some (Service.handle state message.command message.body).state
  unasked : (∀ state, ¬ Asks service state message) →
    called d service r a.identity a.id payload now = [] ∧
    (d.dispatch service r a.identity a.id payload now).service = service

/-- What a dispatch does. -/
structure Dispatches (d : Dispatcher) (service : Option σ) (r : Registry) (x : String) (i : Nat)
    (payload : Bytes) (now : Time) : Prop where
  recognised : (∃ why, Faulty payload why) ∨ ∃ message, Conveys payload message
  /-- What is no message is dropped, whether or not there is such a session. -/
  dropped : ∀ why, Faulty payload why →
    d.dispatch service r x i payload now = ⟨.dropped why, [], r, service⟩ ∧
    called d service r x i payload now = []
  gone : ∀ message, Conveys payload message → (x, i) ∉ r.roll →
    d.dispatch service r x i payload now = ⟨.gone, [], r, service⟩ ∧
    called d service r x i payload now = []
  replied : ∀ message, ∀ a ∈ r.sessions, Conveys payload message → a.identity = x → a.id = i →
    Replies d service r a payload message now
  /-- Who listens makes no difference. -/
  overheard : forget (d.dispatch (unheard service) r x i payload now) =
    d.dispatch service r x i payload now

lemma replies (hs : r.Sound) (ha : a ∈ r.sessions) (hm : Conveys payload message) :
    Replies d service r a payload message now := by
  obtain ⟨n, hn⟩ := Registry.mem_sessions_iff.mp ha
  have hplain := dispatch_of_conveys hs hm hn d service now
  have hheard := dispatch_of_conveys hs hm hn d (unheard service) now
  refine ⟨⟨_, by rw [hplain]⟩, ⟨n, hn, by rw [hplain]⟩, fun state hasks => ⟨?_, ?_⟩,
    fun hno => ⟨?_, ?_⟩⟩
  · have hasks' := asks_unheard.mpr ⟨state, rfl, hasks⟩
    rw [called, hheard, service_route_of_asks hasks']
    rfl
  · rw [hplain]
    exact service_route_of_asks hasks
  · have hno' : ∀ o, ¬ Asks (unheard service) o message := by
      intro o ho
      obtain ⟨state, -, hasks⟩ := asks_unheard.mp ho
      exact hno state hasks
    rw [called, hheard, service_route_of_not_asks hno']
    rcases service with _ | state <;> rfl
  · rw [hplain]
    exact service_route_of_not_asks hno

/-- **What a dispatch does.** For a registry in which no two sessions share an identity, as is so of
every registry that operations lead to, and whatever the payload: it is dropped if it is no message,
and gone if its session has ended, and then nothing is changed and nothing put to the service.
Otherwise it is replied to, its session and no other is noted to be alive, and to have probed if it
did; and the service is asked once, in the words of the message, or not at all. -/
theorem dispatches_of_sound (hs : r.Sound) : Dispatches d service r x i payload now where
  recognised := faulty_or_conveys payload
  dropped why hwhy := by
    have hdropped {τ : Type} [Service τ] (service : Option τ) :
        d.dispatch service r x i payload now = ⟨.dropped why, [], r, service⟩ := by
      rw [Dispatcher.dispatch, parse_of_faulty hwhy]
    exact ⟨hdropped service, called_of_dispatch (hdropped _)⟩
  gone message hm hgone := by
    have hgone := RegistryRuns.gone_of_notMem hgone
    have hm := parse_of_conveys hm
    exact ⟨hgone.dispatch d service payload message now hm,
      called_of_dispatch (hgone.dispatch d _ payload message now hm)⟩
  replied message a ha hm hx hi := replies hs ha hm
  overheard := by
    rw [forget_dispatch, unheard, Option.map_map]
    exact congrArg (fun service => d.dispatch service r x i payload now)
      (congrFun Option.map_id service)

/-- A change of the service, with both names for its body. -/
def change : Bytes :=
  Utf8.ofString "\x7b\"type\":\"SET\",\"data\":1,\"body\":\x7b\"on\":true\x7d\x7d"

theorem dispatches_of_sound_change : ∃ r : Registry, r.Sound ∧ ("10.0.0.2:5000", 1) ∈ r.roll ∧
    Dispatches ⟨.default, 0⟩ (some (⟨true⟩ : Echo)) r "10.0.0.2:5000" 1 change 5 ∧
    (called ⟨.default, 0⟩ (some (⟨true⟩ : Echo)) r "10.0.0.2:5000" 1 change 5).map
      (fun call => (call.1, call.2.text)) = [(.configure, "\x7b\"on\":true\x7d")] := by
  have hrun := RegistryRuns.run_play (.new ⟨1, 64, 1500⟩) [.enroll "10.0.0.2:5000" none 0]
  have hs := (RegistryRuns.numbered_run hrun).1
  exact ⟨_, hs, by decide, dispatches_of_sound hs, by decide +kernel⟩

end Dispatching

end HomeHub
