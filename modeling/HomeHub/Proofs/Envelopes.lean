import Mathlib.Data.List.Perm.Basic
import HomeHub.Proofs.JsonRoundTrip
import HomeHub.Protocol.Envelope

/-!
What the hub sends is read as what it was made from, and what is read depends on four members.

A payload that is an object is told by the texts of its members (`Spells`): commas stand between
them, braces around, and blanks anywhere. A text is a member by itself, whatever stands beside it
(`IsMember`), and so members can be added and put in another order.
-/

namespace HomeHub

lemma Command.ofWire_wire {c : Command} (h : c.isInbound = true) : ofWire c.wire = c := by
  cases c with
  | unrecognized => cases h
  | _ => rfl

lemma Inbound.ofMembers_of_type {c : Command} {members : List (String × Json)}
    (hc : c.isInbound = true) (h : Json.member? "type" members = some (.string c.wire)) :
    ofMembers members = .ok ⟨idOf members, c, bodyOf members⟩ := by
  rw [ofMembers, h]
  simp only [Command.ofWire_wire hc]
  cases c with
  | error | unrecognized => cases hc
  | _ => rfl

namespace Envelopes

open Json (Blank Joins Reads member? readMember readValue)

/-! ### Payloads -/

/-- How deep the value of a member may nest; the object around it is one level more. -/
def valueDepth : Nat := 126

/-- A text that is a member, with blanks around it: a key, a colon and an acceptable value. -/
def IsMember (text : List Char) (m : String × Json) : Prop :=
  Reads (readMember (readValue valueDepth)) text m

/-- A payload that is the texts, with commas between them and braces around. -/
def Spells (payload : Bytes) (texts : List (List Char)) : Prop :=
  ∃ before inner after, Utf8.decode? payload = some (before ++ '{' :: (inner ++ '}' :: after)) ∧
    Blank before ∧ Joins inner texts ∧ Blank after

/-- The members that the texts are, in their order. -/
abbrev AreMembers (texts : List (List Char)) (members : List (String × Json)) : Prop :=
  List.Forall₂ IsMember texts members

/-- The value of the last member with this key. -/
def last? (key : String) (members : List (String × Json)) : Option Json :=
  member? key members.reverse

/-- The members that a message is read from. -/
def fields : List String := ["type", "id", "body", "data"]

/-! ### What the results say -/

/-- The text has these members in this order, with commas between them and no blanks. -/
def Compact (m : Outbound) (members : List (String × Json)) : Prop :=
  m.bytes = Utf8.encode ('{' :: ([','].intercalate (members.map Json.memberChars) ++ ['}']))

/-- What is sent, member by member. -/
structure Written (id clientId : String) (c : Command) (data : Json) : Prop where
  answer : Compact (.answer id clientId c data) [("id", .string id),
    ("client_id", .string clientId), ("type", .string c.wire), ("data", data)]
  heartbeat : Compact (.heartbeat id clientId) [("id", .string id),
    ("client_id", .string clientId), ("type", .string Command.heartbeat.wire)]
  broadcast : Compact (.broadcast data) [("client_id", .string Outbound.hubIdentity),
    ("type", .string Command.query.wire), ("data", data)]
  error (message : String) : Compact (.error clientId message) [("client_id", .string clientId),
    ("type", .string Command.error.wire), ("message", .string message)]

/-- What is sent comes back as what it was made from. -/
structure RoundTrips (id clientId : String) (c : Command) (data : Json) : Prop where
  answer : Inbound.parse (Outbound.answer id clientId c data).bytes = .ok ⟨id, c, data⟩
  heartbeat : Inbound.parse (Outbound.heartbeat id clientId).bytes =
    .ok ⟨id, .heartbeat, .object []⟩
  broadcast : Inbound.parse (Outbound.broadcast data).bytes = .ok ⟨"", .query, data⟩
  error (message : String) : Inbound.parse (Outbound.error clientId message).bytes =
    .error (.sendOnly Command.error.wire)

/-- What is read is what the four members say. -/
structure FieldsDecide : Prop where
  /-- Any other payload is no document or no object. -/
  spelled (payload : Bytes) : (∃ texts members, Spells payload texts ∧ AreMembers texts members) ∨
    Inbound.parse payload = .error .malformed ∨ Inbound.parse payload = .error .notObject
  depends {p q : Bytes} {texts texts' : List (List Char)}
    {members members' : List (String × Json)} :
    Spells p texts → AreMembers texts members → Spells q texts' → AreMembers texts' members' →
    (∀ key ∈ fields, last? key members = last? key members') → Inbound.parse p = Inbound.parse q
  added {p q : Bytes} {before after : List (List Char)} {members : List (String × Json)}
    {text : List Char} {m : String × Json} :
    Spells p (before ++ after) → AreMembers (before ++ after) members →
    IsMember text m → m.1 ∉ fields → Spells q (before ++ text :: after) →
    Inbound.parse q = Inbound.parse p
  reordered {p q : Bytes} {texts texts' : List (List Char)} {members : List (String × Json)} :
    Spells p texts → AreMembers texts members → (members.map Prod.fst).Nodup →
    texts.Perm texts' → Spells q texts' → Inbound.parse q = Inbound.parse p
  /-- The body is taken whatever the data are, and also if it is null. -/
  body_wins {p : Bytes} {texts : List (List Char)} {members : List (String × Json)} {c : Command}
    {body : Json} : Spells p texts → AreMembers texts members →
    last? "type" members = some (.string c.wire) → c.isInbound = true →
    last? "body" members = some body → ∃ id, Inbound.parse p = .ok ⟨id, c, body⟩

variable {payload p q : Bytes} {texts texts' : List (List Char)}
  {members members' : List (String × Json)}

/-! ### Which payloads are objects -/

lemma ofBytes?_eq_object_iff {ms : List (String × Json)} :
    Json.ofBytes? payload = some (.object ms) ↔ ∃ texts members,
      Spells payload texts ∧ AreMembers texts members ∧ Json.sorted members = ms := by
  constructor
  · intro h
    obtain ⟨s, hs, h⟩ := Option.bind_eq_some_iff.mp h
    unfold Json.ofChars? at h
    split at h
    · rename_i v after hread
      obtain ⟨hafter, rfl⟩ : (Json.skipSpace after).isEmpty = true ∧ v = .object ms := by
        simpa using h
      obtain ⟨before, hbefore, hsplit, -⟩ := Json.exists_blank s
      obtain ⟨inner, texts, members, hobject, hinner, hmembers, hms⟩ :=
        Json.readValue_eq_object_iff.mp hread
      rw [hobject] at hsplit
      refine ⟨texts, members, ⟨before, inner, after, ?_, hbefore, hinner, ?_⟩, hmembers, hms⟩
      · rw [hs, hsplit]
      · exact Json.blank_of_skipSpace (List.isEmpty_iff.mp hafter)
    · cases h
  · rintro ⟨texts, members, ⟨before, inner, after, hs, hbefore, hinner, hafter⟩, hmembers, hms⟩
    have hread : readValue Json.maxDepth ('{' :: (inner ++ '}' :: after)) =
        some (.object ms, after) :=
      Json.readValue_eq_object_iff.mpr ⟨inner, texts, members, rfl, hinner, hmembers, hms⟩
    rw [Json.ofBytes?, hs, Option.bind_some, Json.ofChars?, Json.skipSpace_append hbefore,
      Json.skipSpace_of_readValue hread, hread]
    simp [Json.skipSpace_blank hafter]

/-! ### Members -/

lemma ofMembers_congr (h : ∀ key ∈ fields, member? key members = member? key members') :
    Inbound.ofMembers members = Inbound.ofMembers members' := by
  simp only [fields, List.forall_mem_cons] at h
  obtain ⟨htype, hid, hbody, hdata, -⟩ := h
  simp only [Inbound.ofMembers, Inbound.idOf, Inbound.bodyOf, htype, hid, hbody, hdata]

lemma parse_of_spells (h : Spells payload texts) (hm : AreMembers texts members) :
    Inbound.parse payload = Inbound.ofMembers members.reverse := by
  have hobject := ofBytes?_eq_object_iff.mpr ⟨texts, members, h, hm, rfl⟩
  rw [Inbound.parse, hobject]
  exact ofMembers_congr fun key _ => Json.member?_sorted key members

lemma spelled (payload : Bytes) :
    (∃ texts members, Spells payload texts ∧ AreMembers texts members) ∨
      Inbound.parse payload = .error .malformed ∨ Inbound.parse payload = .error .notObject := by
  rcases h : Json.ofBytes? payload with _ | v
  · refine .inr (.inl ?_)
    rw [Inbound.parse, h]
  · cases v with
    | object ms =>
      obtain ⟨texts, members, hs, hm, -⟩ := ofBytes?_eq_object_iff.mp h
      exact .inl ⟨texts, members, hs, hm⟩
    | _ =>
      refine .inr (.inr ?_)
      rw [Inbound.parse, h]

lemma parse_congr (hp : Spells p texts) (hm : AreMembers texts members) (hq : Spells q texts')
    (hm' : AreMembers texts' members')
    (h : ∀ key ∈ fields, last? key members = last? key members') :
    Inbound.parse p = Inbound.parse q := by
  rw [parse_of_spells hp hm, parse_of_spells hq hm']
  exact ofMembers_congr h

lemma member?_append (key : String) (ms ns : List (String × Json)) :
    member? key (ms ++ ns) = (member? key ms).or (member? key ns) := by
  simp [member?, List.find?_append, Option.map_or]

lemma last?_insert {key : String} {m : String × Json} (hm : m.1 ≠ key)
    (ms ns : List (String × Json)) : last? key (ms ++ m :: ns) = last? key (ms ++ ns) := by
  obtain ⟨k, v⟩ := m
  have hk : k ≠ key := hm
  simp [last?, member?_append, Json.member?_cons, hk]

lemma member?_eq_some_iff {key : String} {v : Json} (h : (members.map Prod.fst).Nodup) :
    member? key members = some v ↔ (key, v) ∈ members := by
  induction members with
  | nil => simp [member?]
  | cons m members ih =>
    obtain ⟨k, w⟩ := m
    rw [List.map_cons, List.nodup_cons] at h
    rw [Json.member?_cons, List.mem_cons]
    split_ifs with hk
    · subst hk
      have hnot : (k, v) ∉ members := fun hv => h.1 (List.mem_map.mpr ⟨_, hv, rfl⟩)
      simp [hnot, eq_comm]
    · rw [ih h.2]
      simp [Ne.symm hk]

lemma last?_perm {key : String} (h : (members.map Prod.fst).Nodup)
    (hperm : members.Perm members') : last? key members = last? key members' := by
  have hnodup : (members.reverse.map Prod.fst).Nodup :=
    ((List.reverse_perm members).map Prod.fst).nodup_iff.mpr h
  have hreverse : members.reverse.Perm members'.reverse :=
    (List.reverse_perm _).trans (hperm.trans (List.reverse_perm _).symm)
  refine Option.ext fun v => ?_
  rw [last?, last?, member?_eq_some_iff hnodup,
    member?_eq_some_iff ((hreverse.map Prod.fst).nodup_iff.mp hnodup), hreverse.mem_iff]

/-! ### What is read -/

lemma parse_added {before after : List (List Char)} {text : List Char} {m : String × Json}
    (hp : Spells p (before ++ after)) (hms : AreMembers (before ++ after) members)
    (hm : IsMember text m) (hkey : m.1 ∉ fields) (hq : Spells q (before ++ text :: after)) :
    Inbound.parse q = Inbound.parse p := by
  have hbefore := List.forall₂_take before.length hms
  have hafter := List.forall₂_drop before.length hms
  rw [List.take_left] at hbefore
  rw [List.drop_left] at hafter
  rw [← List.take_append_drop before.length members] at hms
  have hms' : AreMembers (before ++ text :: after)
      (members.take before.length ++ m :: members.drop before.length) :=
    List.rel_append hbefore (.cons hm hafter)
  refine parse_congr hq hms' hp hms fun key hkey' => last?_insert ?_ _ _
  rintro rfl
  exact hkey hkey'

lemma parse_reordered (hp : Spells p texts) (hm : AreMembers texts members)
    (hkeys : (members.map Prod.fst).Nodup) (hperm : texts.Perm texts') (hq : Spells q texts') :
    Inbound.parse q = Inbound.parse p := by
  obtain ⟨members', hm', hperm'⟩ := List.perm_comp_forall₂ hperm.symm hm
  exact (parse_congr hp hm hq hm' fun key _ => last?_perm hkeys hperm'.symm).symm

lemma parse_body {c : Command} {body : Json} (hp : Spells p texts) (hm : AreMembers texts members)
    (htype : last? "type" members = some (.string c.wire)) (hc : c.isInbound = true)
    (hbody : last? "body" members = some body) : ∃ id, Inbound.parse p = .ok ⟨id, c, body⟩ := by
  refine ⟨Inbound.idOf members.reverse, ?_⟩
  have hbody' : Inbound.bodyOf members.reverse = body := by
    rw [Inbound.bodyOf, ← last?, hbody]
  rw [parse_of_spells hp hm, Inbound.ofMembers_of_type hc htype, hbody']

/-- **What is read is what the four members say.** -/
lemma fieldsDecide : FieldsDecide where
  spelled := spelled
  depends := parse_congr
  added := parse_added
  reordered := parse_reordered
  body_wins := parse_body

/-! ### What is sent -/

lemma compact_toJson {m : Outbound} (h : m.toJson = .object members) : Compact m members := by
  rw [Compact, ← Json.membersChars_eq, Outbound.bytes, h]
  rfl

lemma spells_printed (members : List (String × Json)) :
    Spells (Json.object members).bytes (members.map Json.memberChars) :=
  ⟨[], Json.membersChars members, [], Utf8.decode?_encode _, Json.blank_nil,
    .inl (Json.membersChars_eq members), Json.blank_nil⟩

lemma parse_printed (h : ∀ m ∈ members, readValue valueDepth m.2.chars = some (m.2, [])) :
    Inbound.parse (Json.object members).bytes = Inbound.ofMembers members.reverse :=
  parse_of_spells (spells_printed members) (Json.reads_members h)

lemma parse_reply (id : Option String) (clientId : String) {c : Command}
    (hc : c.isInbound = true) {data : Option Json}
    (hdata : ∀ v ∈ data, readValue valueDepth v.chars = some (v, [])) :
    Inbound.parse (Outbound.reply id clientId c data).bytes =
      .ok ⟨id.getD "", c, data.getD (.object [])⟩ := by
  have hstring (s : String) : readValue valueDepth (Json.string s).chars = some (.string s, []) :=
    Json.readValue_string valueDepth s
  unfold Outbound.bytes Outbound.toJson
  rw [parse_printed, Inbound.ofMembers_of_type hc]
  · cases id <;> cases data <;> simp [Inbound.idOf, Inbound.bodyOf, Json.member?_cons]
  · cases data <;> simp [Json.member?_cons]
  · cases id <;> cases data <;> simp [hstring, hdata]

lemma parse_error (clientId message : String) :
    Inbound.parse (Outbound.error clientId message).bytes =
      .error (.sendOnly Command.error.wire) := by
  unfold Outbound.bytes Outbound.toJson
  rw [parse_printed]
  · simp [Inbound.ofMembers, Json.member?_cons, Command.ofWire, Command.wire]
  · simp [Json.readValue_string]

lemma written (id clientId : String) (c : Command) (data : Json) :
    Written id clientId c data where
  answer := compact_toJson rfl
  heartbeat := compact_toJson rfl
  broadcast := compact_toJson rfl
  error _ := compact_toJson rfl

lemma roundTrips (id clientId : String) {c : Command} {data : Json} (hc : c.isInbound = true)
    (hread : readValue valueDepth data.chars = some (data, [])) :
    RoundTrips id clientId c data := by
  have hdata : ∀ v ∈ some data, readValue valueDepth v.chars = some (v, []) := by
    rintro v ⟨⟩
    exact hread
  exact ⟨parse_reply (some id) clientId hc hdata, parse_reply (some id) clientId rfl nofun,
    parse_reply none Outbound.hubIdentity rfl hdata, parse_error clientId⟩

/-- **Envelopes round-trip.** A document without real numbers that nests at most 126 times is read
back with the id and the type that it was sent with, whatever characters the id has. And of any
payload that is an object only four members matter. -/
theorem faithful_envelopes (id clientId : String) {c : Command} {data : Json}
    (hc : c.isInbound = true) (hcanonical : data.Canonical) (hintegral : data.Integral)
    (hdepth : data.depth ≤ 126) :
    Written id clientId c data ∧ RoundTrips id clientId c data ∧ FieldsDecide := by
  have hread : readValue valueDepth data.chars = some (data, []) :=
    Json.readValue_chars hcanonical hintegral hdepth
  exact ⟨written id clientId c data, roundTrips id clientId hc hread, fieldsDecide⟩

/-- The least integer, `n` arrays deep. -/
def nested : Nat → Json
  | 0 => .number (.negative ⟨Nat.pow 2 63 - 1, by decide⟩)
  | n + 1 => .array [.string "\\", nested n]

/-- A document that nests 126 times. -/
def deepest : Json :=
  .object [("\"", .number (.natural 0xFFFFFFFFFFFFFFFF)), ("e\u0301\n", nested 125)]

lemma canonical_nested (n : Nat) : (nested n).Canonical ∧ (nested n).Integral := by
  induction n with
  | zero => exact ⟨.number _, .negative _⟩
  | succ n ih =>
    refine ⟨.array ?_, .array ?_⟩
    · simp [ih.1, Json.Canonical.string]
    · simp [ih.2, Json.Integral.string]

lemma canonical_deepest : deepest.Canonical ∧ deepest.Integral := by
  obtain ⟨hcanonical, hintegral⟩ := canonical_nested 125
  refine ⟨.object (by decide) ?_, .object ?_⟩
  · simp [hcanonical, Json.Canonical.number]
  · simp [hintegral, Json.Integral.natural]

/-- The members of a query whose body is null. -/
def query : List (String × Json) := [("type", .string "GET"), ("body", .null), ("data", deepest)]

/-- A query with a null for its body, to which a member is added, and whose members are put in
another order. -/
theorem faithful_envelopes_deepest : deepest.depth = 126 ∧
    Written "\"\u0000" "\\" .configure deepest ∧
    RoundTrips "\"\u0000" "\\" .configure deepest ∧
    (∃ id, Inbound.parse (Json.object query).bytes = .ok ⟨id, .query, .null⟩) ∧
    Inbound.parse (Json.object (query ++ [("x", deepest)])).bytes =
      Inbound.parse (Json.object query).bytes ∧
    Inbound.parse (Json.object query.reverse).bytes = Inbound.parse (Json.object query).bytes := by
  have hdepth : deepest.depth = 126 := by decide +kernel
  obtain ⟨hcanonical, hintegral⟩ := canonical_deepest
  obtain ⟨hwritten, hround, hfields⟩ := faithful_envelopes "\"\u0000" "\\" (c := .configure)
    rfl hcanonical hintegral (Nat.le_of_eq hdepth)
  have hdeepest : readValue valueDepth deepest.chars = some (deepest, []) :=
    Json.readValue_chars hcanonical hintegral (Nat.le_of_eq hdepth)
  have hmembers : AreMembers (query.map Json.memberChars) query := by
    refine Json.reads_members ?_
    simp only [query, List.forall_mem_cons]
    exact ⟨Json.readValue_string _ _, Json.readValue_of_ne _ (by decide), hdeepest, nofun⟩
  have hspells := spells_printed query
  refine ⟨hdepth, hwritten, hround, ?_, ?_, ?_⟩
  · exact hfields.body_wins hspells hmembers rfl rfl rfl
  · have hadded := spells_printed (query ++ [("x", deepest)])
    rw [List.map_append] at hadded
    rw [← List.append_nil (query.map Json.memberChars)] at hspells hmembers
    exact hfields.added hspells hmembers (Json.reads_member "x" hdeepest) (by decide) hadded
  · refine hfields.reordered hspells hmembers (by decide) ?_ (spells_printed query.reverse)
    rw [List.map_reverse]
    exact (List.reverse_perm _).symm

end Envelopes

end HomeHub
