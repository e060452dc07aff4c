import HomeHub.Proofs.Isolation

/-!
Runs of a registry with its links: connections come and sessions end, frames are queued for one of
them or for all, and the writers go on.

Save for an admission a step looks at the sessions one by one. Some end, which releases their links,
and the others are changed on their own; so a step is known from what it does to a session
(`Carries`). A link is held by one session or is among the released ones, and none is lost
(`Linked`).
-/

namespace HomeHub

namespace Connections

/-- The numbers of the links that sessions hold, and then of the released ones. -/
def numbers (c : Connections) : List Nat :=
  c.registry.sessions.filterMap (fun a => a.link.map (·.number)) ++ c.released.map (·.number)

/-- The link of the next connection. -/
def nextLink (c : Connections) (transport : Transport) : Link :=
  .new c.made transport.slots transport.sink

lemma mem_links_iff {c : Connections} {l : Link} :
    l ∈ c.links ↔ (∃ a ∈ c.registry.sessions, a.link = some l) ∨ l ∈ c.released := by
  rw [links, (List.mergeSort_perm _ _).mem_iff, List.mem_append, List.mem_filterMap]

end Connections

namespace ConnectionRuns

/-! ### Operations -/

inductive Operation
  | enroll (identity : String) (transport : Option Transport) (now : Time)
  | evict (identity : String)
  | evictSession (identity : String) (id : Nat)
  | reap (now : Time) (timeout : Nat)
  | closeAll
  /-- What is done to a session that has been looked up, such as to queue any bytes. -/
  | task (identity : String) (task : RegistryRuns.Task)
  | sendTo (outbox : Outbox) (nonce : Nonce) (identity : String) (message : Outbound)
  | fanOut (outbox : Outbox) (nonce : Nonce) (message : Outbound)
  /-- The writer of a link goes on. -/
  | write (number : Nat) (event : Writer.Event)

def progress (number : Nat) (event : Writer.Event) (l : Link) : Link :=
  if l.number = number then l.progress event else l

namespace Operation

def run (c : Connections) : Operation → Connections
  | enroll x transport now => (c.enroll x transport now).2
  | evict x => (c.evict x).2
  | evictSession x i => (c.evictSession x i).2
  | reap now timeout => (c.reap now timeout).2
  | closeAll => c.closeAll.2
  | task x t => { c with registry := c.registry.modify x fun a => (t.run a).2 }
  | sendTo o nonce x m => { c with registry := (o.sendTo nonce c.registry x m).2 }
  | fanOut o nonce m => { c with registry := (o.fanOut nonce c.registry m).2 }
  | write n e => c.mapLinks (progress n e)

/-- A new connection has a sink that has not been called yet. -/
def Fresh : Operation → Prop
  | enroll _ transport _ => ∀ t ∈ transport, t.sink.log = []
  | _ => True

/-- Whether a session ends. -/
def ends (o : Operation) (a : Session) : Bool :=
  match o with
  | evict x => a.identity == x
  | evictSession x i => a.identity == x && a.id == i
  | reap now timeout => a.isIdle now timeout
  | closeAll => true
  | _ => false

/-- What becomes of a session that does not end. -/
def change (o : Operation) (a : Session) : Session :=
  match o with
  | task x t => if a.identity = x then (t.run a).2 else a
  | sendTo o nonce x m => if a.identity = x then (a.send (o.prepare nonce m)).2 else a
  | fanOut o nonce m => (a.send (o.prepare nonce m)).2
  | write n e => { a with link := a.link.map (progress n e) }
  | _ => a

/-- What becomes of a released link. -/
def changeLink (o : Operation) (l : Link) : Link :=
  match o with
  | write n e => progress n e l
  | _ => l

end Operation

structure Event where
  operation : Operation
  before : Connections

inductive Step (c : Connections) : Event → Connections → Prop
  | run (o : Operation) : o.Fresh → Step c ⟨o, c⟩ (o.run c)

def act (c : Connections) (o : Operation) : Event × Connections := (⟨o, c⟩, o.run c)

lemma run_play (c : Connections) (os : List Operation) (h : ∀ o ∈ os, o.Fresh) :
    Run Step c (Run.play act c os).1 (Run.play act c os).2 := by
  induction os generalizing c with
  | nil => exact .nil
  | cons o os ih =>
    rw [List.forall_mem_cons] at h
    exact (Run.nil.snoc (.run o h.1)).trans (ih (o.run c) h.2)

/-! ### What a step does -/

variable {config : Registry.Config} {c c' : Connections} {o : Operation} {e : Event}
  {log : List Event} {a : Session} {l : Link}

/-- A step that admits nobody goes by what it does to a session. -/
structure Carries (o : Operation) (c c' : Connections) : Prop where
  registry : c'.registry = (c.registry.remove o.ends).2.mapSessions o.change
  released : c'.released =
    c.released.map o.changeLink ++ Registry.releasedLinks (c.registry.sessions.filter o.ends)
  made : c'.made = c.made

/-- A connection comes and gets a session, or its link, if it has one, is released at once. -/
structure Enrolls (x : String) (transport : Option Transport) (now : Time) (c c' : Connections) :
    Prop where
  seated :
    (∃ k, Registry.Admits x k (transport.map c.nextLink) now c.registry c'.registry ∧
      c'.released = c.released) ∨
    c'.registry = c.registry ∧
      c'.released = c.released ++ (transport.map c.nextLink).toList.map Link.refuse
  made : c'.made = c.made + transport.toList.length

lemma carries_settle (ho : o.change = id) (hl : o.changeLink = id) :
    Carries o c (c.settle (c.registry.remove o.ends)).2 where
  registry := by rw [ho, Registry.mapSessions_id]; rfl
  released := by rw [hl, List.map_id]; rfl
  made := rfl

lemma carries_mapSessions (ho : o.ends = fun _ => false) (hl : o.changeLink = id) :
    Carries o c { c with registry := c.registry.mapSessions o.change } where
  registry := by rw [ho, Registry.remove_eq_self fun _ _ => rfl]
  released := by
    rw [hl, ho, List.map_id, List.filter_false]
    exact (List.append_nil _).symm
  made := rfl

lemma carries_write (number : Nat) (event : Writer.Event) :
    Carries (.write number event) c (c.mapLinks (progress number event)) where
  registry := by
    rw [show (Operation.write number event).ends = fun _ => false from rfl,
      Registry.remove_eq_self fun _ _ => rfl]
    rfl
  released := by
    rw [show (Operation.write number event).ends = fun _ => false from rfl, List.filter_false]
    exact (List.append_nil _).symm
  made := rfl

lemma enroll_eq (x : String) (transport : Option Transport) (now : Time) :
    (c.enroll x transport now).2 =
      ⟨(c.registry.enroll x (transport.map c.nextLink) now).2.1,
        c.released ++ (c.registry.enroll x (transport.map c.nextLink) now).2.2.toList,
        c.made + (transport.map c.nextLink).toList.length⟩ := rfl

lemma enrolls_run (hs : c.registry.Sound) (x : String) (transport : Option Transport) (now : Time) :
    Enrolls x transport now c (c.enroll x transport now).2 := by
  have hmade : (transport.map c.nextLink).toList.length = transport.toList.length := by
    cases transport <;> rfl
  have hrefuse : ((transport.map c.nextLink).map Link.refuse).toList =
      (transport.map c.nextLink).toList.map Link.refuse := by
    cases transport <;> rfl
  rw [enroll_eq]
  refine ⟨?_, congrArg (c.made + ·) hmade⟩
  rcases Registry.enroll_cases hs x (transport.map c.nextLink) now with
    ⟨n, a, -, -, h⟩ | ⟨-, -, h⟩ | ⟨n, -, -, -, h⟩
  · rw [h, hrefuse]
    exact .inr ⟨rfl, rfl⟩
  · rw [h, hrefuse]
    exact .inr ⟨rfl, rfl⟩
  · have hadmits := Registry.admits_enroll (congrArg Prod.fst h)
    rw [h] at hadmits ⊢
    exact .inl ⟨_, hadmits, List.append_nil _⟩

/-- What a step does. -/
theorem run_cases (hs : c.registry.Sound) (o : Operation) :
    (∃ x transport now, o = .enroll x transport now ∧ Enrolls x transport now c (o.run c)) ∨
      Carries o c (o.run c) := by
  cases o with
  | enroll x transport now => exact .inl ⟨x, transport, now, rfl, enrolls_run hs x transport now⟩
  | evict x => exact .inr (carries_settle rfl rfl)
  | evictSession x i => exact .inr (carries_settle rfl rfl)
  | reap now timeout => exact .inr (carries_settle rfl rfl)
  | closeAll => exact .inr (carries_settle rfl rfl)
  | task x t => exact .inr (carries_mapSessions rfl rfl)
  | sendTo o nonce x m =>
    rw [Operation.run, Registry.registry_sendTo, hs.send_eq]
    exact .inr (carries_mapSessions (o := .sendTo o nonce x m) rfl rfl)
  | fanOut o nonce m => exact .inr (carries_mapSessions rfl rfl)
  | write n e => exact .inr (carries_write n e)

/-! ### Sessions and the numbers of links -/

/-- What no step changes of a session. -/
structure Kept (a b : Session) : Prop where
  identity : b.identity = a.identity
  id : b.id = a.id
  sendCapacity : b.sendCapacity = a.sendCapacity
  number : b.link.map (·.number) = a.link.map (·.number)

lemma kept_refl (a : Session) : Kept a a := ⟨rfl, rfl, rfl, rfl⟩

lemma kept_send (a : Session) (frame : Bytes) : Kept a (a.send frame).2 := by
  rw [Session.send_snd]
  split
  · exact ⟨rfl, rfl, rfl, by cases h : a.link <;> simp [Session.push, h]⟩
  · exact kept_refl a

@[simp] lemma number_progress (number : Nat) (event : Writer.Event) (l : Link) :
    (progress number event l).number = l.number := by
  unfold progress
  split <;> rfl

@[simp] lemma number_changeLink (o : Operation) (l : Link) :
    (o.changeLink l).number = l.number := by
  cases o with
  | write n e => exact number_progress n e l
  | _ => rfl

lemma kept_change (o : Operation) (a : Session) : Kept a (o.change a) := by
  cases o with
  | task x t =>
    simp only [Operation.change]
    split
    · cases t with
      | send frame => exact kept_send a frame
      | _ => exact ⟨rfl, rfl, rfl, rfl⟩
    · exact kept_refl a
  | sendTo o nonce x m =>
    simp only [Operation.change]
    split
    · exact kept_send a _
    · exact kept_refl a
  | fanOut o nonce m => exact kept_send a _
  | write n e => exact ⟨rfl, rfl, rfl, by cases h : a.link <;> simp [Operation.change, h]⟩
  | _ => exact kept_refl a

lemma Carries.sessions (h : Carries o c c') : c'.registry.sessions =
    (c.registry.sessions.filter fun a => !o.ends a).map o.change := by
  rw [h.registry, Registry.sessions_mapSessions, Registry.sessions_remove]

lemma Carries.sound (h : Carries o c c') (hs : c.registry.Sound) : c'.registry.Sound := by
  rw [h.registry]
  refine Registry.Onward.sound (R := fun _ _ => True) (Registry.onward_mapSessions fun a _ => ?_)
    (hs.remove o.ends)
  exact ⟨(kept_change o a).identity, (kept_change o a).id, trivial⟩

lemma sound_run (hs : c.registry.Sound) (o : Operation) : (o.run c).registry.Sound := by
  rcases run_cases hs o with ⟨x, transport, now, -, h⟩ | h
  · rcases h.seated with ⟨k, hadmits, -⟩ | ⟨hsame, -⟩
    · exact hadmits.sound hs
    · rwa [hsame]
  · exact h.sound hs

lemma config_run (hs : c.registry.Sound) (o : Operation) :
    (o.run c).registry.config = c.registry.config := by
  rcases run_cases hs o with ⟨x, transport, now, -, h⟩ | h
  · rcases h.seated with ⟨k, hadmits, -⟩ | ⟨hsame, -⟩
    · exact hadmits.config
    · rw [hsame]
  · rw [h.registry]
    rfl

/-- Links change hands, and none comes or goes. -/
lemma Carries.numbers_perm (h : Carries o c c') : c'.numbers.Perm c.numbers := by
  have hheld : c'.registry.sessions.filterMap (fun a => a.link.map (·.number)) =
      (c.registry.sessions.filter fun a => !o.ends a).filterMap fun a => a.link.map (·.number) := by
    rw [h.sessions, List.filterMap_map]
    simp only [Function.comp_def, (kept_change o _).number]
  have hreleased : c'.released.map (·.number) = c.released.map (·.number) ++
      (c.registry.sessions.filter o.ends).filterMap fun a => a.link.map (·.number) := by
    rw [h.released, List.map_append, List.map_map, Registry.releasedLinks, List.map_filterMap]
    simp only [Function.comp_def, number_changeLink, Session.released, Option.map_map]
    rfl
  have hparts := (List.filter_append_perm o.ends c.registry.sessions).filterMap
    fun a => a.link.map (·.number)
  rw [List.filterMap_append] at hparts
  rw [Connections.numbers, Connections.numbers, hheld, hreleased]
  refine (List.perm_append_comm.append_left _).trans ?_
  rw [← List.append_assoc]
  exact (List.perm_append_comm.trans hparts).append_right _

lemma Enrolls.numbers_perm {x : String} {transport : Option Transport} {now : Time}
    (h : Enrolls x transport now c c') :
    c'.numbers.Perm ((transport.toList.map fun _ => c.made) ++ c.numbers) := by
  rcases h.seated with ⟨k, hadmits, hreleased⟩ | ⟨hsame, hreleased⟩
  · have hheld := hadmits.sessions.filterMap fun a => a.link.map (·.number)
    rw [Connections.numbers, hreleased]
    refine (hheld.append_right _).trans (List.Perm.of_eq ?_)
    rcases transport with _ | t <;> rfl
  · rw [Connections.numbers, hsame, hreleased, List.map_append, ← List.append_assoc]
    refine List.perm_append_comm.trans (List.Perm.of_eq ?_)
    rcases transport with _ | t <;> rfl

/-! ### Runs -/

/-- The links that sessions hold and the released ones are together all links there have been, each
of them once. -/
structure Linked (config : Registry.Config) (c : Connections) : Prop where
  sound : c.registry.Sound
  fixed : c.registry.config = config
  numbers : c.numbers.Perm (List.range c.made)

lemma Linked.nodup (h : Linked config c) : c.numbers.Nodup :=
  h.numbers.nodup_iff.mpr List.nodup_range

lemma Linked.lt_made (h : Linked config c) {n : Nat} (hn : n ∈ c.numbers) : n < c.made :=
  List.mem_range.mp (h.numbers.mem_iff.mp hn)

lemma linked_new (config : Registry.Config) : Linked config (.new config) where
  sound := RegistryRuns.sound_new config
  fixed := rfl
  numbers := by
    rw [Connections.numbers, Connections.new, RegistryRuns.sessions_new]
    rfl

lemma linked_run (hi : Linked config c) (o : Operation) : Linked config (o.run c) where
  sound := sound_run hi.sound o
  fixed := (config_run hi.sound o).trans hi.fixed
  numbers := by
    rcases run_cases hi.sound o with ⟨x, transport, now, -, h⟩ | h
    · refine h.numbers_perm.trans ?_
      rw [h.made]
      rcases transport with _ | t
      · exact hi.numbers
      · rw [Option.toList_some, List.length_singleton, List.range_succ]
        exact (hi.numbers.cons _).trans (List.perm_append_singleton ..).symm
    · rw [h.made]
      exact h.numbers_perm.trans hi.numbers

/-- **No link is lost**, and none has two holders. -/
theorem linked_of_run (h : Run Step (.new config) log c) : Linked config c :=
  h.invariant (I := fun _ c => Linked config c) (linked_new config)
    fun hi hstep => by obtain ⟨o, -⟩ := hstep; exact linked_run hi o

end ConnectionRuns

end HomeHub
