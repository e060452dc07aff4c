import HomeHub.Proofs.RegistryRuns

/-!
A message to all. Whether a session takes the frame is settled by that session alone: by the longest
frame that it may send, by the writer behind it and by the room in its queue. So the registry may be
read slot by slot, and a slot does not see the others.
-/

namespace HomeHub

namespace Session

variable {a : Session} {frame : Bytes}

lemma isQueued_send : Outbox.isQueued (a.send frame) = decide (a.Takes frame) := by
  have h := a.send_eq frame
  split_ifs at h with htakes
  · rw [h, decide_eq_true htakes]
    rfl
  · obtain ⟨why, h⟩ := h
    rw [h, decide_eq_false htakes]
    rfl

end Session

namespace Registry

open Session (Takes)

variable {r : Registry} {a : Session} {n m : Nat} {frame : Bytes}

/-! ### All sessions -/

/-- The registry as if the session in one slot were the only one. -/
def only (r : Registry) (n : Nat) : Registry :=
  { r with slots := (List.replicate r.capacity none).set n (r.occupant n) }

lemma lt_capacity_of_occupant (ha : r.occupant n = some a) : n < r.capacity :=
  (List.getElem?_eq_some_iff.mp (occupant_eq_some_iff.mp ha)).1

lemma occupant_only (ha : r.occupant n = some a) : (r.only n).occupant n = some a := by
  have hn : n < (List.replicate r.capacity (none : Option Session)).length := by
    rw [List.length_replicate]
    exact lt_capacity_of_occupant ha
  rw [occupant_eq_some_iff, only, List.getElem?_set_self hn, ha]

lemma sessions_only (ha : r.occupant n = some a) : (r.only n).sessions = [a] := by
  have hn := lt_capacity_of_occupant ha
  have hnone (k : Nat) : (List.replicate k (none : Option Session)).filterMap id = [] :=
    List.filterMap_replicate_of_none rfl
  rw [sessions, only, ha, List.set_eq_take_append_cons_drop, List.length_replicate, if_pos hn,
    List.take_replicate, List.drop_replicate, List.filterMap_append, List.filterMap_cons, hnone,
    hnone]
  rfl

lemma occupant_fanOutFrame (r : Registry) (frame : Bytes) (n : Nat) :
    (Outbox.fanOutFrame r frame).2.occupant n =
      (r.occupant n).map fun a => if a.Takes frame then a.push frame else a := by
  simp only [← Session.send_snd]
  exact occupant_mapSessions _

lemma count_fanOutFrame (r : Registry) (frame : Bytes) : (Outbox.fanOutFrame r frame).1 =
    ⟨r.sessions.countP fun a => a.Takes frame, r.sessions.countP fun a => ¬ a.Takes frame⟩ := by
  simp only [Outbox.fanOutFrame, List.countP_map, Function.comp_def, Session.isQueued_send,
    decide_not]

lemma count_fanOutFrame_only (ha : r.occupant n = some a) (frame : Bytes) :
    (Outbox.fanOutFrame (r.only n) frame).1 = if a.Takes frame then ⟨1, 0⟩ else ⟨0, 1⟩ := by
  rw [count_fanOutFrame, sessions_only ha, List.countP_singleton, List.countP_singleton]
  by_cases htakes : a.Takes frame <;> simp [htakes]

lemma occupant_fanOutFrame_only (ha : r.occupant n = some a) (frame : Bytes) :
    (Outbox.fanOutFrame (r.only n) frame).2.occupant n =
      (Outbox.fanOutFrame r frame).2.occupant n := by
  rw [occupant_fanOutFrame, occupant_fanOutFrame, occupant_only ha, ha]

lemma total_fanOutFrame (r : Registry) (frame : Bytes) :
    (Outbox.fanOutFrame r frame).1.delivered + (Outbox.fanOutFrame r frame).1.failed = r.size := by
  rw [count_fanOutFrame, size,
    List.length_eq_countP_add_countP (fun a : Session => decide (a.Takes frame))]
  simp only [decide_eq_true_eq]

/-- What a frame for all does to a registry, and what it comes to. -/
structure FannedOut (frame : Bytes) (r : Registry) (count : FanOut) (t : Registry) : Prop where
  /-- A session that can take the frame has it once at the end of its queue, and is otherwise as
  before. -/
  taken : ∀ {n a}, r.occupant n = some a → a.Takes frame →
    t.occupant n = some (a.push frame) ∧ (a.push frame).queue = a.queue ++ [frame]
  /-- Any other session is as before, queue and all. -/
  passed : ∀ {n a}, r.occupant n = some a → ¬ a.Takes frame → t.occupant n = some a
  free : ∀ {n}, r.occupant n = none → t.occupant n = none
  frozen : t.capacity = r.capacity ∧ t.config = r.config ∧ t.nextId = r.nextId
  delivered : count.delivered = r.sessions.countP fun a => a.Takes frame
  failed : count.failed = r.sessions.countP fun a => ¬ a.Takes frame
  total : count.delivered + count.failed = r.size
  /-- It would have been the same for a session without the others. -/
  alone : ∀ {n a}, r.occupant n = some a →
    (Outbox.fanOutFrame (r.only n) frame).2.occupant n = t.occupant n ∧
    (Outbox.fanOutFrame (r.only n) frame).1 = if a.Takes frame then ⟨1, 0⟩ else ⟨0, 1⟩

/-- **To all who can take it, and nobody else is affected.** Whatever the sessions of a registry are
like, a message to all puts one frame, the same for all, behind the queue of every session that can
take it, and changes nothing else in the registry. Each session is counted once, as it would have
been without the others. -/
theorem fannedOut_fanOut (o : Outbox) (nonce : Nonce) (r : Registry) (message : Outbound) :
    FannedOut (o.prepare nonce message) r (o.fanOut nonce r message).1
      (o.fanOut nonce r message).2 := by
  have hcount := count_fanOutFrame r (o.prepare nonce message)
  refine ⟨fun ha htakes => ⟨?_, Session.queue_push htakes⟩, fun ha hnot => ?_, fun hnone => ?_,
    ⟨capacity_mapSessions _, rfl, rfl⟩, congrArg FanOut.delivered hcount,
    congrArg FanOut.failed hcount, total_fanOutFrame r _,
    fun ha => ⟨occupant_fanOutFrame_only ha _, count_fanOutFrame_only ha _⟩⟩
  all_goals rw [Outbox.fanOut, occupant_fanOutFrame]
  · rw [ha, Option.map_some, if_pos htakes]
  · rw [ha, Option.map_some, if_neg hnot]
  · rw [hnone, Option.map_none]

/-- A free slot, a session that can take the frame, and four that cannot: one has no transport, the
queue of one is full, the writer of one has failed, and one may send two bytes only. -/
example :
    let session (x : String) (capacity : Nat) (w : Option Writer) : Session :=
      .new x 1 capacity 5000 (w.map fun w => ⟨0, w, .eager, .kept⟩) 0
    let idle := Writer.new 1
    let able := session "10.0.0.1:1" 8 idle
    let unable := [session "10.0.0.2:1" 8 none, session "10.0.0.3:1" 8 (idle.send [120]).2,
      session "10.0.0.4:1" 8 idle.fail, session "10.0.0.5:1" 2 idle]
    Outbox.fanOutFrame ⟨none :: some able :: unable.map some, defaultConfig, 6⟩ [49, 59, 120] =
      (⟨1, 4⟩, ⟨none :: some (able.push [49, 59, 120]) :: unable.map some, defaultConfig, 6⟩) := by
  decide

end Registry

end HomeHub
