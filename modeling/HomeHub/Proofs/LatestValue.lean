import HomeHub.Broadcast
import HomeHub.Proofs.Runs

/-!
The slot relays the latest value. In whatever order values are put in and asked for, and whatever
times the calls come with, a value that is given out is the last one that was put in and has not
been given out before, and it comes an interval after the one given out before it.

A value waits from its publication on, as long as all that follows is asked in vain. The slot holds
the value that waits, and the time of the last delivery is one that no delivery was later than.
-/

namespace HomeHub.LatestValue

/-! ### Runs -/

inductive Event
  /-- A value was put in; tells whether it overwrote one. -/
  | published (value : Json) (overwrote : Bool)
  /-- The slot was asked for a value. -/
  | asked (now : Time) (given : Option Json)

inductive Step (b : BroadcastSlot) : Event → BroadcastSlot → Prop
  | publish (value : Json) : Step b (.published value (b.publish value).1) (b.publish value).2
  | takeDue (now : Time) : Step b (.asked now (b.takeDue now).1) (b.takeDue now).2

/-! ### What a log tells -/

/-- The values put in, first to last. -/
def publications (log : List Event) : List Json :=
  log.filterMap fun
    | .published value _ => some value
    | .asked _ _ => none

/-- The values given out, each with its time, first to last. -/
def deliveries (log : List Event) : List (Time × Json) :=
  log.filterMap fun
    | .asked now (some value) => some (now, value)
    | _ => none

/-- How many values were overwritten before they were given out. -/
def overwritten (log : List Event) : Nat :=
  log.countP fun
    | .published _ overwrote => overwrote
    | .asked _ _ => false

/-- The value was put in last of all and has not been given out since. -/
def Waits (log : List Event) (value : Json) : Prop :=
  ∃ before e after, log = before ++ e :: after ∧ (∃ overwrote, e = .published value overwrote) ∧
    ∀ a ∈ after, ∃ now, a = .asked now none

variable {log : List Event} {e : Event} {value : Json} {b c : BroadcastSlot} {interval : Nat}

lemma publications_snoc : publications (log ++ [e]) = publications log ++ publications [e] :=
  List.filterMap_append

lemma publications_snoc_asked {now : Time} {given : Option Json} :
    publications (log ++ [.asked now given]) = publications log :=
  publications_snoc.trans (List.append_nil _)

lemma deliveries_snoc : deliveries (log ++ [e]) = deliveries log ++ deliveries [e] :=
  List.filterMap_append

lemma overwritten_snoc : overwritten (log ++ [e]) = overwritten log + overwritten [e] :=
  List.countP_append

lemma overwritten_published (value : Json) (overwrote : Bool) :
    overwritten [.published value overwrote] = overwrote.toNat := by
  cases overwrote <;> rfl

lemma waits_snoc : Waits (log ++ [e]) value ↔
    (∃ overwrote, e = .published value overwrote) ∨
      (Waits log value ∧ ∃ now, e = .asked now none) := exists_last_snoc

/-! ### One call -/

lemma isLimited_iff {now : Time} : b.isLimited now = true ↔
    ∃ last, b.lastSent = some last ∧ elapsed last now < b.interval := by
  unfold BroadcastSlot.isLimited
  cases b.lastSent <;> simp

lemma takeDue_cases (b : BroadcastSlot) (now : Time) :
    ((b.pending = none ∨ b.isLimited now = true) ∧ b.takeDue now = (none, b)) ∨
    ∃ value, b.pending = some value ∧ b.isLimited now = false ∧ b.takeDue now = (some value,
      { b with pending := none, lastSent := some now, delivered := b.delivered + 1 }) := by
  unfold BroadcastSlot.takeDue
  rcases b.pending with _ | value
  · exact .inl ⟨.inl rfl, rfl⟩
  · rcases hl : b.isLimited now with _ | _
    · exact .inr ⟨value, rfl, rfl, rfl⟩
    · exact .inl ⟨.inr rfl, rfl⟩

lemma takeDue_eq_none_iff {now : Time} : (b.takeDue now).1 = none ↔
    b.pending = none ∨ b.isLimited now = true := by
  rcases takeDue_cases b now with ⟨h, heq⟩ | ⟨value, hpending, hlimited, heq⟩
  · exact iff_of_true (congrArg Prod.fst heq) h
  · rw [heq, hpending, hlimited]
    simp

/-! ### Invariants -/

/-- What the calls so far have come to. -/
structure Relayed (interval : Nat) (log : List Event) (b : BroadcastSlot) : Prop where
  interval_eq : b.interval = interval
  pending : ∀ value, b.pending = some value ↔ Waits log value
  lastSent : b.lastSent = (deliveries log).getLast?.map Prod.fst
  /-- What is given out is the latest value, and for the first time. -/
  latest : ∀ before now value after,
    log = before ++ .asked now (some value) :: after → Waits before value
  ordered : ((deliveries log).map Prod.snd ++ b.pending.toList).Sublist (publications log)
  spaced : (deliveries log).Pairwise fun d e : Time × Json => d.1 + interval ≤ e.1
  published : b.published = (publications log).length
  delivered : b.delivered = (deliveries log).length
  balanced : b.published = b.delivered + overwritten log + b.pending.isSome.toNat

lemma relayed_new (interval : Nat) : Relayed interval [] (.new interval) where
  interval_eq := rfl
  pending := by simp [BroadcastSlot.new, Waits]
  lastSent := rfl
  latest := by simp
  ordered := List.Sublist.refl _
  spaced := .nil
  published := rfl
  delivered := rfl
  balanced := rfl

lemma latest_snoc
    (h : ∀ before now value after,
      log = before ++ .asked now (some value) :: after → Waits before value)
    (he : ∀ now value, e = .asked now (some value) → Waits log value) :
    ∀ before now value after,
      log ++ [e] = before ++ .asked now (some value) :: after → Waits before value := by
  intro before now value after hlog
  rcases append_singleton_cases hlog with ⟨heq, rfl⟩ | ⟨rest, -, hlog⟩
  · obtain ⟨rfl, -⟩ := List.append_inj' hlog rfl
    exact he now value heq.symm
  · exact h before now value rest hlog

lemma relayed_publish (hi : Relayed interval log b) (value : Json) :
    Relayed interval (log ++ [.published value (b.publish value).1]) (b.publish value).2 := by
  have hdeliveries : deliveries (log ++ [.published value (b.publish value).1]) = deliveries log :=
    deliveries_snoc.trans (List.append_nil _)
  have hpublications : publications (log ++ [.published value (b.publish value).1]) =
      publications log ++ [value] := publications_snoc
  refine ⟨hi.interval_eq, ?_, ?_, latest_snoc hi.latest nofun, ?_, ?_, ?_, ?_, ?_⟩
  · intro v
    simp [BroadcastSlot.publish, waits_snoc, eq_comm]
  · rw [hdeliveries]
    exact hi.lastSent
  · rw [hdeliveries, hpublications]
    exact ((List.sublist_append_left _ _).trans hi.ordered).append (List.Sublist.refl [value])
  · rw [hdeliveries]
    exact hi.spaced
  · rw [hpublications, List.length_append, ← hi.published]
    rfl
  · rw [hdeliveries]
    exact hi.delivered
  · -- the value that was waiting counts as overwritten from now on
    rw [overwritten_snoc, overwritten_published]
    show b.published + 1 = b.delivered + (overwritten log + b.pending.isSome.toNat) + 1
    rw [hi.balanced, Nat.add_assoc b.delivered]

lemma relayed_asked_in_vain (hi : Relayed interval log b) (now : Time) :
    Relayed interval (log ++ [.asked now none]) b := by
  have hdeliveries : deliveries (log ++ [.asked now none]) = deliveries log :=
    deliveries_snoc.trans (List.append_nil _)
  refine ⟨hi.interval_eq, ?_, ?_, latest_snoc hi.latest nofun, ?_, ?_, ?_, ?_, ?_⟩
  · intro v
    simp [hi.pending, waits_snoc]
  · rw [hdeliveries]
    exact hi.lastSent
  · rw [hdeliveries, publications_snoc_asked]
    exact hi.ordered
  · rw [hdeliveries]
    exact hi.spaced
  · rw [publications_snoc_asked]
    exact hi.published
  · rw [hdeliveries]
    exact hi.delivered
  · rw [overwritten_snoc]
    exact hi.balanced

lemma spaced_deliver (hpos : 0 < interval) (hi : Relayed interval log b) {now : Int}
    (hlimited : b.isLimited now = false) : ∀ d ∈ deliveries log, d.1 + interval ≤ now := by
  intro d hd
  rcases List.eq_nil_or_concat (deliveries log) with hnil | ⟨front, last, hlog⟩
  · rw [hnil] at hd
    cases hd
  · rw [List.concat_eq_append] at hlog
    have hlast : b.lastSent = some last.1 := by
      rw [hi.lastSent, hlog, List.getLast?_concat, Option.map_some]
    have hlate : last.1 + interval ≤ now := by
      rw [← le_elapsed_iff hpos, ← hi.interval_eq, ← Nat.not_lt]
      intro hsoon
      rw [isLimited_iff.mpr ⟨last.1, hlast, hsoon⟩] at hlimited
      cases hlimited
    have hspaced := hi.spaced
    rw [hlog, List.pairwise_append] at hspaced
    rw [hlog, List.mem_append, List.mem_singleton] at hd
    rcases hd with hd | rfl
    · -- an earlier one than the last
      have hearly : d.1 + interval ≤ last.1 :=
        hspaced.2.2 d hd last (List.mem_singleton_self last)
      exact Int.le_trans hearly (Int.le_trans (Int.le_add_of_nonneg_right (by omega)) hlate)
    · exact hlate

lemma relayed_deliver (hpos : 0 < interval) (hi : Relayed interval log b) {now : Time}
    (hpending : b.pending = some value) (hlimited : b.isLimited now = false) :
    Relayed interval (log ++ [.asked now (some value)])
      { b with pending := none, lastSent := some now, delivered := b.delivered + 1 } := by
  have hdeliveries : deliveries (log ++ [.asked now (some value)]) =
      deliveries log ++ [(now, value)] := deliveries_snoc
  refine ⟨hi.interval_eq, ?_, ?_, latest_snoc hi.latest ?_, ?_, ?_, ?_, ?_, ?_⟩
  · intro v
    simp [waits_snoc]
  · rw [hdeliveries, List.getLast?_concat]
    rfl
  · rintro _ v h
    obtain ⟨-, rfl⟩ : now = _ ∧ value = v := by simpa using h
    exact (hi.pending value).mp hpending
  · have hordered := hi.ordered
    rw [hpending] at hordered
    rw [hdeliveries, publications_snoc_asked, List.map_append]
    simpa using hordered
  · rw [hdeliveries, List.pairwise_append]
    refine ⟨hi.spaced, List.pairwise_singleton _ _, fun d hd e he => ?_⟩
    rw [List.mem_singleton.mp he]
    exact spaced_deliver hpos hi hlimited d hd
  · rw [publications_snoc_asked]
    exact hi.published
  · rw [hdeliveries, List.length_append, ← hi.delivered]
    rfl
  · show b.published = b.delivered + 1 + (overwritten (log ++ [.asked now (some value)])) + 0
    rw [overwritten_snoc, hi.balanced, hpending]
    exact Nat.add_right_comm b.delivered (overwritten log) 1

lemma relayed_step (hpos : 0 < interval) (hi : Relayed interval log b) (h : Step b e c) :
    Relayed interval (log ++ [e]) c := by
  cases h with
  | publish value => exact relayed_publish hi value
  | takeDue now =>
    rcases takeDue_cases b now with ⟨-, heq⟩ | ⟨value, hpending, hlimited, heq⟩ <;> rw [heq]
    · exact relayed_asked_in_vain hi now
    · exact relayed_deliver hpos hi hpending hlimited

/-! ### The result -/

/-- **The latest value is relayed.** Whatever is put into a new slot and asked of it, at whatever
times, what is given out is the latest value and is given out once, and deliveries are an interval
apart. The slot is asked in vain exactly if nothing waits or the last delivery is too recent, and
it is left as it is then. -/
theorem relayed_of_run (hpos : 0 < interval) (hrun : Run Step (.new interval) log b) :
    Relayed interval log b ∧ ∀ now,
      ((b.takeDue now).1 = none ↔ (∀ value, ¬ Waits log value) ∨
        ∃ last ∈ (deliveries log).getLast?, elapsed last.1 now < interval) ∧
      ((b.takeDue now).1 = none → (b.takeDue now).2 = b) := by
  have hi := hrun.invariant (relayed_new interval) (relayed_step hpos)
  refine ⟨hi, fun now => ⟨?_, ?_⟩⟩
  · have hwaits : b.pending = none ↔ ∀ value, ¬ Waits log value := by
      simp only [← hi.pending]
      exact Option.eq_none_iff_forall_ne_some
    rw [takeDue_eq_none_iff, isLimited_iff, hwaits, hi.lastSent, hi.interval_eq]
    simp
  · intro hnone
    rcases takeDue_cases b now with ⟨-, heq⟩ | ⟨value, -, -, heq⟩
    · rw [heq]
    · rw [heq] at hnone
      cases hnone

/-- A value is given out at once, two more are put in, and the later of them is given out a second
after the first. In between the clock has been set back. -/
theorem relayed_of_run_overwritten : ∃ log b, Run Step (.new 1000) log b ∧
    Relayed 1000 log b ∧ deliveries log = [(0, .ofNat 1), (1000, .ofNat 3)] ∧
    overwritten log = 1 ∧ b.pending = none := by
  have h0 : Run Step (.new 1000) [] _ := .nil
  have h1 := (h0.snoc (.publish (.ofNat 1))).snoc (.takeDue 0)
  have h2 := (h1.snoc (.publish (.ofNat 2))).snoc (.takeDue (-5000))
  have hrun := ((h2.snoc (.takeDue 999)).snoc (.publish (.ofNat 3))).snoc (.takeDue 1000)
  exact ⟨_, _, hrun, (relayed_of_run (by decide) hrun).1, rfl, rfl, rfl⟩

end HomeHub.LatestValue
