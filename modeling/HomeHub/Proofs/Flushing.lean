import Mathlib.Data.List.DropRight
import HomeHub.Proofs.WriterRuns

/-!
Nothing that a writer has written stays unflushed.

What counts is the part of the task's work since its last flush. It is empty whenever the task waits
for a frame and when it shuts the sink down; otherwise it holds at most a burst of frames, of which
the one in hand may be written in part, and none once the task has come to the flush.
-/

namespace HomeHub.Flushing

open Writer (Call maxBurst)
open WriterRuns (Event)

/-! ### Runs -/

structure Moment where
  event : Event
  before : Writer
  after : Writer

inductive Step (w : Writer) : Moment → Writer → Prop
  | of {e : Event} {w' : Writer} : WriterRuns.Step w e w' → Step w ⟨e, w, w'⟩ w'

/-- What a task does. -/
inductive Act
  /-- It takes a frame out of the queue. -/
  | frame (bytes : Bytes)
  | call (c : Call)
  /-- A write or a flush has failed. -/
  | fail
  deriving DecidableEq

/-- What a task has done, by the writer before and after and the calls in between. A task that fails
takes no frame, but loses them all. -/
def seen (w w' : Writer) (made : List Call) : List Act :=
  if w'.stage = .failed then
    made.map .call ++ if w.stage = .failed then [] else [.fail]
  else
    (if w'.queue.length < w.queue.length then w.queue.head?.toList.map .frame else []) ++
      made.map .call

def Moment.acts (m : Moment) : List Act := seen m.before m.after (WriterRuns.calls [m.event])

def acts (h : List Moment) : List Act := h.flatMap Moment.acts

/-! ### What the acts tell -/

def frames (as : List Act) : List Bytes :=
  as.filterMap fun
    | .frame bytes => some bytes
    | _ => none

/-- The bytes that the sink has taken. -/
def written (as : List Act) : Bytes :=
  as.flatMap fun
    | .call c => c.bytes
    | _ => []

/-- What has been done since the last flush. -/
def since (as : List Act) : List Act := as.rtakeWhile (· ≠ .call .flush)

/-- There is something to flush: frames, all of them written to their ends. -/
def Due (as : List Act) : Prop :=
  frames as ≠ [] ∧ written as = (frames as).flatten

variable {as bs : List Act} {a : Act} {w w' : Writer} {h : List Moment} {m : Moment}
  {made : List Call} {capacity : Nat}

lemma since_flush (as : List Act) : since (as ++ [.call .flush]) = [] :=
  List.rtakeWhile_concat_neg _ _ _ (by simp)

lemma since_snoc (ha : a ≠ .call .flush) : since (as ++ [a]) = since as ++ [a] :=
  List.rtakeWhile_concat_pos _ _ _ (by simp [ha])

lemma frames_append (as bs : List Act) : frames (as ++ bs) = frames as ++ frames bs :=
  List.filterMap_append

lemma written_append (as bs : List Act) : written (as ++ bs) = written as ++ written bs :=
  List.flatMap_append

/-! ### Acts one by one -/

/-- What holds of a task's acts at any time. -/
structure Sound (as : List Act) : Prop where
  short : ∀ front, front <+: as → (frames (since front)).length ≤ maxBurst
  due : ∀ front back, as = front ++ .call .flush :: back → Due (since front)
  shut : ∀ front back, as = front ++ .call .shutdown :: back →
    since front = [] ∧ .fail ∉ front ∧ back = []

lemma sound_nil : Sound [] where
  short front hfront := by
    obtain rfl := List.prefix_nil.mp hfront
    exact Nat.zero_le _
  due front back h := by simp at h
  shut front back h := by simp at h

lemma Sound.snoc (hs : Sound as) (hopen : .call .shutdown ∉ as)
    (hshort : (frames (since (as ++ [a]))).length ≤ maxBurst)
    (hdue : a = .call .flush → Due (since as))
    (hshut : a = .call .shutdown → since as = [] ∧ .fail ∉ as) : Sound (as ++ [a]) where
  short front hfront := by
    rcases List.prefix_concat_iff.mp hfront with rfl | hfront
    · exact hshort
    · exact hs.short front hfront
  due front back heq := by
    rcases append_singleton_cases heq with ⟨rfl, rfl⟩ | ⟨back', -, hfront⟩
    · obtain ⟨rfl, -⟩ := List.append_inj' heq rfl
      exact hdue rfl
    · exact hs.due front back' hfront
  shut front back heq := by
    rcases append_singleton_cases heq with ⟨rfl, rfl⟩ | ⟨back', -, hfront⟩
    · obtain ⟨rfl, -⟩ := List.append_inj' heq rfl
      exact ⟨(hshut rfl).1, (hshut rfl).2, rfl⟩
    · refine absurd ?_ hopen
      rw [hfront]
      exact List.mem_append_right _ List.mem_cons_self

lemma Sound.snoc_silent (hs : Sound as) (hopen : .call .shutdown ∉ as)
    (ha : (∃ bytes, a = .call (.write bytes)) ∨ a = .fail) : Sound (as ++ [a]) := by
  have hshort := hs.short as List.prefix_rfl
  rcases ha with ⟨bytes, rfl⟩ | rfl
  · refine hs.snoc hopen ?_ (by simp) (by simp)
    rwa [since_snoc (by simp), frames_append, show frames [.call (.write bytes)] = [] from rfl,
      List.append_nil]
  · refine hs.snoc hopen ?_ (by simp) (by simp)
    rwa [since_snoc (by simp), frames_append, show frames [.fail] = [] from rfl, List.append_nil]

/-! ### The invariant -/

/-- What a task has done since its last flush, by where it stands. -/
def Standing (as : List Act) : Writer.Stage → Prop
  | .idle => since as = []
  | .writing rest burst => 0 < burst ∧ (frames (since as)).length = burst ∧
      written (since as) ++ rest = (frames (since as)).flatten
  | .flushing => Due (since as)
  | .closing => since as = []
  | .done => ∃ front, as = front ++ [.call .shutdown] ∧ .call .shutdown ∉ front
  | .failed => True

structure Inv (as : List Act) (w : Writer) : Prop where
  sound : Sound as
  standing : Standing as w.stage
  running : w.stage ≠ .failed → .fail ∉ as
  unshut : w.stage ≠ .done → .call .shutdown ∉ as

lemma inv_new (capacity : Nat) : Inv [] (.new capacity) :=
  ⟨sound_nil, rfl, fun _ => List.not_mem_nil, fun _ => List.not_mem_nil⟩

lemma Inv.of_stage (hi : Inv as w) (hstage : w'.stage = w.stage) : Inv as w' :=
  ⟨hi.sound, hstage ▸ hi.standing, hstage ▸ hi.running, hstage ▸ hi.unshut⟩

section Task

variable (hi : Inv as w)
include hi

lemma Inv.go (hw : w.stage ≠ .done ∧ w.stage ≠ .failed) (hstanding : Standing as w'.stage) :
    Inv as w' :=
  ⟨hi.sound, hstanding, fun _ => hi.running hw.2, fun _ => hi.unshut hw.1⟩

lemma Inv.frame (hw : w.stage ≠ .done ∧ w.stage ≠ .failed) {bytes : Bytes}
    (hroom : (frames (since as)).length < maxBurst)
    (hwritten : written (since as) = (frames (since as)).flatten)
    (hw' : w'.stage = .writing bytes ((frames (since as)).length + 1)) :
    Inv (as ++ [.frame bytes]) w' := by
  have hsince : since (as ++ [.frame bytes]) = since as ++ [.frame bytes] := since_snoc (by simp)
  have hframes : frames (since (as ++ [.frame bytes])) = frames (since as) ++ [bytes] := by
    rw [hsince, frames_append]
    rfl
  refine ⟨hi.sound.snoc (hi.unshut hw.1) ?_ (by simp) (by simp), ?_, ?_, ?_⟩
  · rw [hframes, List.length_append]
    exact hroom
  · rw [hw']
    refine ⟨Nat.succ_pos _, ?_, ?_⟩
    · rw [hframes, List.length_append]
      rfl
    · rw [hframes, hsince, written_append, hwritten, List.flatten_append]
      simp [written]
  · exact fun _ => by simpa using hi.running hw.2
  · exact fun _ => by simpa using hi.unshut hw.1

lemma Inv.write {rest : Bytes} {burst : Nat} (count : Nat) (hstage : w.stage = .writing rest burst)
    (hw' : w'.stage = .writing (rest.drop count) burst) :
    Inv (as ++ [.call (.write (rest.take count))]) w' := by
  have hopen := hi.unshut (by simp [hstage])
  have hsince : since (as ++ [.call (.write (rest.take count))]) =
      since as ++ [.call (.write (rest.take count))] := since_snoc (by simp)
  have hstanding := hi.standing
  rw [hstage] at hstanding
  obtain ⟨hpos, hburst, hwritten⟩ := hstanding
  refine ⟨hi.sound.snoc_silent hopen (.inl ⟨_, rfl⟩), ?_, ?_, ?_⟩
  · rw [hw']
    have hframes : frames (since (as ++ [.call (.write (rest.take count))])) =
        frames (since as) := by
      rw [hsince, frames_append]
      exact List.append_nil _
    refine ⟨hpos, hframes ▸ hburst, ?_⟩
    rw [hframes, hsince, written_append, ← hwritten, List.append_assoc]
    simp [written, Call.bytes]
  · exact fun _ => by simpa using hi.running (by simp [hstage])
  · exact fun _ => by simpa using hopen

lemma Inv.flush (hstage : w.stage = .flushing) (hw' : w'.stage = .idle) :
    Inv (as ++ [.call .flush]) w' := by
  have hopen := hi.unshut (by simp [hstage])
  have hdue := hi.standing
  rw [hstage] at hdue
  refine ⟨hi.sound.snoc hopen ?_ (fun _ => hdue) (by simp), ?_, ?_, ?_⟩
  · rw [since_flush]
    exact Nat.zero_le _
  · rw [hw']
    exact since_flush as
  · exact fun _ => by simpa using hi.running (by simp [hstage])
  · exact fun _ => by simpa using hopen

lemma Inv.shutdown (hstage : w.stage = .closing) (hw' : w'.stage = .done) :
    Inv (as ++ [.call .shutdown]) w' := by
  have hopen := hi.unshut (by simp [hstage])
  have hrunning := hi.running (by simp [hstage])
  have hsince := hi.standing
  rw [hstage] at hsince
  have hsince' : since as = [] := hsince
  refine ⟨hi.sound.snoc hopen ?_ (by simp) fun _ => ⟨hsince, hrunning⟩, ?_, ?_, ?_⟩
  · rw [since_snoc (by simp), hsince']
    exact Nat.zero_le _
  · rw [hw']
    exact ⟨as, rfl, hopen⟩
  · exact fun _ => by simpa using hrunning
  · exact fun h => absurd hw' h

lemma Inv.fail (hw : w.stage ≠ .done) (hw' : w'.stage = .failed) : Inv (as ++ [.fail]) w' := by
  refine ⟨hi.sound.snoc_silent (hi.unshut hw) (.inr rfl), ?_, fun h => absurd hw' h, fun _ => ?_⟩
  · rw [hw']
    trivial
  · simpa using hi.unshut hw

end Task

lemma seen_eq_nil (hstage : w'.stage = w.stage) (hqueue : w.queue.length ≤ w'.queue.length) :
    seen w w' [] = [] := by
  unfold seen
  rw [hstage]
  split
  · rfl
  · rw [if_neg (Nat.not_lt.mpr hqueue)]
    rfl

lemma inv_moves (hi : Inv as w) (hm : Writer.Moves w made w') : Inv (as ++ seen w w' made) w' := by
  have hstanding := hi.standing
  cases hm with
  | stay =>
    rwa [seen_eq_nil rfl (Nat.le_refl _), List.append_nil]
  | @take bytes queue hstage hqueue =>
    rw [hstage] at hstanding
    have hsince : since as = [] := hstanding
    have hseen : seen w { w with queue, stage := .writing bytes 1 } [] = [.frame bytes] := by
      simp [seen, hqueue]
    rw [hseen]
    exact hi.frame (by simp [hstage]) (by simp [hsince, frames, maxBurst])
      (by simp [hsince, written, frames]) (by simp [hsince, frames])
  | @next bytes queue burst hstage hqueue hburst =>
    rw [hstage] at hstanding
    obtain ⟨-, hlen, hwritten⟩ := hstanding
    have hseen : seen w { w with queue, stage := .writing bytes (burst + 1) } [] =
        [.frame bytes] := by
      simp [seen, hqueue]
    rw [hseen]
    rw [List.append_nil] at hwritten
    exact hi.frame (by simp [hstage]) (by omega) hwritten (by simp [hlen])
  | @write rest burst count hstage hpos hfit =>
    have hseen : seen w { w with stage := .writing (rest.drop count) burst }
        [.write (rest.take count)] = [.call (.write (rest.take count))] := by
      simp [seen]
    rw [hseen]
    exact hi.write count hstage rfl
  | @pause burst hstage _ =>
    rw [hstage] at hstanding
    obtain ⟨hpos, hlen, hwritten⟩ := hstanding
    have hseen : seen w { w with stage := .flushing } [] = [] := by simp [seen]
    rw [hseen, List.append_nil]
    rw [List.append_nil] at hwritten
    exact hi.go (by simp [hstage]) ⟨List.ne_nil_of_length_pos (by omega), hwritten⟩
  | flush hstage =>
    have hseen : seen w { w with stage := .idle } [.flush] = [.call .flush] := by simp [seen]
    rw [hseen]
    exact hi.flush hstage rfl
  | close hstage hqueue =>
    rw [hstage] at hstanding
    have hseen : seen w { w with stage := .closing } [] = [] := by simp [seen]
    rw [hseen, List.append_nil]
    exact hi.go (by simp [hstage]) hstanding
  | shutdown hstage =>
    have hseen : seen w { w with stage := .done } [.shutdown] = [.call .shutdown] := by simp [seen]
    rw [hseen]
    exact hi.shutdown hstage rfl
  | fail hstage =>
    have hseen : seen w w.fail [] = [.fail] := by simp [seen, hstage, Writer.fail]
    rw [hseen]
    exact hi.fail (by simp [hstage]) rfl
  | @refuse b rest burst hstage =>
    have hseen : seen w w.fail [.write []] = [.call (.write [])] ++ [.fail] := by
      simp [seen, hstage, Writer.fail]
    rw [hseen, ← List.append_assoc]
    have hwrite : Inv (as ++ [.call (.write [])]) w := hi.write 0 hstage hstage
    exact hwrite.fail (by simp [hstage]) rfl
  | failFlush hstage =>
    have hseen : seen w w.fail [] = [.fail] := by simp [seen, hstage, Writer.fail]
    rw [hseen]
    exact hi.fail (by simp [hstage]) rfl

lemma acts_snoc (h : List Moment) (m : Moment) : acts (h ++ [m]) = acts h ++ m.acts := by
  rw [acts, List.flatMap_append, List.flatMap_singleton]
  rfl

lemma inv_step (hi : Inv (acts h) w) (hstep : Step w m w') : Inv (acts (h ++ [m])) w' := by
  rw [acts_snoc]
  obtain ⟨hstep⟩ := hstep
  cases hstep with
  | send bytes =>
    have hstage : (w.send bytes).2.stage = w.stage := by
      rcases WriterRuns.send_cases w bytes with ⟨-, h⟩ | ⟨-, -, h⟩ | ⟨-, -, h⟩ <;> rw [h]
    have hqueue : w.queue.length ≤ (w.send bytes).2.queue.length := by
      rcases WriterRuns.send_cases w bytes with ⟨-, h⟩ | ⟨-, -, h⟩ | ⟨-, -, h⟩ <;> rw [h]
      simp
    have hseen : Moment.acts ⟨.sent bytes (w.send bytes).1, w, (w.send bytes).2⟩ = [] :=
      seen_eq_nil hstage hqueue
    rw [hseen, List.append_nil]
    exact hi.of_stage hstage
  | release =>
    have hseen : Moment.acts ⟨.released, w, w.release⟩ = [] := seen_eq_nil rfl (Nat.le_refl _)
    rw [hseen, List.append_nil]
    exact hi.of_stage rfl
  | work e =>
    have hcalls : WriterRuns.calls [.worked (w.step e).2] = (w.step e).2 :=
      List.flatMap_singleton ..
    rw [Moment.acts, hcalls]
    exact inv_moves hi (w.moves_step e)

end HomeHub.Flushing
