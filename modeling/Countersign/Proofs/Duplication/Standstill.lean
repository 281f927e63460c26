import Countersign.Proofs.Duplication.Operations
import Countersign.Proofs.Duplication.Progress
/-! Where the task of a duplication can stand still. It waits for the source, or it holds a
chunk and every reader that the chunk is due to is there with a full queue; so a reader that
goes away sets it going again. -/

namespace Countersign

/-- A source that goes silent, and later goes on as another one. -/
def Source.followedBy (s more : Source) : Source := ⟨s.items ++ more.items, more.endless⟩

namespace Replay

open Duplication

/-! ## Sources that pause -/

/-- The same duplication of a source that will go on. -/
def resumed (r : Replay) (more : Source) : Replay := ⟨r.source.followedBy more, r.state⟩

theorem Effect.endless {r q : Replay} {e : Event} {a : Option Poll} (h : Effect r e q a) :
    q.source.endless = r.source.endless := by
  cases h <;> rfl

/-- What can happen before a source goes on does not depend on what it goes on with. -/
theorem Effect.resumed {r q : Replay} {e : Event} {a : Option Poll} (h : Effect r e q a)
    (hs : r.source.endless = true) (more : Source) :
    Effect (r.resumed more) e (q.resumed more) a := by
  cases h with
  | quit ht hs => exact .quit ht hs
  | finish _ _ _ hend => simp [hs] at hend
  | skip ts rest ht hserved hi =>
    exact .skip ts (rest ++ more.items) ht hserved (congrArg (· ++ more.items) hi)
  | take c rest ht hserved hi =>
    exact .take c (rest ++ more.items) ht hserved (congrArg (· ++ more.items) hi)
  | lose s c hc hd => exact .lose s c hc hd
  | pass s c hc hd hroom => exact .pass s c hc hd hroom
  | tell s b rest hd he hq => exact .tell s b rest hd he hq
  | fail s x rest hd he hq => exact .fail s x rest hd he hq
  | close s hd he hq ht => exact .close s hd he hq ht
  | cancel s hd he hq ht => exact .cancel s hd he hq ht
  | wait s hd he hq ht => exact .wait s hd he hq ht
  | again s hd he => exact .again s hd he
  | drop s => exact .drop s
  | abort ht => exact .abort ht
  | late ht => exact .late ht

/-- So a source that pauses is, up to its pause, one that goes silent there. -/
theorem run_resumed {r t : Replay} {es : List Event} {log : Log} (h : r.run es = some (t, log))
    (hs : r.source.endless = true) (more : Source) :
    (r.resumed more).run es = some (t.resumed more, log) := by
  induction es generalizing r log with
  | nil => cases h; rfl
  | cons e es ih =>
    obtain ⟨q, a, rest, hstep, hq, rfl⟩ := run_cons h
    have he := effect_of_step hstep
    exact run_of_step (he.resumed hs more).step (ih hq (he.endless.trans hs))

/-! ## The bound of the queues -/

/-- No queue is longer than it may be. -/
def Within (r : Replay) : Prop := ∀ s, (r.state.reader s).queue.length ≤ r.state.capacity

theorem within_start (source : Source) (capacity : Nat) : (start source capacity).Within := by
  intro s
  cases s <;> exact Nat.zero_le _

/-- A reader may be changed to one with a queue within the bound. -/
theorem within_setReader {r : Replay} (h : r.Within) (u : Side) (x : Reader)
    (hx : x.queue.length ≤ r.state.capacity) :
    Within { r with state := r.state.setReader u x } := by
  intro s
  rw [reader_setReader, capacity_setReader]
  split
  · exact hx
  · exact h s

theorem Effect.within {r q : Replay} {e : Event} {a : Option Poll} (h : Effect r e q a)
    (hr : r.Within) : q.Within := by
  cases h with
  | quit | finish | take | abort => exact fun s => by simpa using hr s
  | skip | wait | again | late => exact hr
  | lose => exact fun s => by simpa using hr s
  | pass u c hc hd hroom =>
    intro s
    have hlength : ((r.state.reader u).queue ++ [c]).length ≤ r.state.capacity := by
      rw [List.length_append, List.length_singleton]
      exact hroom
    have hs := within_setReader hr u
      { r.state.reader u with queue := (r.state.reader u).queue ++ [c] } hlength s
    simpa using hs
  | tell u b rest _ _ hq | fail u x rest _ _ hq =>
    have hu := hr u
    rw [hq, List.length_cons] at hu
    exact within_setReader hr u _ (by dsimp only; omega)
  | close u | cancel u => exact within_setReader hr u _ (hr u)
  | drop u => exact within_setReader hr u _ (Nat.zero_le _)

theorem run_within {r t : Replay} {es : List Event} {log : Log} (h : r.run es = some (t, log))
    (hr : r.Within) : t.Within :=
  run_keeps h (fun _ _ _ _ _ he => he.within) hr

section Reached

variable {source : Source} {capacity : Nat} {events : List Event} {r : Replay} {log : Log}

theorem sound_of_run (h : (start source capacity).run events = some (r, log)) : r.Sound :=
  run_sound h (sound_start source capacity)

theorem within_of_run (h : (start source capacity).run events = some (r, log)) : r.Within :=
  run_within h (within_start source capacity)

theorem follows_of_run (h : (start source capacity).run events = some (r, log)) :
    Follows source r :=
  run_follows h (sound_start source capacity) (follows_start source capacity)

theorem capacity_of_run (h : (start source capacity).run events = some (r, log)) :
    r.state.capacity = max capacity 1 :=
  run_keeps (P := fun q => q.state.capacity = max capacity 1) h
    (fun _ _ _ _ _ he hq => he.capacity.trans hq) rfl

end Reached

/-! ## What holds a task up -/

/-- The task has a chunk for a reader that is there and has no room for it. -/
structure HeldUpBy (r : Replay) (s : Side) : Prop where
  due : ∃ c, r.state.task.held s = [c]
  there : (r.state.reader s).dropped = false
  full : (r.state.reader s).queue.length = r.state.capacity

/-- The task would take an item, and the source has none ready. -/
structure WaitsForSource (r : Replay) : Prop where
  wants : r.state.wantsItem = true
  silent : r.source.poll.1.isPending = true

/-- The task holds a chunk, and whoever it is due to holds the task up. -/
structure WaitsForReaders (r : Replay) : Prop where
  holds : ∃ s c, r.state.task.held s = [c]
  blocked : ∀ s c, r.state.task.held s = [c] → r.HeldUpBy s

theorem taskStep_eq_none {r : Replay} : r.taskStep = none ↔ ∀ m, r.move m = none := by
  simp only [taskStep, List.findSome?_eq_none_iff]
  refine ⟨fun h m => h m ?_, fun h m _ => h m⟩
  cases m with
  | quit | pull => simp [Move.all]
  | deliver s => cases s <;> simp [Move.all]

theorem exists_move {r q : Replay} (h : r.taskStep = some q) :
    ∃ m, r.step (.task m) = some (q, none) := by
  obtain ⟨m, -, hm⟩ := List.exists_of_findSome?_eq_some h
  exact ⟨m, by simp [step, hm]⟩

theorem taskStep_ne_none {r q : Replay} {m : Move} {a : Option Poll} (h : Effect r (.task m) q a) :
    r.taskStep ≠ none := by
  intro hnone
  have hs := h.step
  simp [step, taskStep_eq_none.1 hnone m] at hs

theorem standstill_of {r : Replay} (h : ∀ m q, ¬ Effect r (.task m) q none) :
    r.taskStep = none := by
  rw [taskStep_eq_none]
  intro m
  cases hm : r.move m with
  | none => rfl
  | some q => exact absurd (effect_of_step (by simp [step, hm])) (h m q)

/-- A chunk that cannot be passed on is due to a reader that holds the task up. -/
theorem heldUpBy_of_standstill {r : Replay} (hw : r.Within) (h : r.taskStep = none) {s : Side}
    {c : Chunk} (hc : r.state.task.held s = [c]) : r.HeldUpBy s := by
  cases hd : (r.state.reader s).dropped with
  | true => exact absurd h (taskStep_ne_none (.lose s c hc hd))
  | false =>
    have full : ¬ (r.state.reader s).queue.length < r.state.capacity :=
      fun hroom => taskStep_ne_none (.pass s c hc hd hroom) h
    exact ⟨⟨c, hc⟩, hd, Nat.le_antisymm (hw s) (Nat.le_of_not_lt full)⟩

/-- A task that is not over and can do nothing waits for the source or for its readers. -/
theorem waits_of_standstill {r : Replay} (hr : r.Sound) (hw : r.Within) (h : r.taskStep = none)
    (running : r.state.isOver = false) : r.WaitsForSource ∨ r.WaitsForReaders := by
  rw [isOver_eq] at running
  cases ht : r.state.task with
  | pulling =>
    have hwants : r.state.wantsItem = true := by
      refine (wantsItem_iff _).2 ⟨ht, ?_⟩
      have hsomebody : ¬ ∀ s, r.state.served s = false := fun hs => taskStep_ne_none (.quit ht hs) h
      simpa using hsomebody
    cases hp : r.source.poll.1.isPending with
    | true => exact .inl ⟨hwants, hp⟩
    | false =>
      obtain ⟨d, hd⟩ := exists_pull hwants hp
      have hmove := taskStep_eq_none.1 h .pull
      simp [move, hd] at hmove
  | delivering c a b =>
    obtain ⟨s, hs⟩ := hr.busy c a b ht
    exact .inr ⟨⟨s, c, hs⟩, fun s c hc => heldUpBy_of_standstill hw h hc⟩
  | finished | aborted => simp [ht, Task.isOver] at running

theorem standstill_of_over {r : Replay} (h : r.state.isOver = true) : r.taskStep = none := by
  rw [isOver_eq] at h
  refine standstill_of ?_
  intro m q he
  cases he with
  | quit ht | finish ht | skip _ _ ht | take _ _ ht => simp [ht, Task.isOver] at h
  | lose s c hc | pass s c hc => simp [Task.isOver_of_held hc] at h

theorem WaitsForSource.standstill {r : Replay} (h : r.WaitsForSource) : r.taskStep = none := by
  obtain ⟨ht, u, hu⟩ := (wantsItem_iff _).1 h.wants
  have hp := h.silent
  refine standstill_of ?_
  intro m q he
  cases he with
  | quit _ hs => simp [hs u] at hu
  | finish _ _ hi hend => simp [Source.poll, hi, hend, Poll.isPending] at hp
  | skip _ _ _ _ hi | take _ _ _ _ hi => simp [Source.poll, hi, Poll.isPending] at hp
  | lose s c hc | pass s c hc => simp [ht, Task.held] at hc

theorem WaitsForReaders.standstill {r : Replay} (h : r.WaitsForReaders) : r.taskStep = none := by
  obtain ⟨u, c', hu⟩ := h.holds
  refine standstill_of ?_
  intro m q he
  cases he with
  | quit ht | finish ht | skip _ _ ht | take _ _ ht => simp [ht, Task.held] at hu
  | lose s c hc hd => simp [(h.blocked s c hc).there] at hd
  | pass s c hc _ hroom => simp [(h.blocked s c hc).full] at hroom

/-- These are all the states in which the task can do nothing. -/
theorem standstill_iff {r : Replay} (hr : r.Sound) (hw : r.Within) :
    r.taskStep = none ↔ r.state.isOver = true ∨ r.WaitsForSource ∨ r.WaitsForReaders := by
  constructor
  · intro h
    cases ho : r.state.isOver with
    | true => exact .inl rfl
    | false => exact .inr (waits_of_standstill hr hw h ho)
  · rintro (h | h | h)
    · exact standstill_of_over h
    · exact h.standstill
    · exact h.standstill

/-- In such a state a reader is told to wait only for the source or for the other reader. -/
theorem not_pending_of_standstill {r : Replay} {s u : Side} (hr : r.Sound) (hw : r.Within)
    (h : r.taskStep = none) (hsu : u ≠ s) (hs : (r.state.reader s).dropped = true)
    (hp : r.source.poll.1.isPending = false) : (r.state.poll u).1.isPending = false := by
  cases hwait : (r.state.poll u).1.isPending with
  | false => rfl
  | true =>
    exfalso
    obtain ⟨hempty, running⟩ := poll_pending hwait
    rcases waits_of_standstill hr hw h running with hsource | hreaders
    · simp [hsource.silent] at hp
    · obtain ⟨v, c, hc⟩ := hreaders.holds
      have hup := hreaders.blocked v c hc
      have hvs : v ≠ s := by
        rintro rfl
        simp [hup.there] at hs
      obtain rfl : v = u := by cases u <;> cases s <;> cases v <;> simp_all
      have hroom := hr.room
      rw [← hup.full, hempty] at hroom
      exact Nat.lt_irrefl 0 hroom

/-! ## A reader that goes away -/

/-- The same duplication once a reader has gone. -/
def without (r : Replay) (s : Side) : Replay := { r with state := r.state.drop s }

theorem effect_without (r : Replay) (s : Side) : Effect r (.drop s) (r.without s) none := .drop s

@[simp] theorem reader_without (r : Replay) (s u : Side) :
    (r.without s).state.reader u =
      if u = s then { r.state.reader s with queue := [], dropped := true } else r.state.reader u :=
  reader_setReader ..

/-- Whoever holds the task up sets it going by going away. -/
theorem HeldUpBy.released {r : Replay} {s : Side} (h : r.HeldUpBy s) :
    (r.without s).taskStep ≠ none := by
  obtain ⟨c, hc⟩ := h.due
  have hc' : (r.without s).state.task.held s = [c] := by
    rw [without, task_drop]
    exact hc
  exact taskStep_ne_none (.lose s c hc' (by simp))

/-! ## The way to a standstill -/

/-- How many moves a task can make that gets no more items. -/
def toil : Task → Nat
  | .pulling => 1
  | .delivering _ a b => 1 + a.toNat + b.toNat
  | .finished | .aborted => 0

/-- How many moves the task can make at most. -/
def labour (r : Replay) : Nat := 3 * r.source.items.length + toil r.state.task

theorem toil_passed {t : Task} {s : Side} {c : Chunk} (h : t.held s = [c]) :
    toil (t.passed s) < toil t := by
  cases t with
  | delivering c' a b =>
    cases s <;> cases a <;> cases b <;> cases c' <;> simp_all [Task.held, Task.passed, due, toil]
  | _ => simp [Task.held] at h

theorem Effect.labour_lt {r q : Replay} {m : Move} {a : Option Poll}
    (h : Effect r (.task m) q a) : q.labour < r.labour := by
  cases h with
  | quit ht | finish ht => simp [labour, toil, ht]
  | skip ts rest ht hs hi => simp only [labour, hi, List.length_cons]; omega
  | take c rest ht hs hi =>
    have h1 := Bool.toNat_le (r.state.served .first)
    have h2 := Bool.toNat_le (r.state.served .second)
    simp only [labour, toil, hi, ht, task_withTask, List.length_cons]
    omega
  | lose s c hc | pass s c hc =>
    have hlt := toil_passed hc
    simp only [labour, task_withTask]
    omega

theorem standstill_settleFor {n : Nat} {r : Replay} (h : r.labour ≤ n) :
    (settleFor n r).taskStep = none := by
  induction n generalizing r with
  | zero =>
    refine standstill_of ?_
    intro m q he
    exact absurd (Nat.lt_of_lt_of_le he.labour_lt h) (Nat.not_lt_zero _)
  | succ n ih =>
    unfold settleFor
    cases hs : r.taskStep with
    | none => exact hs
    | some q =>
      obtain ⟨m, hm⟩ := exists_move hs
      have hlt := (effect_of_step hm).labour_lt
      exact ih (by omega)

/-- A task that is let do what it can comes to a standstill. -/
theorem standstill_settle (r : Replay) : r.settle.taskStep = none := by
  refine standstill_settleFor ?_
  have htoil : toil r.state.task ≤ 3 := by
    cases r.state.task with
    | delivering c a b =>
      have h1 := Bool.toNat_le a
      have h2 := Bool.toNat_le b
      simp only [toil]
      omega
    | _ => simp [toil]
  simp only [labour]
  omega

theorem run_settleFor (n : Nat) (r : Replay) :
    ∃ ms : List Move, r.run (ms.map .task) = some (settleFor n r, []) := by
  induction n generalizing r with
  | zero => exact ⟨[], rfl⟩
  | succ n ih =>
    unfold settleFor
    cases hs : r.taskStep with
    | none => exact ⟨[], rfl⟩
    | some q =>
      obtain ⟨m, hm⟩ := exists_move hs
      obtain ⟨ms, hrun⟩ := ih q
      exact ⟨m :: ms, run_of_step hm hrun⟩

/-- What the task does on its way there are moves. -/
theorem run_settle (r : Replay) : ∃ ms : List Move, r.run (ms.map .task) = some (r.settle, []) :=
  run_settleFor _ r

end Replay

end Countersign
