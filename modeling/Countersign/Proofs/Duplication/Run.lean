import Countersign.Body.Duplication
/-! Runs of a duplication: events in any order, with the answers that the readers
get on the way. `Effect` lists all that one event can do; a law about steps goes by
cases on it, and a law about runs by induction on the events. -/

namespace Countersign

namespace Poll

abbrev data (b : Bytes) : Poll := .item (.ok (.data b))

abbrev fault (e : IoFault) : Poll := .item (.error e)

def isPending : Poll → Bool
  | .pending => true
  | _ => false

end Poll

namespace Task

/-- The chunk that is still due to a side. -/
def held : Task → Side → List Chunk
  | .delivering c true _, .first => [c]
  | .delivering c _ true, .second => [c]
  | _, _ => []

/-- The task once a side has got its chunk or turned out to be gone. -/
def passed : Task → Side → Task
  | .delivering c _ b, .first => Duplication.due c false b
  | .delivering c a _, .second => Duplication.due c a false
  | t, _ => t

def isOver : Task → Bool
  | .finished | .aborted => true
  | _ => false

theorem held_passed (t : Task) (s u : Side) :
    (t.passed s).held u = if u = s then [] else t.held u := by
  cases t with
  | delivering c a b =>
    cases s <;> cases u <;> cases a <;> cases b <;> cases c <;>
      simp [passed, held, Duplication.due]
  | _ => cases u <;> simp [passed, held]

theorem held_tail {t : Task} {s : Side} {c : Chunk} {cs : List Chunk}
    (h : t.held s = c :: cs) : cs = [] := by
  unfold held at h
  split at h <;> simp_all

end Task

namespace Duplication

def served (d : Duplication) : Side → Bool
  | .first => d.firstServed
  | .second => d.secondServed

def withTask (d : Duplication) (t : Task) : Duplication := { d with task := t }

@[simp] theorem task_withTask (d : Duplication) (t : Task) : (d.withTask t).task = t := rfl

@[simp] theorem reader_withTask (d : Duplication) (t : Task) (s : Side) :
    (d.withTask t).reader s = d.reader s := by cases s <;> rfl

@[simp] theorem served_withTask (d : Duplication) (t : Task) (s : Side) :
    (d.withTask t).served s = d.served s := by cases s <;> rfl

@[simp] theorem task_setReader (d : Duplication) (s : Side) (x : Reader) :
    (d.setReader s x).task = d.task := by cases s <;> rfl

@[simp] theorem reader_setReader (d : Duplication) (s u : Side) (x : Reader) :
    (d.setReader s x).reader u = if u = s then x else d.reader u := by
  cases s <;> cases u <;> rfl

@[simp] theorem served_setReader (d : Duplication) (s u : Side) (x : Reader) :
    (d.setReader s x).served u = d.served u := by cases s <;> cases u <;> rfl

@[simp] theorem task_stopServing (d : Duplication) (s : Side) :
    (d.stopServing s).task = d.task := by cases s <;> rfl

@[simp] theorem reader_stopServing (d : Duplication) (s u : Side) :
    (d.stopServing s).reader u = d.reader u := by cases s <;> cases u <;> rfl

@[simp] theorem served_stopServing (d : Duplication) (s u : Side) :
    (d.stopServing s).served u = if u = s then false else d.served u := by
  cases s <;> cases u <;> rfl

@[simp] theorem capacity_withTask (d : Duplication) (t : Task) :
    (d.withTask t).capacity = d.capacity := rfl

@[simp] theorem capacity_setReader (d : Duplication) (s : Side) (x : Reader) :
    (d.setReader s x).capacity = d.capacity := by cases s <;> rfl

@[simp] theorem capacity_stopServing (d : Duplication) (s : Side) :
    (d.stopServing s).capacity = d.capacity := by cases s <;> rfl

theorem isOver_eq (d : Duplication) : d.isOver = d.task.isOver := by
  unfold isOver Task.isOver
  cases d.task <;> rfl

theorem wantsItem_iff (d : Duplication) :
    d.wantsItem = true ↔ d.task = .pulling ∧ ∃ s, d.served s = true := by
  have sides : (∃ s, d.served s = true) ↔ d.firstServed = true ∨ d.secondServed = true :=
    ⟨fun ⟨s, h⟩ => by cases s <;> simp_all [served],
      fun h => h.elim (fun h => ⟨.first, h⟩) fun h => ⟨.second, h⟩⟩
  rw [sides]
  unfold wantsItem
  cases d.task <;> simp

/-- Passing a chunk on, by what is due to the side. -/
theorem deliver_eq (d : Duplication) (s : Side) :
    d.deliver s =
      match d.task.held s with
      | [] => none
      | c :: _ =>
        if (d.reader s).dropped then some ((d.stopServing s).withTask (d.task.passed s))
        else if (d.reader s).queue.length < d.capacity then
          some ((d.setReader s { d.reader s with
            queue := (d.reader s).queue ++ [c] }).withTask (d.task.passed s))
        else none := by
  unfold deliver
  cases ht : d.task with
  | delivering c a b => cases s <;> cases a <;> cases b <;> simp [Task.held, Task.passed] <;> rfl
  | _ => simp [Task.held]

theorem poll_open {d : Duplication} {s : Side} (he : (d.reader s).ended = false) :
    d.poll s =
      match (d.reader s).queue with
      | .ok b :: q => (.item (.ok (.data b)), d.setReader s { d.reader s with queue := q })
      | .error e :: q =>
        (.item (.error e), d.setReader s { d.reader s with queue := q, ended := true })
      | [] =>
        match d.task with
        | .finished => (.done, d.setReader s { d.reader s with ended := true })
        | .aborted => (.item (.error cancelled), d.setReader s { d.reader s with ended := true })
        | _ => (.pending, d) := by
  have hopen : ¬ (d.reader s).ended = true := by simp [he]
  exact if_neg hopen

end Duplication

namespace Replay

open Duplication

/-- What one event can do, and the answer that a reader gets. -/
inductive Effect (r : Replay) : Event → Replay → Option Poll → Prop
  | quit (ht : r.state.task = .pulling) (hs : ∀ s, r.state.served s = false) :
      Effect r (.task .quit) { r with state := r.state.withTask .finished } none
  | finish (ht : r.state.task = .pulling) (hs : ∃ s, r.state.served s = true)
      (hi : r.source.items = []) (he : r.source.endless = false) :
      Effect r (.task .pull) { r with state := r.state.withTask .finished } none
  | skip (ts : Http.Headers) (rest : List Item) (ht : r.state.task = .pulling)
      (hs : ∃ s, r.state.served s = true) (hi : r.source.items = .ok (.trailers ts) :: rest) :
      Effect r (.task .pull) { r with source := { r.source with items := rest } } none
  | take (c : Chunk) (rest : List Item) (ht : r.state.task = .pulling)
      (hs : ∃ s, r.state.served s = true) (hi : r.source.items = frameOf c :: rest) :
      Effect r (.task .pull)
        ⟨{ r.source with items := rest },
          r.state.withTask (.delivering c (r.state.served .first) (r.state.served .second))⟩ none
  | lose (s : Side) (c : Chunk) (hc : r.state.task.held s = [c])
      (hd : (r.state.reader s).dropped = true) :
      Effect r (.task (.deliver s))
        { r with state := (r.state.stopServing s).withTask (r.state.task.passed s) } none
  | pass (s : Side) (c : Chunk) (hc : r.state.task.held s = [c])
      (hd : (r.state.reader s).dropped = false)
      (hr : (r.state.reader s).queue.length < r.state.capacity) :
      Effect r (.task (.deliver s))
        { r with state := (r.state.setReader s { r.state.reader s with
            queue := (r.state.reader s).queue ++ [c] }).withTask (r.state.task.passed s) } none
  | tell (s : Side) (b : Bytes) (q : List Chunk) (hd : (r.state.reader s).dropped = false)
      (he : (r.state.reader s).ended = false) (hq : (r.state.reader s).queue = .ok b :: q) :
      Effect r (.poll s)
        { r with state := r.state.setReader s { r.state.reader s with queue := q } }
        (some (.data b))
  | fail (s : Side) (e : IoFault) (q : List Chunk) (hd : (r.state.reader s).dropped = false)
      (he : (r.state.reader s).ended = false) (hq : (r.state.reader s).queue = .error e :: q) :
      Effect r (.poll s)
        { r with state := r.state.setReader s { r.state.reader s with queue := q, ended := true } }
        (some (.fault e))
  | close (s : Side) (hd : (r.state.reader s).dropped = false)
      (he : (r.state.reader s).ended = false) (hq : (r.state.reader s).queue = [])
      (ht : r.state.task = .finished) :
      Effect r (.poll s)
        { r with state := r.state.setReader s { r.state.reader s with ended := true } }
        (some .done)
  | cancel (s : Side) (hd : (r.state.reader s).dropped = false)
      (he : (r.state.reader s).ended = false) (hq : (r.state.reader s).queue = [])
      (ht : r.state.task = .aborted) :
      Effect r (.poll s)
        { r with state := r.state.setReader s { r.state.reader s with ended := true } }
        (some (.fault cancelled))
  | wait (s : Side) (hd : (r.state.reader s).dropped = false)
      (he : (r.state.reader s).ended = false) (hq : (r.state.reader s).queue = [])
      (ht : r.state.task.isOver = false) :
      Effect r (.poll s) r (some .pending)
  | again (s : Side) (hd : (r.state.reader s).dropped = false)
      (he : (r.state.reader s).ended = true) :
      Effect r (.poll s) r (some .done)
  | drop (s : Side) :
      Effect r (.drop s)
        { r with state := r.state.setReader s { r.state.reader s with
            queue := [], dropped := true } } none
  | abort (ht : r.state.task.isOver = false) :
      Effect r .abort { r with state := r.state.withTask .aborted } none
  | late (ht : r.state.task.isOver = true) : Effect r .abort r none

theorem effect_quit {r q : Replay} (h : r.move .quit = some q) :
    Effect r (.task .quit) q none := by
  simp only [move, Option.map_eq_some_iff] at h
  obtain ⟨d, hd, rfl⟩ := h
  unfold Duplication.quit at hd
  cases ht : r.state.task with
  | pulling =>
    simp only [ht] at hd
    split at hd
    · cases hd
    · rename_i hs
      cases hd
      refine .quit ht ?_
      intro s
      cases s <;> simp_all [served]
  | _ => simp [ht] at hd

theorem effect_pull {r q : Replay} (h : r.move .pull = some q) :
    Effect r (.task .pull) q none := by
  simp only [move, Option.map_eq_some_iff] at h
  obtain ⟨d, hd, rfl⟩ := h
  unfold Duplication.pull at hd
  by_cases hw : r.state.wantsItem = true
  · obtain ⟨ht, hs⟩ := (wantsItem_iff _).1 hw
    simp only [hw, Bool.not_true, Bool.false_eq_true, if_false] at hd
    unfold Source.poll at hd ⊢
    cases hi : r.source.items with
    | nil =>
      cases he : r.source.endless with
      | true => simp [hi, he] at hd
      | false =>
        simp only [hi, he, Bool.false_eq_true, if_false, Option.some.injEq] at hd ⊢
        subst hd
        exact .finish ht hs hi he
    | cons x rest =>
      simp only [hi] at hd ⊢
      cases x with
      | error e =>
        simp only [Option.some.injEq] at hd
        subst hd
        exact .take (.error e) rest ht hs hi
      | ok f =>
        cases f with
        | data b =>
          simp only [Option.some.injEq] at hd
          subst hd
          exact .take (.ok b) rest ht hs hi
        | trailers ts =>
          simp only [Option.some.injEq] at hd
          subst hd
          exact .skip ts rest ht hs hi
  · simp [hw] at hd

theorem effect_deliver {r q : Replay} {s : Side} (h : r.move (.deliver s) = some q) :
    Effect r (.task (.deliver s)) q none := by
  simp only [move, Option.map_eq_some_iff] at h
  obtain ⟨d, hd, rfl⟩ := h
  rw [deliver_eq] at hd
  cases hc : r.state.task.held s with
  | nil => simp [hc] at hd
  | cons c cs =>
    have hcs : cs = [] := Task.held_tail hc
    subst hcs
    simp only [hc] at hd
    split at hd
    · rename_i hgone
      cases hd
      exact .lose s c hc hgone
    · rename_i hhere
      split at hd
      · rename_i hroom
        cases hd
        exact .pass s c hc (by simpa using hhere) hroom
      · cases hd

theorem effect_poll {r q : Replay} {s : Side} {a : Option Poll}
    (h : r.step (.poll s) = some (q, a)) : Effect r (.poll s) q a := by
  unfold step at h
  cases hd : (r.state.reader s).dropped with
  | true => simp [hd] at h
  | false =>
    simp only [hd, Bool.false_eq_true, if_false, Option.some.injEq, Prod.mk.injEq] at h
    obtain ⟨rfl, rfl⟩ := h
    cases he : (r.state.reader s).ended with
    | true =>
      have hp : r.state.poll s = (.done, r.state) := by simp [Duplication.poll, he]
      rw [hp]
      exact .again s hd he
    | false =>
      rw [poll_open he]
      split
      · rename_i b q hq
        exact .tell s b q hd he hq
      · rename_i e q hq
        exact .fail s e q hd he hq
      · rename_i hq
        cases ht : r.state.task with
        | finished => exact .close s hd he hq ht
        | aborted => exact .cancel s hd he hq ht
        | pulling => exact .wait s hd he hq (by rw [ht]; rfl)
        | delivering => exact .wait s hd he hq (by rw [ht]; rfl)

/-- Whatever happens is one of the effects. -/
theorem effect_of_step {r q : Replay} {e : Event} {a : Option Poll}
    (h : r.step e = some (q, a)) : Effect r e q a := by
  cases e with
  | task m =>
    simp only [step, Option.map_eq_some_iff, Prod.mk.injEq] at h
    obtain ⟨q', hm, rfl, rfl⟩ := h
    cases m with
    | quit => exact effect_quit hm
    | pull => exact effect_pull hm
    | deliver s => exact effect_deliver hm
  | poll s => exact effect_poll h
  | drop s =>
    simp only [step, Option.some.injEq, Prod.mk.injEq] at h
    obtain ⟨rfl, rfl⟩ := h
    exact .drop s
  | abort =>
    simp only [step, Option.some.injEq, Prod.mk.injEq] at h
    obtain ⟨rfl, rfl⟩ := h
    unfold Duplication.abort
    rw [isOver_eq]
    cases ht : r.state.task.isOver with
    | true => exact .late ht
    | false => exact .abort ht

/-- Every effect can come about. -/
theorem Effect.step {r q : Replay} {e : Event} {a : Option Poll} (h : Effect r e q a) :
    r.step e = some (q, a) := by
  have wants (ht : r.state.task = .pulling) (hs : ∃ s, r.state.served s = true) :
      r.state.wantsItem = true := (wantsItem_iff _).2 ⟨ht, hs⟩
  cases h with
  | quit ht hs =>
    have h1 : r.state.firstServed = false := hs .first
    have h2 : r.state.secondServed = false := hs .second
    simp [Replay.step, move, Duplication.quit, ht, h1, h2, withTask]
  | finish ht hs hi he =>
    simp [Replay.step, move, Duplication.pull, wants ht hs, Source.poll, hi, he, withTask]
  | skip ts rest ht hs hi =>
    simp [Replay.step, move, Duplication.pull, wants ht hs, Source.poll, hi]
  | take c rest ht hs hi =>
    cases c <;>
      simp [Replay.step, move, Duplication.pull, wants ht hs, Source.poll, hi, frameOf, withTask] <;>
      exact ⟨rfl, rfl⟩
  | lose s c hc hd => simp [Replay.step, move, deliver_eq, hc, hd]
  | pass s c hc hd hr => simp [Replay.step, move, deliver_eq, hc, hd, hr]
  | tell s b q hd he hq => simp [Replay.step, hd, poll_open he, hq]
  | fail s e q hd he hq => simp [Replay.step, hd, poll_open he, hq]
  | close s hd he hq ht => simp [Replay.step, hd, poll_open he, hq, ht]
  | cancel s hd he hq ht => simp [Replay.step, hd, poll_open he, hq, ht]
  | wait s hd he hq ht =>
    simp only [Replay.step, hd, poll_open he, hq]
    cases hk : r.state.task <;> simp_all [Task.isOver]
  | again s hd he => simp [Replay.step, hd, Duplication.poll, he]
  | drop s => rfl
  | abort ht => simp [Replay.step, Duplication.abort, isOver_eq, ht, withTask]
  | late ht => simp [Replay.step, Duplication.abort, isOver_eq, ht]

/-- The answers of a run, each with the reader that asked. -/
abbrev Log := List (Side × Poll)

def entry : Event → Option Poll → Log
  | .poll s, some p => [(s, p)]
  | _, _ => []

/-- The state after some events and the answers given on the way, if all of them
can happen in this order. -/
def run (r : Replay) : List Event → Option (Replay × Log)
  | [] => some (r, [])
  | e :: es =>
    match r.step e with
    | none => none
    | some (q, a) => (q.run es).map fun (t, log) => (t, entry e a ++ log)

/-- What `s` was answered, the answers left out that only told it to wait. -/
def heard (s : Side) (log : Log) : List Poll :=
  (log.filter fun a => a.1 = s && !a.2.isPending).map (·.2)

theorem heard_append (s : Side) (log log' : Log) :
    heard s (log ++ log') = heard s log ++ heard s log' := by
  simp [heard]

theorem run_cons {r t : Replay} {e : Event} {es : List Event} {log : Log}
    (h : r.run (e :: es) = some (t, log)) :
    ∃ q a rest, r.step e = some (q, a) ∧ q.run es = some (t, rest) ∧ log = entry e a ++ rest := by
  simp only [run] at h
  split at h
  · cases h
  · rename_i q a hs
    obtain ⟨⟨t', rest⟩, hr, he⟩ := Option.map_eq_some_iff.1 h
    cases he
    exact ⟨q, a, rest, hs, hr, rfl⟩

theorem run_of_step {r q t : Replay} {e : Event} {a : Option Poll} {es : List Event} {log : Log}
    (hs : r.step e = some (q, a)) (h : q.run es = some (t, log)) :
    r.run (e :: es) = some (t, entry e a ++ log) := by
  simp [run, hs, h]

/-- What every event of a run keeps the run keeps. -/
theorem run_keeps {P : Replay → Prop} {r t : Replay} {es : List Event} {log : Log}
    (h : r.run es = some (t, log))
    (keeps : ∀ e ∈ es, ∀ r q a, Effect r e q a → P r → P q) (hr : P r) : P t := by
  induction es generalizing r log with
  | nil => cases h; exact hr
  | cons e es ih =>
    obtain ⟨q, a, rest, hs, hq, -⟩ := run_cons h
    have hkept : P q := keeps e (List.mem_cons_self ..) r q a (effect_of_step hs) hr
    exact ih hq (fun e he => keeps e (List.mem_cons_of_mem _ he)) hkept

theorem run_append (r : Replay) (es fs : List Event) :
    r.run (es ++ fs) =
      (r.run es).bind fun (q, log) => (q.run fs).map fun (t, log') => (t, log ++ log') := by
  induction es generalizing r with
  | nil => simp [run]
  | cons e es ih =>
    simp only [List.cons_append, run]
    split
    · rfl
    · rename_i q a hs
      rw [ih]
      cases q.run es with
      | none => rfl
      | some w =>
        obtain ⟨q', log⟩ := w
        simp only [Option.map_some, Option.bind_some, Option.map_map]
        cases q'.run fs <;> simp

/-- A run can be cut in two. -/
theorem run_split {r t : Replay} {es fs : List Event} {log : Log}
    (h : r.run (es ++ fs) = some (t, log)) :
    ∃ q log₁ log₂, r.run es = some (q, log₁) ∧ q.run fs = some (t, log₂) ∧
      log = log₁ ++ log₂ := by
  rw [run_append] at h
  obtain ⟨⟨q, log₁⟩, hq, h⟩ := Option.bind_eq_some_iff.1 h
  obtain ⟨⟨t', log₂⟩, ht, he⟩ := Option.map_eq_some_iff.1 h
  cases he
  exact ⟨q, log₁, log₂, hq, ht, rfl⟩

/-- Two runs make one. -/
theorem run_join {r q t : Replay} {es fs : List Event} {log₁ log₂ : Log}
    (h₁ : r.run es = some (q, log₁)) (h₂ : q.run fs = some (t, log₂)) :
    r.run (es ++ fs) = some (t, log₁ ++ log₂) := by
  simp [run_append, h₁, h₂]

end Replay

end Countersign
