import Countersign.Proofs.Duplication.Run
/-! What a reader still has to be told: its queue, the chunk that the task holds for
it, and what the source has left. Every step takes from the front of this list
exactly what it tells the reader, until the reader leaves or the task is aborted. -/

namespace Countersign

namespace Source

/-- What a list of items makes a task pass on: the data up to a fault, and the fault. -/
def script : List Item → List Chunk
  | [] => []
  | .ok (.data b) :: xs => .ok b :: script xs
  | .ok (.trailers _) :: xs => script xs
  | .error e :: _ => [.error e]

theorem script_eq (items : List Item) :
    script items = (chunksOf items).map .ok ++ (faultOf items).toList.map .error := by
  induction items with
  | nil => rfl
  | cons x xs ih =>
    match x with
    | .ok (.data b) => simp [script, chunksOf, faultOf, ih]
    | .ok (.trailers _) => simp [script, chunksOf, faultOf, ih]
    | .error e => simp [script, chunksOf, faultOf]

/-- Data that a script begins with is data of the source. -/
theorem prefix_chunks {items : List Item} {bs : List Bytes} {rest : List Chunk}
    (h : script items = bs.map .ok ++ rest) : bs <+: chunksOf items := by
  rw [script_eq] at h
  generalize chunksOf items = cs at h
  induction bs generalizing cs with
  | nil => exact List.nil_prefix
  | cons b bs ih =>
    cases cs with
    | nil => cases hf : faultOf items <;> simp [hf] at h
    | cons c cs =>
      simp only [List.map_cons, List.cons_append, List.cons.injEq, Except.ok.injEq] at h
      rw [h.1]
      exact List.prefix_cons_inj _ |>.2 (ih cs h.2)

end Source

/-- Only the last chunk of a list may be a fault. -/
def FaultLast : List Chunk → Prop
  | [] => True
  | .ok _ :: cs => FaultLast cs
  | .error _ :: cs => cs = []

theorem faultLast_script (items : List Item) : FaultLast (Source.script items) := by
  induction items with
  | nil => trivial
  | cons x xs ih =>
    match x with
    | .ok (.data _) => exact ih
    | .ok (.trailers _) => exact ih
    | .error _ => rfl

theorem FaultLast.of_told {bs : List Bytes} {cs : List Chunk}
    (h : FaultLast (bs.map .ok ++ cs)) : FaultLast cs := by
  induction bs with
  | nil => exact h
  | cons b bs ih => exact ih h

theorem FaultLast.of_append {q rest : List Chunk} (h : FaultLast (q ++ rest)) : FaultLast q := by
  induction q with
  | nil => trivial
  | cons c q ih =>
    cases c with
    | ok b => exact ih h
    | error x =>
      have hnil : q ++ rest = [] := h
      exact (List.append_eq_nil_iff.1 hnil).1

theorem FaultLast.after_fault {q rest : List Chunk} (h : FaultLast (q ++ rest))
    (he : ∃ x, .error x ∈ q) : rest = [] := by
  induction q with
  | nil => simp at he
  | cons c q ih =>
    cases c with
    | ok b => exact ih h (by simpa using he)
    | error x =>
      have hnil : q ++ rest = [] := h
      exact (List.append_eq_nil_iff.1 hnil).2

/-- A list of chunks without a fault is data. -/
theorem exists_data {cs : List Chunk} (h : ∀ x, .error x ∉ cs) :
    ∃ bs : List Bytes, cs = bs.map .ok := by
  induction cs with
  | nil => exact ⟨[], rfl⟩
  | cons c cs ih =>
    obtain ⟨bs, rfl⟩ := ih fun x hx => h x (List.mem_cons_of_mem _ hx)
    cases c with
    | ok b => exact ⟨b :: bs, rfl⟩
    | error x => exact absurd (List.mem_cons_self ..) (h x)

namespace Task

/-- What the task and the source behind it will pass on to every side. -/
def upcoming (items : List Item) : Task → List Chunk
  | .pulling | .delivering (.ok _) _ _ => Source.script items
  | _ => []

theorem upcoming_passed (items : List Item) (t : Task) (s : Side) :
    (t.passed s).upcoming items = t.upcoming items := by
  cases t with
  | delivering c a b =>
    cases s <;> cases a <;> cases b <;> cases c <;>
      simp [passed, upcoming, Duplication.due]
  | _ => cases s <;> simp [passed]

theorem upcoming_of_isOver {t : Task} (items : List Item) (h : t.isOver = true) :
    t.upcoming items = [] := by
  cases t <;> simp_all [isOver, upcoming]

theorem held_of_isOver {t : Task} (s : Side) (h : t.isOver = true) : t.held s = [] := by
  cases t <;> simp_all [isOver, held]

theorem isOver_of_held {t : Task} {s : Side} {c : Chunk} (h : t.held s = [c]) :
    t.isOver = false := by
  cases ht : t.isOver with
  | false => rfl
  | true => simp [held_of_isOver s ht] at h

theorem ne_aborted_of_held {t : Task} {s : Side} {c : Chunk} (h : t.held s = [c]) :
    t ≠ .aborted := by
  rintro rfl
  simp [held] at h

theorem passed_ne_aborted {t : Task} {s : Side} {c : Chunk} (h : t.held s = [c]) :
    t.passed s ≠ .aborted := by
  cases t with
  | delivering c' a b => cases s <;> cases a <;> cases b <;> cases c' <;> simp [passed, Duplication.due]
  | _ => simp [held] at h

end Task

namespace Replay

open Duplication

/-- What `s` has still to be told if nothing is given up. -/
def outstanding (r : Replay) (s : Side) : List Chunk :=
  (r.state.reader s).queue ++ r.state.task.held s ++ r.state.task.upcoming r.source.items

theorem outstanding_start (source : Source) (capacity : Nat) (s : Side) :
    (start source capacity).outstanding s = Source.script source.items := by
  cases s <;> rfl

theorem outstanding_of_isOver {r : Replay} {s : Side} (h : r.state.task.isOver = true) :
    r.outstanding s = (r.state.reader s).queue := by
  simp [outstanding, Task.held_of_isOver s h, Task.upcoming_of_isOver _ h]

/-- The invariant of every run. -/
structure Sound (r : Replay) : Prop where
  /-- The task stops serving a side only once its reader is gone. -/
  gone : ∀ s, r.state.served s = false → (r.state.reader s).dropped = true
  /-- A chunk that nobody is waiting for is not held. -/
  busy : ∀ c a b, r.state.task = .delivering c a b → ∃ s, r.state.task.held s = [c]
  room : 0 < r.state.capacity
  last : ∀ s, (r.state.reader s).dropped = false → FaultLast (r.outstanding s)
  /-- A reader that was told of its end has nothing to come. -/
  closed : ∀ s, (r.state.reader s).dropped = false → (r.state.reader s).ended = true →
    r.outstanding s = []

theorem sound_start (source : Source) (capacity : Nat) : (start source capacity).Sound where
  gone s h := by cases s <;> simp [start, Duplication.start, served] at h
  busy c a b h := by simp [start, Duplication.start] at h
  room := by simp only [start, Duplication.start]; omega
  last s _ := by rw [outstanding_start]; exact faultLast_script _
  closed s _ h := by cases s <;> simp [start, Duplication.start, reader] at h

/-- One event as a reader that is still listening sees it. -/
inductive Seen (s : Side) (r q : Replay) : Event → List Poll → Prop
  | told (e : Event) (bs : List Bytes)
      (ho : r.outstanding s = bs.map .ok ++ q.outstanding s)
      (hd : (q.state.reader s).dropped = false) (he : (q.state.reader s).ended = false)
      (ht : q.state.task = .aborted ↔ r.state.task = .aborted) :
      Seen s r q e (bs.map .data)
  | failed (e : Event) (x : IoFault)
      (ho : r.outstanding s = .error x :: q.outstanding s)
      (he : (q.state.reader s).ended = true) : Seen s r q e [.fault x]
  | finished (e : Event) (ho : r.outstanding s = []) (ho' : q.outstanding s = [])
      (ht : r.state.task = .finished) (he : (q.state.reader s).ended = true) :
      Seen s r q e [.done]
  | cancelled (e : Event) (ho : r.outstanding s = []) (ho' : q.outstanding s = [])
      (ht : r.state.task = .aborted) (he : (q.state.reader s).ended = true) :
      Seen s r q e [.fault cancelled]
  | left (e : Event) (hd : (q.state.reader s).dropped = true) : Seen s r q e []
  | aborted (ht : r.state.task.isOver = false)
      (hq : q = { r with state := r.state.withTask .aborted }) : Seen s r q .abort []

@[simp] theorem heard_none (s : Side) (e : Event) : heard s (entry e none) = [] := by
  cases e <;> rfl

@[simp] theorem heard_pending (s u : Side) : heard s (entry (.poll u) (some .pending)) = [] := by
  simp [heard, entry, Poll.isPending]

theorem heard_own (s : Side) {p : Poll} (h : p.isPending = false) :
    heard s (entry (.poll s) (some p)) = [p] := by
  simp [heard, entry, h]

theorem heard_other {s u : Side} (h : u ≠ s) (p : Poll) :
    heard s (entry (.poll u) (some p)) = [] := by
  simp [heard, entry, h]

/-- What is done to one reader the other does not see. -/
theorem seen_elsewhere {r : Replay} {s u : Side} (hsu : s ≠ u) (e : Event) (x : Reader)
    (hd : (r.state.reader s).dropped = false) (he : (r.state.reader s).ended = false) :
    Seen s r { r with state := r.state.setReader u x } e [] :=
  .told e [] (by simp [outstanding, hsu]) (by simpa [hsu] using hd) (by simpa [hsu] using he)
    (by simp)

/-- A reader that is still listening sees one of six things. -/
theorem Effect.seen {r q : Replay} {e : Event} {a : Option Poll} (h : Effect r e q a)
    (hr : r.Sound) {s : Side} (hd : (r.state.reader s).dropped = false)
    (he : (r.state.reader s).ended = false) : Seen s r q e (heard s (entry e a)) := by
  have served : r.state.served s = true := by
    cases hs : r.state.served s with
    | true => rfl
    | false => exact absurd (hr.gone s hs) (by simp [hd])
  cases h with
  | quit ht hs => exact absurd (hs s) (by simp [served])
  | finish ht hs hi hend =>
    rw [heard_none]
    refine .told _ [] ?_ (by simpa using hd) (by simpa using he) (by simp [ht])
    simp [outstanding, ht, Task.held, Task.upcoming, hi, Source.script]
  | skip ts rest ht hs hi =>
    rw [heard_none]
    refine .told _ [] ?_ hd he Iff.rfl
    simp [outstanding, ht, Task.held, Task.upcoming, hi, Source.script]
  | take c rest ht hs hi =>
    rw [heard_none]
    refine .told _ [] ?_ (by simpa using hd) (by simpa using he) (by simp [ht])
    have held : (Task.delivering c (r.state.served .first) (r.state.served .second)).held s =
        [c] := by
      cases s <;> simp [Task.held, served]
    cases c <;> simp [outstanding, ht, held, hi, Task.upcoming, Source.script, frameOf] <;>
      simp [Task.held]
  | lose u c hc hgone =>
    rw [heard_none]
    have hne : s ≠ u := by rintro rfl; simp [hd] at hgone
    refine .told _ [] ?_ (by simpa using hd) (by simpa using he) ?_
    · simp [outstanding, Task.held_passed, Task.upcoming_passed, hne]
    · simp [Task.passed_ne_aborted hc, Task.ne_aborted_of_held hc]
  | pass u c hc hhere hroom =>
    rw [heard_none]
    by_cases hsu : s = u
    · subst hsu
      refine .told _ [] ?_ (by simpa using hd) (by simpa using he) ?_
      · simp [outstanding, Task.held_passed, Task.upcoming_passed, hc]
      · simp [Task.passed_ne_aborted hc, Task.ne_aborted_of_held hc]
    · refine .told _ [] ?_ (by simpa [hsu] using hd) (by simpa [hsu] using he) ?_
      · simp [outstanding, Task.held_passed, Task.upcoming_passed, hsu]
      · simp [Task.passed_ne_aborted hc, Task.ne_aborted_of_held hc]
  | tell u b q hhere hopen hq =>
    by_cases hsu : s = u
    · subst hsu
      rw [heard_own s rfl]
      refine .told _ [b] ?_ (by simpa using hd) (by simpa using he) (by simp)
      simp [outstanding, hq]
    · rw [heard_other (Ne.symm hsu)]
      exact seen_elsewhere hsu _ _ hd he
  | fail u x rest hhere hopen hq =>
    by_cases hsu : s = u
    · subst hsu
      rw [heard_own s rfl]
      exact .failed _ x (by simp [outstanding, hq]) (by simp)
    · rw [heard_other (Ne.symm hsu)]
      exact seen_elsewhere hsu _ _ hd he
  | close u hhere hopen hq ht =>
    by_cases hsu : s = u
    · subst hsu
      rw [heard_own s rfl]
      have ho : r.outstanding s = [] := by rw [outstanding_of_isOver (by rw [ht]; rfl), hq]
      exact .finished _ ho (by rw [← ho]; simp [outstanding]) ht (by simp)
    · rw [heard_other (Ne.symm hsu)]
      exact seen_elsewhere hsu _ _ hd he
  | cancel u hhere hopen hq ht =>
    by_cases hsu : s = u
    · subst hsu
      rw [heard_own s rfl]
      have ho : r.outstanding s = [] := by rw [outstanding_of_isOver (by rw [ht]; rfl), hq]
      exact .cancelled _ ho (by rw [← ho]; simp [outstanding]) ht (by simp)
    · rw [heard_other (Ne.symm hsu)]
      exact seen_elsewhere hsu _ _ hd he
  | wait u =>
    rw [heard_pending]
    exact .told _ [] rfl hd he Iff.rfl
  | again u hhere hended =>
    have hne : s ≠ u := by rintro rfl; simp [he] at hended
    rw [heard_other (Ne.symm hne)]
    exact .told _ [] rfl hd he Iff.rfl
  | drop u =>
    rw [heard_none]
    by_cases hsu : s = u
    · subst hsu
      exact .left _ (by simp)
    · exact seen_elsewhere hsu _ _ hd he
  | abort ht => exact .aborted ht rfl
  | late ht => exact .told _ [] rfl hd he Iff.rfl

/-- Nothing comes back to a reader that has nothing to come. -/
theorem Effect.outstanding_nil {r q : Replay} {e : Event} {a : Option Poll} (h : Effect r e q a)
    {s : Side} (hs : r.state.served s = true) (ho : r.outstanding s = []) :
    q.outstanding s = [] := by
  simp only [outstanding, List.append_eq_nil_iff] at ho
  obtain ⟨⟨hq, hh⟩, hu⟩ := ho
  cases h with
  | quit ht hn => simp [hn s] at hs
  | finish => simp [outstanding, hq, Task.held, Task.upcoming]
  | skip ts rest ht _ hi =>
    have hrest : Source.script rest = [] := by
      simpa [ht, hi, Task.upcoming, Source.script] using hu
    simp [outstanding, hq, ht, hrest, Task.held, Task.upcoming]
  | take c rest ht _ hi =>
    cases c <;> simp [ht, hi, Task.upcoming, Source.script, frameOf] at hu
  | lose u c hc => simp [outstanding, Task.held_passed, Task.upcoming_passed, hq, hh, hu]
  | pass u c hc =>
    have hne : s ≠ u := by rintro rfl; simp [hc] at hh
    simp [outstanding, Task.held_passed, Task.upcoming_passed, hq, hh, hu, hne]
  | tell u b rest _ _ hcons | fail u x rest _ _ hcons =>
    have hne : s ≠ u := by rintro rfl; simp [hcons] at hq
    simp [outstanding, hne, hq, hh, hu]
  | close u _ _ hnil | cancel u _ _ hnil | drop u =>
    by_cases hne : s = u
    · subst hne
      simp [outstanding, hq, hh, hu]
    · simp [outstanding, hne, hq, hh, hu]
  | wait | again | late => simp [outstanding, hq, hh, hu]
  | abort => simp [outstanding, hq, Task.held, Task.upcoming]

theorem busy_passed {t : Task} {s : Side} {c : Chunk} {a b : Bool}
    (h : t.passed s = .delivering c a b) (hd : ∃ x, t.held s = [x]) :
    ∃ u, (t.passed s).held u = [c] := by
  cases t with
  | delivering c' a' b' =>
    cases s with
    | first =>
      cases b' with
      | false => cases c' <;> simp [Task.passed, due] at h
      | true =>
        have hc : c' = c ∧ false = a ∧ true = b := by simpa [Task.passed, due] using h
        exact ⟨.second, by simp [Task.passed, due, Task.held, hc.1]⟩
    | second =>
      cases a' with
      | false => cases c' <;> simp [Task.passed, due] at h
      | true =>
        have hc : c' = c ∧ true = a ∧ false = b := by simpa [Task.passed, due] using h
        exact ⟨.first, by simp [Task.passed, due, Task.held, hc.1]⟩
  | _ => simp [Task.held] at hd

theorem Effect.gone {r q : Replay} {e : Event} {a : Option Poll} (h : Effect r e q a)
    (hr : r.Sound) (u : Side) (hu : q.state.served u = false) :
    (q.state.reader u).dropped = true := by
  cases h with
  | quit | finish | skip | wait | again | late | take | abort => exact hr.gone u hu
  | lose s c hc hd =>
    by_cases hus : u = s
    · simpa [hus] using hd
    · simp only [served_withTask, served_stopServing, hus, if_false] at hu
      simpa using hr.gone u hu
  | pass s =>
    simp only [served_withTask, served_setReader] at hu
    have := hr.gone u hu
    by_cases hus : u = s <;> simp_all
  | tell s | fail s | close s | cancel s | drop s =>
    rw [served_setReader] at hu
    have := hr.gone u hu
    by_cases hus : u = s <;> simp_all

theorem Effect.busy {r q : Replay} {e : Event} {a : Option Poll} (h : Effect r e q a)
    (hr : r.Sound) (c : Chunk) (x y : Bool) (hq : q.state.task = .delivering c x y) :
    ∃ s, q.state.task.held s = [c] := by
  cases h with
  | quit | finish | abort => cases hq
  | skip | wait | again | late => exact hr.busy c x y hq
  | take c' rest ht hs hi =>
    simp only [task_withTask, Task.delivering.injEq] at hq
    obtain ⟨rfl, -, -⟩ := hq
    obtain ⟨s, hs⟩ := hs
    exact ⟨s, by cases s <;> simp [Task.held, hs]⟩
  | lose s c' hc | pass s c' hc => exact busy_passed hq ⟨c', hc⟩
  | tell s | fail s | close s | cancel s | drop s =>
    rw [task_setReader] at hq ⊢
    exact hr.busy c x y hq

theorem Effect.capacity {r q : Replay} {e : Event} {a : Option Poll} (h : Effect r e q a) :
    q.state.capacity = r.state.capacity := by
  cases h <;> simp

/-- A reader does not come back. -/
theorem Effect.dropped {r q : Replay} {e : Event} {a : Option Poll} (h : Effect r e q a) {s : Side}
    (hd : (r.state.reader s).dropped = true) : (q.state.reader s).dropped = true := by
  cases h with
  | quit | finish | skip | wait | again | late | take | abort => exact hd
  | lose => simpa using hd
  | pass u | tell u | fail u | close u | cancel u | drop u => by_cases hs : s = u <;> simp_all

theorem Effect.ended {r q : Replay} {e : Event} {a : Option Poll} (h : Effect r e q a) {s : Side}
    (he : (r.state.reader s).ended = true) : (q.state.reader s).ended = true := by
  cases h with
  | quit | finish | skip | wait | again | late | take | abort => exact he
  | lose => simpa using he
  | pass u | tell u | fail u | close u | cancel u | drop u => by_cases hs : s = u <;> simp_all

theorem Effect.over {r q : Replay} {e : Event} {a : Option Poll} (h : Effect r e q a)
    (ho : r.state.task.isOver = true) : q.state.task = r.state.task := by
  cases h with
  | quit ht | finish ht | take c rest ht => simp [ht, Task.isOver] at ho
  | skip | wait | again | late => rfl
  | lose s c hc | pass s c hc => simp [Task.isOver_of_held hc] at ho
  | tell | fail | close | cancel | drop => simp
  | abort ht => simp [ht] at ho

theorem Effect.sound {r q : Replay} {e : Event} {a : Option Poll} (h : Effect r e q a)
    (hr : r.Sound) : q.Sound := by
  have both : ∀ s, (q.state.reader s).dropped = false → FaultLast (q.outstanding s) ∧
      ((q.state.reader s).ended = true → q.outstanding s = []) := by
    intro s hq
    have hd : (r.state.reader s).dropped = false := by
      cases hx : (r.state.reader s).dropped with
      | false => rfl
      | true => simp [h.dropped hx] at hq
    cases he : (r.state.reader s).ended with
    | true =>
      have hs : r.state.served s = true := by
        cases hx : r.state.served s with
        | true => rfl
        | false => simp [hr.gone s hx] at hd
      have hnil := h.outstanding_nil hs (hr.closed s hd he)
      exact ⟨hnil ▸ trivial, fun _ => hnil⟩
    | false =>
      have hlast := hr.last s hd
      have seen := h.seen hr hd he
      generalize heard s (entry e a) = told at seen
      cases seen with
      | told _ bs ho _ he' => exact ⟨.of_told (ho ▸ hlast), fun h => by simp [he'] at h⟩
      | failed _ x ho =>
        have hnil : q.outstanding s = [] := by rw [ho] at hlast; exact hlast
        exact ⟨hnil ▸ trivial, fun _ => hnil⟩
      | finished _ _ ho' | cancelled _ _ ho' => exact ⟨ho' ▸ trivial, fun _ => ho'⟩
      | left _ hd' => simp [hd'] at hq
      | aborted _ hq' =>
        subst hq'
        refine ⟨?_, fun h => by simp [he] at h⟩
        rw [outstanding_of_isOver rfl]
        rw [outstanding, List.append_assoc] at hlast
        simpa using hlast.of_append
  exact ⟨h.gone hr, h.busy hr, h.capacity ▸ hr.room, fun s hs => (both s hs).1,
    fun s hs => (both s hs).2⟩

theorem run_sound {r t : Replay} {es : List Event} {log : Log} (h : r.run es = some (t, log))
    (hr : r.Sound) : t.Sound :=
  run_keeps h (fun _ _ _ _ _ he => he.sound) hr

/-- What cannot be undone. -/
theorem run_lasting {r t : Replay} {es : List Event} {log : Log} (h : r.run es = some (t, log)) :
    (r.state.task.isOver = true → t.state.task = r.state.task) ∧
      (∀ s, (r.state.reader s).dropped = true → (t.state.reader s).dropped = true) ∧
      ∀ s, (r.state.reader s).ended = true → (t.state.reader s).ended = true := by
  induction es generalizing r log with
  | nil => cases h; exact ⟨fun _ => rfl, fun _ h => h, fun _ h => h⟩
  | cons e es ih =>
    obtain ⟨q, a, rest, hs, hr, -⟩ := run_cons h
    have he := effect_of_step hs
    obtain ⟨o, d, n⟩ := ih hr
    refine ⟨fun h => ?_, fun s h => d s (he.dropped h), fun s h => n s (he.ended h)⟩
    have hq := he.over h
    rw [o (hq ▸ h), hq]

end Replay

end Countersign
