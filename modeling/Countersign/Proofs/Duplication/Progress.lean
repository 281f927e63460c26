import Countersign.Proofs.Duplication.Outstanding
/-! Whoever reads on gets to the end. Every move of the task and every answer that is
not a mere wait makes the state lighter, and as long as a reader has not come to its
end some such event is possible. -/

namespace Countersign

namespace Source

/-- It does not go on for ever: it ends, or it fails. -/
def Ends (s : Source) : Prop := s.endless = false ∨ s.fault? ≠ none

end Source

namespace Replay

open Duplication

/-- Where the task stands in its source. A finished task has met the end or a fault,
or has nobody left to serve. -/
def Follows (source : Source) (r : Replay) : Prop :=
  match r.state.task with
  | .pulling | .delivering (.ok _) _ _ =>
    r.source.endless = source.endless ∧ Source.faultOf r.source.items = source.fault?
  | .delivering (.error _) _ _ => source.fault? ≠ none
  | .finished => source.Ends ∨ ∀ s, (r.state.reader s).dropped = true
  | .aborted => True

theorem follows_start (source : Source) (capacity : Nat) : Follows source (start source capacity) :=
  ⟨rfl, rfl⟩

/-- Passing a chunk on, or giving up a side, leaves the place in the source as it is. -/
theorem follows_passed {source : Source} {r q : Replay} {s : Side} {c : Chunk}
    (h : Follows source r) (hc : r.state.task.held s = [c]) (hq : q.source = r.source)
    (ht : q.state.task = r.state.task.passed s) : Follows source q := by
  unfold Follows at h ⊢
  rw [ht, hq]
  cases hk : r.state.task with
  | delivering c' a b =>
    rw [hk] at h
    obtain rfl : c' = c := by
      rw [hk] at hc
      cases s <;> cases a <;> cases b <;> first | exact List.head_eq_of_cons_eq hc | cases hc
    cases c' with
    | ok x => cases s <;> cases a <;> cases b <;> simp_all [Task.passed, due]
    | error x => cases s <;> cases a <;> cases b <;> simp_all [Task.passed, due, Source.Ends]
  | _ => simp [hk, Task.held] at hc

theorem follows_setReader {source : Source} {r : Replay} (h : Follows source r) (u : Side)
    (x : Reader) (hx : (r.state.reader u).dropped = true → x.dropped = true) :
    Follows source { r with state := r.state.setReader u x } := by
  unfold Follows at h ⊢
  rw [task_setReader]
  cases ht : r.state.task with
  | finished =>
    rw [ht] at h
    refine h.imp_right ?_
    intro hs s
    rw [reader_setReader]
    split
    · exact hx (hs u)
    · exact hs s
  | delivering c _ _ =>
    rw [ht] at h
    cases c <;> exact h
  | pulling =>
    rw [ht] at h
    exact h
  | aborted => trivial

theorem Effect.follows {source : Source} {r q : Replay} {e : Event} {a : Option Poll}
    (h : Effect r e q a) (hr : r.Sound) (hf : Follows source r) : Follows source q := by
  cases h with
  | quit ht hs => exact .inr fun s => by simpa using hr.gone s (hs s)
  | finish ht hs hi he =>
    simp only [Follows, ht] at hf
    exact .inl (.inl (hf.1 ▸ he))
  | skip ts rest ht hs hi => simpa [Follows, ht, hi, Source.faultOf] using hf
  | take c rest ht hs hi =>
    simp only [Follows, ht, hi] at hf
    cases c with
    | ok b => exact hf
    | error x =>
      have hx : some x = source.fault? := hf.2
      simp [Follows, ← hx]
  | lose s c hc => exact follows_passed hf hc rfl (by simp)
  | pass s c hc => exact follows_passed hf hc rfl (by simp)
  | tell u | fail u | close u | cancel u => exact follows_setReader hf u _ id
  | drop u => exact follows_setReader hf u _ fun _ => rfl
  | wait | again | late => exact hf
  | abort => trivial

theorem run_follows {source : Source} {r t : Replay} {es : List Event} {log : Log}
    (h : r.run es = some (t, log)) (hr : r.Sound) (hf : Follows source r) : Follows source t := by
  have keeps (e : Event) (_ : e ∈ es) (r q : Replay) (a : Option Poll) (he : Effect r e q a)
      (hr : r.Sound ∧ Follows source r) : q.Sound ∧ Follows source q :=
    ⟨he.sound hr.1, he.follows hr.1 hr.2⟩
  exact (run_keeps h keeps ⟨hr, hf⟩).2

/-- An event that gives nothing up: the task moves, or a reader asks. -/
def Event.GoesOn : Event → Prop
  | .task _ | .poll _ => True
  | _ => False

def readerWeight (x : Reader) : Nat := x.queue.length + if x.ended then 0 else 1

/-- A held chunk weighs twice what it weighs in a queue, an item of the source more
than both copies of it. -/
def taskWeight : Task → Nat
  | .pulling => 1
  | .delivering _ a b => 2 + 2 * a.toNat + 2 * b.toNat
  | .finished | .aborted => 0

def weight (r : Replay) : Nat :=
  6 * r.source.items.length + taskWeight r.state.task +
    (readerWeight (r.state.reader .first) + readerWeight (r.state.reader .second))

theorem weight_passed {t : Task} {s : Side} {c : Chunk} (h : t.held s = [c]) :
    taskWeight (t.passed s) + 2 ≤ taskWeight t := by
  cases t with
  | delivering c' a b =>
    cases s <;> cases a <;> cases b <;> cases c' <;>
      simp_all [Task.held, Task.passed, due, taskWeight]
  | _ => simp [Task.held] at h

/-- Changing one reader changes what both weigh by what that reader weighs. -/
theorem sum_setReader (f : Reader → Nat) (d : Duplication) (u : Side) (x : Reader) :
    f ((d.setReader u x).reader .first) + f ((d.setReader u x).reader .second) + f (d.reader u) =
      f (d.reader .first) + f (d.reader .second) + f x := by
  cases u <;> simp <;> omega

/-- Every move of the task makes the state lighter. -/
theorem Effect.lighter_of_task {r q : Replay} {m : Move} {a : Option Poll}
    (h : Effect r (.task m) q a) : q.weight < r.weight := by
  cases h with
  | quit ht | finish ht => simp [weight, taskWeight, ht]
  | skip ts rest ht hs hi => simp only [weight, hi, List.length_cons]; omega
  | take c rest ht hs hi =>
    have h1 := Bool.toNat_le (r.state.served .first)
    have h2 := Bool.toNat_le (r.state.served .second)
    simp only [weight, taskWeight, hi, ht, task_withTask, reader_withTask, List.length_cons]
    omega
  | lose s c hc =>
    have := weight_passed hc
    simp only [weight, task_withTask, reader_withTask, reader_stopServing]; omega
  | pass s c hc =>
    have := weight_passed hc
    have hw := sum_setReader readerWeight r.state s { r.state.reader s with
      queue := (r.state.reader s).queue ++ [c] }
    simp only [weight, task_withTask, reader_withTask]
    simp only [readerWeight, List.length_append, List.length_singleton] at hw ⊢
    omega

/-- So does every answer but a mere wait, up to the end of a reader. -/
theorem Effect.lighter_of_poll {r q : Replay} {s : Side} {p : Poll}
    (h : Effect r (.poll s) q (some p)) (hp : p.isPending = false)
    (he : (r.state.reader s).ended = false) : q.weight < r.weight := by
  cases h with
  | tell _ b rest _ _ hq =>
    have hw := sum_setReader readerWeight r.state s { r.state.reader s with queue := rest }
    simp only [weight, task_setReader]
    simp only [readerWeight, hq, List.length_cons] at hw ⊢
    omega
  | fail _ x rest _ _ hq =>
    have hw := sum_setReader readerWeight r.state s { r.state.reader s with queue := rest, ended := true }
    simp only [weight, task_setReader]
    simp only [readerWeight, hq, he, List.length_cons, if_true] at hw ⊢
    omega
  | close _ _ _ hq | cancel _ _ _ hq =>
    have hw := sum_setReader readerWeight r.state s { r.state.reader s with ended := true }
    simp only [weight, task_setReader]
    simp only [readerWeight, hq, he, if_true, Bool.false_eq_true, if_false] at hw ⊢
    omega
  | wait => cases hp
  | again _ _ hended => simp [he] at hended

/-- A reader with something in its queue can be told of it. -/
theorem can_tell {r : Replay} {s : Side} (hd : (r.state.reader s).dropped = false)
    (he : (r.state.reader s).ended = false) (hq : (r.state.reader s).queue ≠ []) :
    ∃ q p, Effect r (.poll s) q (some p) ∧ q.weight < r.weight := by
  cases hc : (r.state.reader s).queue with
  | nil => exact absurd hc hq
  | cons c rest =>
    cases c with
    | ok b =>
      have h := Effect.tell s b rest hd he hc
      exact ⟨_, _, h, h.lighter_of_poll rfl he⟩
    | error x =>
      have h := Effect.fail s x rest hd he hc
      exact ⟨_, _, h, h.lighter_of_poll rfl he⟩

/-- A task that is about to take an item can take one, or the end. -/
theorem can_pull {source : Source} {r : Replay} {s : Side} (hf : Follows source r)
    (hends : source.Ends) (ht : r.state.task = .pulling) (hs : r.state.served s = true) :
    ∃ q, Effect r (.task .pull) q none := by
  cases hi : r.source.items with
  | nil =>
    simp only [Follows, ht, hi] at hf
    have he : r.source.endless = false := by
      rcases hends with h | h
      · rw [hf.1, h]
      · exact absurd hf.2.symm h
    exact ⟨_, .finish ht ⟨s, hs⟩ hi he⟩
  | cons x rest =>
    match x with
    | .ok (.data b) => exact ⟨_, .take (.ok b) rest ht ⟨s, hs⟩ hi⟩
    | .ok (.trailers ts) => exact ⟨_, .skip ts rest ht ⟨s, hs⟩ hi⟩
    | .error e => exact ⟨_, .take (.error e) rest ht ⟨s, hs⟩ hi⟩

/-- A reader that a held chunk is due to gets it, is gone, or has a full queue. -/
theorem can_deliver {r : Replay} {u : Side} {c : Chunk} (hr : r.Sound)
    (hc : r.state.task.held u = [c]) :
    ∃ e q a, e.GoesOn ∧ Effect r e q a ∧ q.weight < r.weight := by
  cases hd : (r.state.reader u).dropped with
  | true =>
    have h := Effect.lose u c hc hd
    exact ⟨.task (.deliver u), _, _, trivial, h, h.lighter_of_task⟩
  | false =>
    by_cases hroom : (r.state.reader u).queue.length < r.state.capacity
    · have h := Effect.pass u c hc hd hroom
      exact ⟨.task (.deliver u), _, _, trivial, h, h.lighter_of_task⟩
    · have he : (r.state.reader u).ended = false := by
        cases hx : (r.state.reader u).ended with
        | false => rfl
        | true => have := hr.closed u hd hx; simp [outstanding, hc] at this
      have hq : (r.state.reader u).queue ≠ [] := by
        intro hnil
        have := hr.room
        simp [hnil] at hroom
        omega
      obtain ⟨q, p, h, hlt⟩ := can_tell hd he hq
      exact ⟨.poll u, _, _, trivial, h, hlt⟩

/-- Until a reader has come to its end something can go on. -/
theorem can_go_on {source : Source} {r : Replay} {s : Side} (hr : r.Sound) (hf : Follows source r)
    (hends : source.Ends ∨ r.state.task.isOver = true)
    (hd : (r.state.reader s).dropped = false) (he : (r.state.reader s).ended = false) :
    ∃ e q a, e.GoesOn ∧ Effect r e q a ∧ q.weight < r.weight := by
  by_cases hq : (r.state.reader s).queue = []
  · cases ht : r.state.task with
    | finished =>
      have h := Effect.close s hd he hq ht
      exact ⟨.poll s, _, _, trivial, h, h.lighter_of_poll rfl he⟩
    | aborted =>
      have h := Effect.cancel s hd he hq ht
      exact ⟨.poll s, _, _, trivial, h, h.lighter_of_poll rfl he⟩
    | pulling =>
      have hs : r.state.served s = true := by
        cases hx : r.state.served s with
        | true => rfl
        | false => simp [hr.gone s hx] at hd
      have hends : source.Ends := hends.resolve_right (by simp [ht, Task.isOver])
      obtain ⟨q, h⟩ := can_pull hf hends ht hs
      exact ⟨.task .pull, _, _, trivial, h, h.lighter_of_task⟩
    | delivering c a b =>
      obtain ⟨u, hc⟩ := hr.busy c a b ht
      exact can_deliver hr hc
  · obtain ⟨q, p, h, hlt⟩ := can_tell hd he hq
    exact ⟨.poll s, _, _, trivial, h, hlt⟩

theorem Effect.dropped_of_goesOn {r q : Replay} {e : Event} {a : Option Poll}
    (h : Effect r e q a) (hg : e.GoesOn) (s : Side) :
    (q.state.reader s).dropped = (r.state.reader s).dropped := by
  cases h with
  | quit | finish | skip | take | wait | again => rfl
  | lose => simp
  | pass u | tell u | fail u | close u | cancel u => by_cases hs : s = u <;> simp [hs]
  | drop | abort | late => exact hg.elim

end Replay

end Countersign
