import Countersign.Proofs.Duplication.Standstill
/-! How much of a body a duplication holds. The books balance: what has been taken from the
source is what a reader has had, what waits in its queue, and at most one chunk in the hand of
the task. No reader is far behind the source then, nor far behind the other reader. -/

namespace Countersign

namespace Source

def isData : Item → Bool
  | .ok (.data _) => true
  | _ => false

/-- The data chunks among some items. -/
def dataCount (items : List Item) : Nat := items.countP isData

@[simp] theorem dataCount_append (xs ys : List Item) :
    dataCount (xs ++ ys) = dataCount xs + dataCount ys := List.countP_append ..

theorem dataCount_cons (x : Item) (xs : List Item) :
    dataCount (x :: xs) = dataCount [x] + dataCount xs := dataCount_append [x] xs

@[simp] theorem dataCount_nil : dataCount [] = 0 := rfl

@[simp] theorem dataCount_trailers (ts : Http.Headers) : dataCount [.ok (.trailers ts)] = 0 := rfl

theorem dataCount_le_length (items : List Item) : dataCount items ≤ items.length :=
  List.countP_le_length

end Source

def Poll.isData : Poll → Bool
  | .item x => Source.isData x
  | _ => false

namespace Task

@[simp] theorem held_pulling (s : Side) : Task.pulling.held s = [] := by cases s <;> rfl

@[simp] theorem held_finished (s : Side) : Task.finished.held s = [] := by cases s <;> rfl

@[simp] theorem held_aborted (s : Side) : Task.aborted.held s = [] := by cases s <;> rfl

theorem length_held_le (t : Task) (s : Side) : (t.held s).length ≤ 1 := by
  cases h : t.held s with
  | nil => exact Nat.zero_le _
  | cons c cs =>
    rw [held_tail h]
    exact Nat.le_refl _

end Task

namespace Replay

open Duplication Source

/-! ## The books -/

/-- The data chunks that `s` has been handed. -/
def consumed (s : Side) (log : Log) : Nat := (heard s log).countP Poll.isData

/-- The data chunks that wait for `s`, in its queue or in the hand of the task. -/
def stock (r : Replay) (s : Side) : Nat :=
  dataCount (((r.state.reader s).queue ++ r.state.task.held s).map frameOf)

/-- The chunk that an abort may have taken from the hand of the task. -/
def spilt (r : Replay) : Nat :=
  match r.state.task with
  | .aborted => 1
  | _ => 0

@[simp] theorem consumed_append (s : Side) (log log' : Log) :
    consumed s (log ++ log') = consumed s log + consumed s log' := by
  rw [consumed, heard_append, List.countP_append]
  rfl

@[simp] theorem consumed_none (s : Side) (e : Event) : consumed s (entry e none) = 0 := by
  rw [consumed, heard_none]
  rfl

theorem consumed_own (s : Side) {p : Poll} (h : p.isPending = false) :
    consumed s (entry (.poll s) (some p)) = [p].countP Poll.isData := by
  rw [consumed, heard_own s h]

theorem consumed_other {s u : Side} (h : u ≠ s) (p : Poll) :
    consumed s (entry (.poll u) (some p)) = 0 := by
  rw [consumed, heard_other h]
  rfl

/-- What has gone through the books between two states: the items taken from the source, and
the answers given. -/
structure Balanced (r q : Replay) (taken : List Item) (log : Log) : Prop where
  drawn : r.source.items = taken ++ q.source.items
  /-- Nothing is handed out that was not there or taken. -/
  covered : ∀ s, consumed s log + q.stock s ≤ r.stock s + dataCount taken
  /-- Nothing is lost for a reader that stays, but for what an abort spills. -/
  kept : ∀ s, (q.state.reader s).dropped = false →
    r.stock s + dataCount taken + r.spilt ≤ consumed s log + q.stock s + q.spilt

theorem Balanced.refl (r : Replay) : Balanced r r [] [] :=
  ⟨rfl, fun s => by simp [consumed, heard], fun s _ => by simp [consumed, heard]⟩

theorem Balanced.trans {r q t : Replay} {taken taken' : List Item} {log log' : Log}
    (h : Balanced r q taken log) (h' : Balanced q t taken' log')
    (stays : ∀ s, (q.state.reader s).dropped = true → (t.state.reader s).dropped = true) :
    Balanced r t (taken ++ taken') (log ++ log') where
  drawn := by rw [h.drawn, h'.drawn, List.append_assoc]
  covered s := by
    have h₁ := h.covered s
    have h₂ := h'.covered s
    rw [consumed_append, dataCount_append]
    omega
  kept s hs := by
    have hq : (q.state.reader s).dropped = false := by
      cases hd : (q.state.reader s).dropped with
      | false => rfl
      | true => simp [stays s hd] at hs
    have h₁ := h.kept s hq
    have h₂ := h'.kept s hs
    rw [consumed_append, dataCount_append]
    omega

/-- The books of an event that takes nothing from the source. -/
theorem balanced_of_stock {r q : Replay} {log : Log} (hsource : q.source = r.source)
    (hspilt : q.spilt = r.spilt) (hstock : ∀ s, consumed s log + q.stock s = r.stock s) :
    Balanced r q [] log where
  drawn := by rw [hsource, List.nil_append]
  covered s := Nat.le_of_eq (hstock s)
  kept s _ := by
    rw [hstock s, hspilt]
    exact Nat.le_refl _

theorem spilt_of_ne {r : Replay} (h : r.state.task ≠ .aborted) : r.spilt = 0 := by
  unfold spilt
  split
  · rename_i ht
    exact absurd ht h
  · rfl

theorem spilt_le_one (r : Replay) : r.spilt ≤ 1 := by
  unfold spilt
  split <;> omega

/-- The books of a poll: one reader is handed something, and its queue changes. -/
theorem balanced_of_poll {r : Replay} {u : Side} {p : Poll} {x : Reader}
    (hp : consumed u (entry (.poll u) (some p)) + dataCount (x.queue.map frameOf) =
      dataCount ((r.state.reader u).queue.map frameOf)) :
    Balanced r { r with state := r.state.setReader u x } [] (entry (.poll u) (some p)) := by
  refine balanced_of_stock rfl (by simp [spilt]) ?_
  intro s
  by_cases hs : s = u
  · subst hs
    simp only [stock, reader_setReader, task_setReader, if_true, List.map_append, dataCount_append]
    omega
  · simp [stock, hs, consumed_other (Ne.symm hs)]

/-- The books of an event that costs one reader what waits for it, and finds that reader gone. -/
theorem balanced_of_gone {r q : Replay} {u : Side} (hsource : q.source = r.source)
    (hspilt : q.spilt = r.spilt) (hu : (q.state.reader u).dropped = true)
    (hless : q.stock u ≤ r.stock u) (hsame : ∀ s, s ≠ u → q.stock s = r.stock s) :
    Balanced r q [] [] where
  drawn := by rw [hsource, List.nil_append]
  covered s := by
    by_cases hs : s = u
    · subst hs
      simpa [consumed, heard] using hless
    · simp [consumed, heard, hsame s hs]
  kept s hhere := by
    have hs : s ≠ u := by
      rintro rfl
      simp [hu] at hhere
    simp [consumed, heard, hsame s hs, hspilt]

/-- The books of a chunk or a fault that the task takes: it holds one for every reader that
stays. -/
theorem balanced_of_take {r : Replay} {c : Chunk} {rest : List Item} (hr : r.Sound)
    (ht : r.state.task = .pulling) (hi : r.source.items = frameOf c :: rest) :
    Balanced r ⟨{ r.source with items := rest },
      r.state.withTask (.delivering c (r.state.served .first) (r.state.served .second))⟩
      [frameOf c] [] where
  drawn := hi
  covered s := by
    have held : ((Task.delivering c (r.state.served .first) (r.state.served .second)).held s).map
        frameOf <+: [frameOf c] := by
      cases s <;> cases r.state.served .first <;> cases r.state.served .second <;>
        simp [Task.held]
    have hcount := held.sublist.countP_le (p := isData)
    simp only [consumed, heard, stock, task_withTask, reader_withTask, List.map_append,
      dataCount_append, List.filter_nil, List.map_nil, List.countP_nil]
    unfold dataCount at hcount ⊢
    omega
  kept s hd := by
    have served : r.state.served s = true := by
      cases hx : r.state.served s with
      | true => rfl
      | false =>
        rw [reader_withTask, hr.gone s hx] at hd
        cases hd
    have held : (Task.delivering c (r.state.served .first) (r.state.served .second)).held s =
        [c] := by
      cases s <;> simp [Task.held, served]
    simp [stock, spilt, held, ht, consumed, heard]

/-- The books of an abort: it may spill the one chunk in the hand of the task. -/
theorem balanced_of_abort {r : Replay} (ht : r.state.task.isOver = false) :
    Balanced r { r with state := r.state.withTask .aborted } [] [] where
  drawn := rfl
  covered s := by simp [stock, Task.held, consumed, heard]
  kept s _ := by
    have spares : r.spilt = 0 := by
      refine spilt_of_ne ?_
      intro h
      simp [h, Task.isOver] at ht
    have held : dataCount ((r.state.task.held s).map frameOf) ≤ 1 := by
      refine Nat.le_trans (dataCount_le_length _) ?_
      rw [List.length_map]
      exact Task.length_held_le ..
    have spills : spilt { r with state := r.state.withTask .aborted } = 1 := rfl
    simp only [stock, task_withTask, reader_withTask, Task.held_aborted, List.map_append,
      dataCount_append, List.map_nil, dataCount_nil, spares, spills]
    omega

/-- Whatever happens, the books balance. -/
theorem Effect.balanced {r q : Replay} {e : Event} {a : Option Poll} (h : Effect r e q a)
    (hr : r.Sound) : ∃ taken, Balanced r q taken (entry e a) := by
  cases h with
  | quit ht | finish ht =>
    refine ⟨[], balanced_of_stock rfl (by simp [spilt, ht]) ?_⟩
    intro s
    simp [stock, ht]
  | skip ts rest ht hs hi =>
    refine ⟨[.ok (.trailers ts)], hi, fun s => ?_, fun s _ => ?_⟩ <;> simp [stock, spilt]
  | take c rest ht hs hi => exact ⟨[frameOf c], balanced_of_take hr ht hi⟩
  | lose u c hc hd =>
    refine ⟨[], balanced_of_gone (u := u) rfl ?_ (by simpa using hd) ?_ ?_⟩
    · rw [spilt_of_ne (Task.ne_aborted_of_held hc), spilt_of_ne (Task.passed_ne_aborted hc)]
    · simp [stock, Task.held_passed]
    · intro s hs
      simp [stock, Task.held_passed, hs]
  | pass u c hc hd hroom =>
    refine ⟨[], balanced_of_stock rfl ?_ ?_⟩
    · rw [spilt_of_ne (Task.ne_aborted_of_held hc), spilt_of_ne (Task.passed_ne_aborted hc)]
    · intro s
      by_cases hs : s = u
      · subst hs
        simp [stock, Task.held_passed, hc]
      · simp [stock, Task.held_passed, hs]
  | tell u b rest hd he hq =>
    refine ⟨[], balanced_of_poll ?_⟩
    rw [hq, List.map_cons, dataCount_cons, consumed_own u rfl]
    rfl
  | fail u x rest hd he hq =>
    refine ⟨[], balanced_of_poll ?_⟩
    rw [hq, List.map_cons, dataCount_cons, consumed_own u rfl]
    rfl
  | close u hd he hq | cancel u hd he hq =>
    refine ⟨[], balanced_of_poll ?_⟩
    rw [hq, consumed_own u rfl]
    rfl
  | wait u =>
    refine ⟨[], balanced_of_stock rfl rfl ?_⟩
    intro s
    simp [consumed]
  | again u =>
    refine ⟨[], balanced_of_stock rfl rfl ?_⟩
    intro s
    by_cases hs : u = s
    · subst hs
      rw [consumed_own u rfl]
      exact Nat.zero_add _
    · rw [consumed_other hs, Nat.zero_add]
  | drop u =>
    refine ⟨[], balanced_of_gone (u := u) rfl (by simp [spilt]) (by simp) ?_ ?_⟩
    · simp [stock]
    · intro s hs
      simp [stock, hs]
  | abort ht => exact ⟨[], balanced_of_abort ht⟩
  | late => exact ⟨[], balanced_of_stock rfl rfl (by simp)⟩

theorem run_balanced {r t : Replay} {es : List Event} {log : Log} (h : r.run es = some (t, log))
    (hr : r.Sound) : ∃ taken, Balanced r t taken log := by
  induction es generalizing r log with
  | nil => cases h; exact ⟨[], .refl t⟩
  | cons e es ih =>
    obtain ⟨q, a, rest, hs, hq, rfl⟩ := run_cons h
    have he := effect_of_step hs
    obtain ⟨taken, hfirst⟩ := he.balanced hr
    obtain ⟨taken', hrest⟩ := ih hq (he.sound hr)
    exact ⟨taken ++ taken', hfirst.trans hrest (run_lasting hq).2.1⟩

/-! ## The bound -/

/-- What waits for a reader is its queue and one chunk more, which an abort may spill. -/
theorem stock_add_spilt_le {r : Replay} (hr : r.Within) (s : Side) :
    r.stock s + r.spilt ≤ r.state.capacity + 1 := by
  have hqueue : dataCount ((r.state.reader s).queue.map frameOf) ≤ r.state.capacity := by
    refine Nat.le_trans (dataCount_le_length _) ?_
    rw [List.length_map]
    exact hr s
  have hheld : dataCount ((r.state.task.held s).map frameOf) ≤ 1 := by
    refine Nat.le_trans (dataCount_le_length _) ?_
    rw [List.length_map]
    exact Task.length_held_le ..
  rw [stock, List.map_append, dataCount_append]
  by_cases ht : r.state.task = .aborted
  · have hspilt := r.spilt_le_one
    rw [ht, Task.held_aborted, List.map_nil, dataCount_nil]
    omega
  · have hspilt := spilt_of_ne ht
    omega

/-- The items that have been taken from the source. -/
def drawn (source : Source) (r : Replay) : List Item :=
  source.items.take (source.items.length - r.source.items.length)

/-- How far source and readers may be apart. -/
structure KeepsPace (source : Source) (capacity : Nat) (r : Replay) (log : Log) : Prop where
  queues : ∀ s, (r.state.reader s).queue.length ≤ max capacity 1
  taken : drawn source r ++ r.source.items = source.items
  /-- No reader is told of data that has not been taken. -/
  lead : ∀ s, consumed s log ≤ dataCount (drawn source r)
  /-- A reader that is there has had all that was taken, but for one queue and one chunk. -/
  lag : ∀ s, (r.state.reader s).dropped = false →
    dataCount (drawn source r) ≤ consumed s log + max capacity 1 + 1
  /-- So nobody gets further ahead of it than that. -/
  apart : ∀ s u, (r.state.reader u).dropped = false →
    consumed s log ≤ consumed u log + max capacity 1 + 1
  /-- What is longer is not taken whole. -/
  unfinished : ∀ s, (r.state.reader s).dropped = false →
    consumed s log + max capacity 1 + 1 < dataCount source.items → 0 < dataCount r.source.items

/-- Whatever has happened, a duplication holds little of its source: no queue is longer than the
capacity, and no reader that is there has missed more than that and one chunk of what was
taken. -/
theorem keeps_pace (source : Source) (capacity : Nat) (events : List Event) (r : Replay)
    (log : Log) (h : (start source capacity).run events = some (r, log)) :
    KeepsPace source capacity r log := by
  obtain ⟨taken, books⟩ := run_balanced h (sound_start source capacity)
  have hcapacity := capacity_of_run h
  have hwithin := within_of_run h
  have hitems : taken ++ r.source.items = source.items := books.drawn.symm
  have hdrawn : drawn source r = taken := by
    rw [drawn, ← hitems, List.length_append, Nat.add_sub_cancel, List.take_left]
  have hempty (s : Side) : (start source capacity).stock s = 0 := by cases s <;> rfl
  have hspilt : (start source capacity).spilt = 0 := rfl
  have lead (s : Side) : consumed s log ≤ dataCount taken := by
    have := books.covered s
    rw [hempty] at this
    omega
  have lag (s : Side) (hs : (r.state.reader s).dropped = false) :
      dataCount taken ≤ consumed s log + max capacity 1 + 1 := by
    have hkept := books.kept s hs
    have hstock := stock_add_spilt_le hwithin s
    rw [hempty, hspilt] at hkept
    omega
  rw [← hdrawn] at lead lag
  refine ⟨fun s => hcapacity ▸ hwithin s, hdrawn ▸ hitems, lead, lag, ?_, ?_⟩
  · intro s u hu
    exact Nat.le_trans (lead s) (lag u hu)
  · intro s hs hlong
    have hsum := dataCount_append (drawn source r) r.source.items
    rw [hdrawn, hitems, ← hdrawn] at hsum
    have := lag s hs
    omega

/-- The bound is met: one reader has had two chunks, and the other, with one in its queue and
one on the way, none. -/
theorem keeps_pace_at_the_bound :
    ∃ source events r log, (start source 0).run events = some (r, log) ∧
      KeepsPace source 0 r log ∧ (r.state.reader .second).dropped = false ∧
      consumed .first log = consumed .second log + max 0 1 + 1 ∧
      dataCount (drawn source r) = consumed .second log + max 0 1 + 1 :=
  have h := rfl
  ⟨⟨[.ok (.data [1]), .ok (.trailers []), .ok (.data [2]), .ok (.data [3])], false⟩,
    [.task .pull, .task (.deliver .first), .task (.deliver .second), .poll .first, .task .pull,
      .task .pull, .task (.deliver .first), .poll .first],
    _, _, h, keeps_pace _ _ _ _ _ h, rfl, rfl, rfl⟩

end Replay

end Countersign
