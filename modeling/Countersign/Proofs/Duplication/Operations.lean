import Countersign.Proofs.Duplication.Outstanding
/-! What each operation on a duplication does when it is taken alone, whatever the source
behind it is. -/

namespace Countersign.Duplication

variable {d d' : Duplication} {s : Side} {p : Poll}

@[simp] theorem setReader_self (d : Duplication) (s : Side) : d.setReader s (d.reader s) = d := by
  cases s <;> rfl

@[simp] theorem isOver_setReader (d : Duplication) (s : Side) (x : Reader) :
    (d.setReader s x).isOver = d.isOver := by cases s <;> rfl

@[simp] theorem task_drop (d : Duplication) (s : Side) : (d.drop s).task = d.task :=
  task_setReader ..

@[simp] theorem isOver_drop (d : Duplication) (s : Side) : (d.drop s).isOver = d.isOver :=
  isOver_setReader ..

theorem quit_cases (h : d.quit = some d') : d.task = .pulling ∧ d' = d.withTask .finished := by
  unfold quit at h
  split at h
  · next ht =>
    split at h
    · cases h
    · exact ⟨ht, (Option.some.inj h).symm⟩
  · cases h

theorem wantsItem_of_pull (h : d.pull p = some d') : d.wantsItem = true := by
  cases hw : d.wantsItem with
  | true => rfl
  | false => simp [pull, hw] at h

/-- A task that takes an answer is at its end with it, skips it or holds its chunk. -/
theorem pull_cases (h : d.pull p = some d') :
    d.task = .pulling ∧
      (p = .done ∧ d' = d.withTask .finished ∨
        (∃ ts, p = .item (.ok (.trailers ts))) ∧ d' = d ∨
        ∃ c, p = .item (frameOf c) ∧
          d' = d.withTask (.delivering c (d.served .first) (d.served .second))) := by
  have hw := wantsItem_of_pull h
  refine ⟨((wantsItem_iff d).1 hw).1, ?_⟩
  simp only [pull, hw, Bool.not_true, Bool.false_eq_true, if_false] at h
  split at h
  · cases h
  · exact .inl ⟨rfl, (Option.some.inj h).symm⟩
  · exact .inr (.inl ⟨⟨_, rfl⟩, (Option.some.inj h).symm⟩)
  · next b => exact .inr (.inr ⟨.ok b, rfl, (Option.some.inj h).symm⟩)
  · next e => exact .inr (.inr ⟨.error e, rfl, (Option.some.inj h).symm⟩)

/-- Every answer but a mere wait can be taken. -/
theorem exists_pull (hw : d.wantsItem = true) (hp : p.isPending = false) :
    ∃ d', d.pull p = some d' := by
  simp only [pull, hw, Bool.not_true, Bool.false_eq_true, if_false]
  split
  · cases hp
  all_goals exact ⟨_, rfl⟩

/-- A chunk goes to a reader that is gone, or to one that has room. -/
theorem deliver_cases (h : d.deliver s = some d') :
    ∃ c, d.task.held s = [c] ∧
      ((d.reader s).dropped = true ∧ d' = (d.stopServing s).withTask (d.task.passed s) ∨
        (d.reader s).dropped = false ∧ (d.reader s).queue.length < d.capacity ∧
          d' = (d.setReader s { d.reader s with queue := (d.reader s).queue ++ [c] }).withTask
            (d.task.passed s)) := by
  rw [deliver_eq] at h
  split at h
  · cases h
  · next c cs hc =>
    obtain rfl : cs = [] := Task.held_tail hc
    refine ⟨c, hc, ?_⟩
    split at h
    · next hd => exact .inl ⟨hd, (Option.some.inj h).symm⟩
    · next hd =>
      split at h
      · next hr => exact .inr ⟨by simpa using hd, hr, (Option.some.inj h).symm⟩
      · cases h

/-- To a reader that is gone, or has room, a chunk can be passed on. -/
theorem exists_deliver {c : Chunk} (hc : d.task.held s = [c])
    (h : (d.reader s).dropped = true ∨ (d.reader s).queue.length < d.capacity) :
    ∃ d', d.deliver s = some d' := by
  rw [deliver_eq, hc]
  dsimp only
  split
  · exact ⟨_, rfl⟩
  · next hd =>
    rw [if_pos (h.resolve_left hd)]
    exact ⟨_, rfl⟩

/-- Whoever asks changes what there is for that reader, and no more. -/
theorem poll_cases (d : Duplication) (s : Side) :
    ∃ x : Reader, (d.poll s).2 = d.setReader s x ∧ x.dropped = (d.reader s).dropped := by
  cases he : (d.reader s).ended with
  | true => exact ⟨d.reader s, by simp [poll, he], rfl⟩
  | false =>
    rw [poll_open he]
    split
    · exact ⟨_, rfl, rfl⟩
    · exact ⟨_, rfl, rfl⟩
    · split
      · exact ⟨_, rfl, rfl⟩
      · exact ⟨_, rfl, rfl⟩
      · exact ⟨d.reader s, by simp, rfl⟩

theorem task_poll (d : Duplication) (s : Side) : (d.poll s).2.task = d.task := by
  obtain ⟨x, h, -⟩ := poll_cases d s
  rw [h, task_setReader]

theorem isOver_poll (d : Duplication) (s : Side) : (d.poll s).2.isOver = d.isOver := by
  rw [isOver_eq, task_poll, isOver_eq]

theorem dropped_poll (d : Duplication) (s u : Side) :
    ((d.poll s).2.reader u).dropped = (d.reader u).dropped := by
  obtain ⟨x, h, hx⟩ := poll_cases d s
  rw [h, reader_setReader]
  split
  · next hu => rw [hx, hu]
  · rfl

/-- A reader that only tells to wait has nothing, and its task is not over. -/
theorem poll_pending (h : (d.poll s).1.isPending = true) :
    (d.reader s).queue = [] ∧ d.isOver = false := by
  cases he : (d.reader s).ended with
  | true => simp [Duplication.poll, he, Poll.isPending] at h
  | false =>
    rw [poll_open he] at h
    split at h
    · cases h
    · cases h
    · next hq =>
      refine ⟨hq, ?_⟩
      split at h
      · cases h
      · cases h
      · rw [isOver_eq]
        cases ht : d.task <;> simp_all [Task.isOver]

/-- Nothing changes for a reader that is only told to wait. -/
theorem state_of_pending (h : (d.poll s).1.isPending = true) :
    (d.poll s).2 = d := by
  cases he : (d.reader s).ended with
  | true => simp [Duplication.poll, he]
  | false =>
    rw [poll_open he] at h ⊢
    split at h
    · cases h
    · cases h
    · split at h
      · cases h
      · cases h
      · rfl

theorem isPending_of_pull (h : d.pull p = some d') : p.isPending = false := by
  obtain ⟨-, ⟨rfl, -⟩ | ⟨⟨ts, rfl⟩, -⟩ | ⟨c, rfl, -⟩⟩ := pull_cases h <;> rfl

theorem isOver_of_pull_done (h : d.pull .done = some d') : d'.isOver = true := by
  obtain ⟨-, ⟨-, rfl⟩ | ⟨⟨ts, hp⟩, -⟩ | ⟨c, hp, -⟩⟩ := pull_cases h
  · rfl
  · cases hp
  · cases hp

theorem dropped_deliver {u : Side} (h : d.deliver u = some d') (s : Side) :
    (d'.reader s).dropped = (d.reader s).dropped := by
  obtain ⟨c, -, ⟨-, rfl⟩ | ⟨-, -, rfl⟩⟩ := deliver_cases h
  · simp
  · by_cases hs : s = u <;> simp [hs]

theorem reader_quit (h : d.quit = some d') (s : Side) : d'.reader s = d.reader s := by
  obtain ⟨-, rfl⟩ := quit_cases h
  exact reader_withTask ..

theorem reader_pull (h : d.pull p = some d') (s : Side) : d'.reader s = d.reader s := by
  obtain ⟨-, ⟨-, rfl⟩ | ⟨-, rfl⟩ | ⟨c, -, rfl⟩⟩ := pull_cases h
  · exact reader_withTask ..
  · rfl
  · exact reader_withTask ..

/-! A task that moves was not over, and it is not aborted by that. -/

theorem running_of_quit (h : d.quit = some d') : d.isOver = false := by
  rw [isOver_eq, (quit_cases h).1]
  rfl

theorem running_of_pull (h : d.pull p = some d') : d.isOver = false := by
  rw [isOver_eq, (pull_cases h).1]
  rfl

theorem running_of_deliver (h : d.deliver s = some d') : d.isOver = false := by
  obtain ⟨c, hc, -⟩ := deliver_cases h
  rw [isOver_eq, Task.isOver_of_held hc]

theorem spared_by_quit (h : d.quit = some d') : d'.task ≠ .aborted := by
  obtain ⟨-, rfl⟩ := quit_cases h
  nofun

theorem spared_by_pull (h : d.pull p = some d') : d'.task ≠ .aborted := by
  obtain ⟨ht, ⟨-, rfl⟩ | ⟨-, rfl⟩ | ⟨c, -, rfl⟩⟩ := pull_cases h
  · nofun
  · simp [ht]
  · nofun

theorem spared_by_deliver (h : d.deliver s = some d') : d'.task ≠ .aborted := by
  obtain ⟨c, hc, ⟨-, rfl⟩ | ⟨-, -, rfl⟩⟩ := deliver_cases h <;> exact Task.passed_ne_aborted hc

end Countersign.Duplication
