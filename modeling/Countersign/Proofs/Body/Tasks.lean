import Countersign.Proofs.Duplication.Operations
import Countersign.Body.Plumbing
/-! What reading, splitting and letting go of bodies does to the tasks of the stages: none
goes away, and none is aborted by it. -/

namespace Countersign

namespace Reading

variable {σ : Type} {R : σ → σ → Prop} (refl : ∀ s, R s s)
  (trans : ∀ {a b c : σ}, R a b → R b c → R a c)
include refl trans

/-- What one answer keeps, many keep. -/
theorem frames_keeps {poll : σ → Poll × σ} (hpoll : ∀ s, R s (poll s).2) (n : Nat) (s : σ) :
    R s (frames poll n s).2 := by
  induction n generalizing s with
  | zero => exact refl s
  | succ n ih =>
    have h := hpoll s
    rw [frames]
    generalize poll s = w at h
    obtain ⟨p, t⟩ := w
    cases p with
    | item x => exact trans h (ih t)
    | pending => exact h
    | done => exact h

theorem everything_keeps {poll : σ → Poll × σ} (hpoll : ∀ s, R s (poll s).2) (n : Nat) (s : σ) :
    R s (everything poll n s).2 := by
  induction n generalizing s with
  | zero => exact refl s
  | succ n ih =>
    have h := hpoll s
    rw [everything]
    generalize poll s = w at h
    obtain ⟨p, t⟩ := w
    match p with
    | .item (.ok (.data _)) => exact trans h (ih t)
    | .item (.ok (.trailers _)) => exact trans h (ih t)
    | .item (.error _) => exact h
    | .pending => exact h
    | .done => exact h

omit trans in
theorem advance_keeps {poll : σ → Poll × σ} (hpoll : ∀ s, R s (poll s).2) (p : Progress) (s : σ) :
    R s (advance poll p s).2 := by
  unfold advance
  split
  · exact refl s
  · have h := hpoll s
    generalize poll s = w at h
    obtain ⟨p, t⟩ := w
    match p with
    | .item (.ok (.data _)) => exact h
    | .item (.ok (.trailers _)) => exact h
    | .item (.error _) => exact h
    | .pending => exact h
    | .done => exact h

variable {ι : Type} {poll : ι → σ → Poll × σ} (hpoll : ∀ i s, R s (poll i s).2)
include hpoll

theorem turn_keeps (ps : List (ι × Progress)) (s : σ) : R s (turn poll ps s).2 := by
  induction ps generalizing s with
  | nil => exact refl s
  | cons p ps ih => exact trans (advance_keeps refl (hpoll p.1) p.2 s) (ih _)

theorem turns_keeps (n : Nat) (ps : List (ι × Progress)) (s : σ) :
    R s (turns poll n ps s).2 := by
  induction n generalizing ps s with
  | zero => exact refl s
  | succ n ih =>
    have h := turn_keeps refl trans hpoll ps s
    rw [turns]
    split
    · next hturn =>
      rw [hturn] at h
      exact trans h (ih _ _)
    · next hturn =>
      rw [hturn] at h
      exact h

theorem together_keeps (n : Nat) (is : List ι) (s : σ) : R s (together poll n is s).2 :=
  turns_keeps refl trans hpoll n _ s

end Reading

/-- The task after an abort, which comes too late for one that is over. -/
def Task.stopped (t : Task) : Task := if t.isOver then t else .aborted

theorem Task.isOver_stopped (t : Task) : t.stopped.isOver = true := by
  unfold stopped
  split
  · assumption
  · rfl

theorem Task.stopped_of_isOver {t : Task} (h : t.isOver = true) : t.stopped = t := if_pos h

namespace Plumbing

/-- The task of stage `i`, if there is that stage. -/
def task? (p : Plumbing) (i : Nat) : Option Task := p[i]?.map fun g => g.state.task

/-- The stages of `p` are there in `q`, and nothing aborted one on the way. -/
structure Spares (p q : Plumbing) : Prop where
  length_eq : q.length = p.length
  aborted : ∀ i, q.task? i = some .aborted → p.task? i = some .aborted

variable {p q : Plumbing} {i : Nat}

namespace Spares

theorem refl (p : Plumbing) : p.Spares p := ⟨rfl, fun _ => id⟩

theorem trans {a b c : Plumbing} (h : a.Spares b) (h' : b.Spares c) : a.Spares c :=
  ⟨h'.length_eq.trans h.length_eq, fun i => h.aborted i ∘ h'.aborted i⟩

end Spares

@[simp] theorem length_update (p : Plumbing) (i : Nat) (f : Duplication → Duplication) :
    (p.update i f).length = p.length := List.length_modify ..

theorem task?_update {f : Duplication → Duplication}
    (hf : ∀ g, p[i]? = some g → (f g.state).task = g.state.task) (l : Nat) :
    (p.update i f).task? l = p.task? l := by
  unfold task? update
  rw [List.getElem?_modify]
  by_cases hl : i = l
  · subst hl
    cases hg : p[i]? with
    | none => rfl
    | some g => simp [hf g hg]
  · simp [hl]

theorem length_poll (p : Plumbing) (b : Body) : (p.poll b).2.2.length = p.length := by
  unfold poll
  split
  · rfl
  · split
    · rfl
    · dsimp only
      exact length_update ..

theorem task?_poll (p : Plumbing) (b : Body) (l : Nat) : (p.poll b).2.2.task? l = p.task? l := by
  unfold poll
  split
  · rfl
  · next i s =>
    split
    · rfl
    · next g hg =>
      dsimp only
      refine task?_update ?_ l
      intro g' hg'
      obtain rfl : g = g' := Option.some.inj (hg.symm.trans hg')
      exact g.state.task_poll s

theorem length_release (p : Plumbing) (b : Body) : (p.release b).length = p.length := by
  cases b with
  | stream => rfl
  | reader i s =>
    unfold release
    exact length_update ..

theorem task?_release (p : Plumbing) (b : Body) (l : Nat) :
    (p.release b).task? l = p.task? l := by
  cases b with
  | stream => rfl
  | reader i s =>
    unfold release
    refine task?_update ?_ l
    intro g _
    exact g.state.task_drop s

theorem length_put (p : Plumbing) (i : Nat) (g : Stage) : (p.put i g).length = p.length := by
  unfold put
  dsimp only
  split
  · rw [length_release, List.length_set]
  · exact List.length_set ..

theorem task?_put (p : Plumbing) (i : Nat) (g : Stage) (l : Nat) :
    (p.put i g).task? l = if i = l ∧ i < p.length then some g.state.task else p.task? l := by
  have hset : task? (List.set p i g) l =
      if i = l ∧ i < p.length then some g.state.task else p.task? l := by
    unfold task?
    rw [List.getElem?_set]
    by_cases hl : i = l
    · subst hl
      by_cases hi : i < p.length <;> simp [hi]
    · simp [hl]
  unfold put
  dsimp only
  split
  · rw [task?_release, hset]
  · exact hset

theorem length_abort (p : Plumbing) (i : Nat) : (p.abort i).length = p.length := by
  unfold abort
  split
  · rfl
  · split
    · rfl
    · exact length_put ..

/-- An abort reaches the one task, if that is not over. -/
theorem task?_abort (p : Plumbing) (i l : Nat) :
    (p.abort i).task? l =
      if l = i then (p.task? i).map Task.stopped else p.task? l := by
  unfold abort
  split
  · next hg =>
    split
    · next hl => simp [hl, task?, hg]
    · rfl
  · next g hg =>
    have hi : i < p.length := (List.getElem?_eq_some_iff.1 hg).1
    have htask : p.task? i = some g.state.task := by simp [task?, hg]
    rw [Duplication.isOver_eq]
    cases ho : g.state.task.isOver with
    | true =>
      rw [if_pos rfl, htask, Option.map_some, Task.stopped_of_isOver ho]
      split
      · next hl => rw [hl, htask]
      · rfl
    | false =>
      have habort : g.state.abort.task = .aborted := by
        simp [Duplication.abort, Duplication.isOver_eq, ho]
      simp only [Bool.false_eq_true, if_false, task?_put, hi, and_true, habort, htask,
        Option.map_some, Task.stopped, ho, eq_comm]

theorem length_abortAll (is : List Nat) (p : Plumbing) :
    (is.foldl abort p).length = p.length := by
  induction is generalizing p with
  | nil => rfl
  | cons i is ih => rw [List.foldl_cons, ih, length_abort]

/-- Aborts of several stages reach each of them. -/
theorem task?_abortAll (is : List Nat) (p : Plumbing) (l : Nat) :
    (is.foldl abort p).task? l = if l ∈ is then (p.task? l).map Task.stopped else p.task? l := by
  induction is generalizing p with
  | nil => rfl
  | cons i is ih =>
    rw [List.foldl_cons, ih, task?_abort]
    by_cases hl : l = i
    · subst hl
      cases p.task? l with
      | none => simp
      | some t => simp [Task.stopped_of_isOver t.isOver_stopped]
    · simp [hl]

theorem spares_poll (p : Plumbing) (b : Body) : p.Spares (p.poll b).2.2 :=
  ⟨length_poll p b, fun l h => (task?_poll p b l).symm.trans h⟩

theorem spares_release (p : Plumbing) (b : Body) : p.Spares (p.release b) :=
  ⟨length_release p b, fun l h => (task?_release p b l).symm.trans h⟩

theorem spares_put {g : Stage} (hg : g.state.task ≠ .aborted) : p.Spares (p.put i g) := by
  refine ⟨length_put p i g, ?_⟩
  intro l h
  rw [task?_put] at h
  split at h
  · exact absurd (Option.some.inj h) hg
  · exact h

/-- Taking from a body, the answer asked for first. -/
theorem pull_eq (p : Plumbing) (i : Nat) (g : Stage) :
    p.pull i g = (g.state.pull (p.poll g.source).1).map fun d =>
      (p.poll g.source).2.2.put i ⟨(p.poll g.source).2.1, d⟩ := by
  unfold pull
  cases hw : g.state.wantsItem with
  | true => rfl
  | false => simp [Duplication.pull, hw]

/-- A task moves on its own and aborts none. -/
theorem spares_move {m : Move} (h : p.move i m = some q) : p.Spares q := by
  unfold move at h
  obtain ⟨g, -, h⟩ := Option.bind_eq_some_iff.1 h
  cases m with
  | quit =>
    obtain ⟨d, hd, rfl⟩ := Option.map_eq_some_iff.1 h
    exact spares_put (Duplication.spared_by_quit hd)
  | deliver s =>
    obtain ⟨d, hd, rfl⟩ := Option.map_eq_some_iff.1 h
    exact spares_put (Duplication.spared_by_deliver hd)
  | pull =>
    replace h : p.pull i g = some q := h
    rw [pull_eq] at h
    obtain ⟨d, hd, rfl⟩ := Option.map_eq_some_iff.1 h
    exact (spares_poll p g.source).trans (spares_put (Duplication.spared_by_pull hd))

/-- Only a task that is not over moves. -/
theorem running_of_move {m : Move} (h : p.move i m = some q) :
    ∃ t, p.task? i = some t ∧ t.isOver = false := by
  unfold move at h
  obtain ⟨g, hg, h⟩ := Option.bind_eq_some_iff.1 h
  refine ⟨g.state.task, by simp [task?, hg], ?_⟩
  rw [← Duplication.isOver_eq]
  cases m with
  | quit =>
    obtain ⟨d, hd, -⟩ := Option.map_eq_some_iff.1 h
    exact Duplication.running_of_quit hd
  | deliver s =>
    obtain ⟨d, hd, -⟩ := Option.map_eq_some_iff.1 h
    exact Duplication.running_of_deliver hd
  | pull =>
    replace h : p.pull i g = some q := h
    rw [pull_eq] at h
    obtain ⟨d, hd, -⟩ := Option.map_eq_some_iff.1 h
    exact Duplication.running_of_pull hd

theorem move_of_stepAny (h : p.stepAny = some q) : ∃ i m, p.move i m = some q := by
  obtain ⟨i, -, hi⟩ := List.exists_of_findSome?_eq_some h
  obtain ⟨m, -, hm⟩ := List.exists_of_findSome?_eq_some hi
  exact ⟨i, m, hm⟩

theorem spares_settleFor (n : Nat) (p : Plumbing) : p.Spares (settleFor n p) := by
  induction n generalizing p with
  | zero => exact .refl p
  | succ n ih =>
    rw [settleFor]
    split
    · next q h =>
      obtain ⟨i, m, hm⟩ := move_of_stepAny h
      exact (spares_move hm).trans (ih q)
    · exact .refl p

/-- Once all tasks are over nothing happens by itself. -/
theorem settle_of_over (h : ∀ i t, p.task? i = some t → t.isOver = true) : p.settle = p := by
  have still : p.stepAny = none := by
    cases hs : p.stepAny with
    | none => rfl
    | some q =>
      obtain ⟨i, m, hm⟩ := move_of_stepAny hs
      obtain ⟨t, ht, hrun⟩ := running_of_move hm
      simp [h i t ht] at hrun
  unfold settle
  generalize (p.length + 1) * (4 * p.volume + 4) = k
  cases k with
  | zero => rfl
  | succ k => rw [settleFor, still]

theorem spares_settle (p : Plumbing) : p.Spares p.settle := spares_settleFor _ p

theorem spares_discard (p : Plumbing) (b : Body) : p.Spares (p.discard b) :=
  (spares_release p b).trans (spares_settle _)

theorem spares_ask (w : Body × Plumbing) : w.2.Spares (ask w).2.2 :=
  (spares_poll w.2 w.1).trans (spares_settle _)

theorem spares_askNth (i : Nat) (w : List Body × Plumbing) : w.2.Spares (askNth i w).2.2 := by
  unfold askNth
  split
  · exact .refl _
  · next b _ => exact spares_ask (b, w.2)

theorem spares_readFrames (p : Plumbing) (b : Body) (n : Nat) :
    p.Spares (p.readFrames b n).2.2 :=
  (spares_settle p).trans <|
    Reading.frames_keeps (R := fun (w w' : Body × Plumbing) => w.2.Spares w'.2)
      (fun w => .refl w.2) .trans spares_ask n (b, p.settle)

theorem spares_readAll (p : Plumbing) (b : Body) : p.Spares (p.readAll b).2.2 :=
  (spares_settle p).trans <|
    Reading.everything_keeps (R := fun (w w' : Body × Plumbing) => w.2.Spares w'.2)
      (fun w => .refl w.2) .trans spares_ask _ (b, p.settle)

theorem spares_releaseAll (bs : List Body) (p : Plumbing) : p.Spares (bs.foldl release p) := by
  induction bs generalizing p with
  | nil => exact .refl p
  | cons b bs ih => exact (spares_release p b).trans (ih _)

theorem spares_readTogether (p : Plumbing) (bs : List Body) : p.Spares (p.readTogether bs).2 := by
  have hread := Reading.together_keeps (R := fun (w w' : List Body × Plumbing) => w.2.Spares w'.2)
    (fun w => .refl w.2) .trans spares_askNth (bs.foldr (fun b n => p.bound b + n) 1)
    (List.range bs.length) (bs, p.settle)
  exact ((spares_settle p).trans hread).trans
    ((spares_releaseAll _ _).trans (spares_settle _))

end Plumbing

end Countersign
