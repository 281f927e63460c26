import Countersign.Proofs.Cascade.Fidelity
import Countersign.Proofs.Cascade.Weight
/-! Whoever reads on gets to the end of a source that has one. A task that holds a chunk is
held up by a full queue only, and then somebody can ask there or the next task can move; a
task that waits for an item waits for the task before it, and the first one for the source. -/

namespace Countersign

open Plumbing Duplication

/-- The invariant of a stage in whatever row it stands. -/
def Fit (d : Duplication) : Prop := ∃ rest : Source, (⟨rest, d⟩ : Replay).Sound

namespace Fit

variable {d : Duplication} {s : Side}

/-- A reader that a chunk is due to has not come to its end. -/
theorem open_of_held (h : Fit d) {c : Chunk} (hc : d.task.held s = [c])
    (hd : (d.reader s).dropped = false) : (d.reader s).ended = false := by
  obtain ⟨rest, h⟩ := h
  cases he : (d.reader s).ended with
  | false => rfl
  | true =>
    have hnil := h.closed s hd he
    simp [Replay.outstanding, hc] at hnil

theorem of_share {given : List Poll} {capacity : Nat} {log : Replay.Log} {cut : Prop}
    (h : Share given (.start capacity) d log cut) : Fit d := by
  obtain ⟨es, -, hrun⟩ := h .empty fun _ => rfl
  exact ⟨.empty, Replay.run_sound hrun (Replay.sound_start _ capacity)⟩

end Fit

namespace Plumbing

variable {source source' : Source} {state state' : Nat → Duplication} {n i : Nat}

/-- What the task of stage `l` would be answered. -/
def answer (source : Source) (state : Nat → Duplication) : Nat → Poll
  | 0 => source.poll.1
  | j + 1 => ((state j).poll .first).1

theorem exists_pulled {d : Duplication} (h : (state i).pull (answer source state i) = some d) :
    ∃ source' state' log, Moved source state i .pull source' state' log := by
  cases i with
  | zero => exact ⟨_, _, _, .supply d h⟩
  | succ j => exact ⟨_, _, _, .hand j d h⟩

/-- A task that waits for an item can take the answer, or end if nobody is served. -/
theorem exists_moved (ht : (state i).task = .pulling)
    (hp : (state i).wantsItem = true → (answer source state i).isPending = false) :
    ∃ m source' state' log, Moved source state i m source' state' log := by
  cases hw : (state i).wantsItem with
  | true =>
    obtain ⟨d, hd⟩ := exists_pull hw (hp hw)
    exact ⟨_, exists_pulled hd⟩
  | false =>
    have hquit : (state i).quit = some ((state i).withTask .finished) := by
      simp only [wantsItem, ht] at hw
      simp [quit, ht, hw, withTask]
    exact ⟨_, _, _, _, .quit i _ hquit⟩

end Plumbing

namespace Cascade

/-- An event that gives nothing up: a task moves, somebody asks, or the body is taken to
be read. -/
def Event.GoesOn : Event → Prop
  | .task _ _ | .poll _ _ | .take => True
  | _ => False

variable {c c' : Cascade} {source source' : Source} {state state' : Nat → Duplication}
  {n i l : Nat} {s : Side}

/-- An event that goes on is possible and makes the cascade lighter. -/
def Advances (source : Source) (state : Nat → Duplication) (n : Nat) (c : Cascade) : Prop :=
  ∃ (e : Event) (c' : Cascade) (log : Answers) (source' : Source) (state' : Nat → Duplication),
    e.GoesOn ∧ c.step e = some (c', log) ∧ Linked source' state' n c' ∧
      weight source' state' n + c'.body.isSome.toNat < weight source state n + c.body.isSome.toNat

section Advance

variable (h : Linked source state n c)
include h

theorem advances_move {m : Move} {log : Answers} (hi : i < n)
    (hm : Moved source state i m source' state' log) : Advances source state n c := by
  obtain ⟨hstep, hlinked⟩ := h.move hi hm
  exact ⟨.task i m, _, _, _, _, trivial, hstep, hlinked,
    Nat.add_lt_add_right (hm.lighter hi) _⟩

theorem advances_poll (hi : c.handedOut i s = true) (hd : ((state i).reader s).dropped = false)
    (he : ((state i).reader s).ended = false) (hp : ((state i).poll s).1.isPending = false) :
    Advances source state n c := by
  obtain ⟨c', hstep, rfl, hlinked⟩ := h.poll hi hd
  have hin := h.stage_of_handedOut hi
  exact ⟨.poll i s, _, _, _, _, trivial, hstep, hlinked,
    Nat.add_lt_add_right (weight_poll hin he hp) _⟩

theorem advances_take (hb : c.body.isSome = true) : Advances source state n c := by
  obtain ⟨hstep, hlinked⟩ := h.take hb
  refine ⟨.take, _, _, _, _, trivial, hstep, hlinked, ?_⟩
  rw [hb]
  exact Nat.lt_succ_self _

/-- Whoever has something for an outlet can get rid of it. -/
theorem advances_outlet (hi : c.Outlet i s) (hd : ((state i).reader s).dropped = false)
    (he : ((state i).reader s).ended = false) (hp : ((state i).poll s).1.isPending = false) :
    Advances source state n c := by
  cases s with
  | second =>
    refine advances_poll h ?_ hd he hp
    simp only [handedOut, decide_eq_true_eq]
    exact hi
  | first =>
    cases hb : c.body with
    | some b => exact advances_take h (by rw [hb]; rfl)
    | none =>
      refine advances_poll h ?_ hd he hp
      simp only [handedOut, hb, Option.isNone_none, Bool.true_and, decide_eq_true_eq]
      exact hi

/-- A task that waits for an item and can be answered makes a move. -/
theorem advances_pulling (hi : i < n) (ht : (state i).task = .pulling)
    (hp : (state i).wantsItem = true → (answer source state i).isPending = false) :
    Advances source state n c := by
  obtain ⟨m, source', state', log, hm⟩ := exists_moved ht hp
  exact advances_move h hi hm

/-- A task that holds a chunk passes it on, or somebody makes room for it. The induction
goes down the row: what a full queue holds up may wait for the next task. -/
theorem advances_delivering (hfit : ∀ l < n, Fit (state l)) {x : Chunk} {a b : Bool} (hl : l < n)
    (ht : (state l).task = .delivering x a b) : Advances source state n c := by
  have hn := h.length_eq
  induction hk : n - l generalizing l x a b with
  | zero => omega
  | succ k ih =>
    obtain ⟨rest, sound⟩ := hfit l hl
    obtain ⟨u, hu⟩ := sound.busy x a b ht
    have hu : (state l).task.held u = [x] := hu
    cases hd : ((state l).reader u).dropped with
    | true =>
      obtain ⟨d, hdeliver⟩ := exists_deliver hu (.inl hd)
      exact advances_move h hl (.deliver l u d hdeliver)
    | false =>
      by_cases hroom : ((state l).reader u).queue.length < (state l).capacity
      · obtain ⟨d, hdeliver⟩ := exists_deliver hu (.inr hroom)
        exact advances_move h hl (.deliver l u d hdeliver)
      · have he := (hfit l hl).open_of_held hu hd
        have hq : ((state l).reader u).queue ≠ [] := by
          intro hnil
          have hcap : 0 < (state l).capacity := sound.room
          rw [hnil, List.length_nil] at hroom
          exact hroom hcap
        have hp : ((state l).poll u).1.isPending = false := by
          cases hp : ((state l).poll u).1.isPending with
          | false => rfl
          | true => exact absurd (poll_pending hp).1 hq
        by_cases hout : c.Outlet l u
        · exact advances_outlet h hout hd he hp
        · -- a first reader that the next stage takes from
          obtain rfl : u = .first := by
            cases u with
            | first => rfl
            | second =>
              simp only [Outlet, hn] at hout
              exact absurd hl hout
          have hnext : l + 1 < n := by
            simp only [Outlet] at hout
            omega
          have running : (state (l + 1)).isOver = false := (h.tied l (.inl hnext)).symm.trans hd
          cases ht' : (state (l + 1)).task with
          | pulling => exact advances_pulling h hnext ht' fun _ => hp
          | delivering x' a' b' => exact ih hnext ht' (by omega)
          | finished | aborted => simp [isOver_eq, ht', Task.isOver] at running

/-- Unless the first stage has to wait for the source, something can go on wherever a task
is not over. The induction goes up the row, to the task that the others wait for. -/
theorem advances_running (hfit : ∀ l < n, Fit (state l))
    (hsource : (state 0).wantsItem = true → source.poll.1.isPending = false)
    (hl : l < n) (running : (state l).isOver = false) : Advances source state n c := by
  induction l with
  | zero =>
    cases ht : (state 0).task with
    | pulling => exact advances_pulling h hl ht hsource
    | delivering => exact advances_delivering h hfit hl ht
    | finished | aborted => simp [isOver_eq, ht, Task.isOver] at running
  | succ j ih =>
    cases ht : (state (j + 1)).task with
    | pulling =>
      cases hp : ((state j).poll .first).1.isPending with
      | false => exact advances_pulling h hl ht fun _ => hp
      | true => exact ih (by omega) (poll_pending hp).2
    | delivering => exact advances_delivering h hfit hl ht
    | finished | aborted => simp [isOver_eq, ht, Task.isOver] at running

/-- Until an outlet has come to its end something can go on. -/
theorem advances_or_ended (hfit : ∀ l < n, Fit (state l))
    (hsource : (state 0).wantsItem = true → source.poll.1.isPending = false)
    (hi : c.Outlet i s) (hd : ((state i).reader s).dropped = false) :
    Advances source state n c ∨
      c.handedOut i s = true ∧ ((state i).reader s).ended = true := by
  have hn := h.length_eq
  have hin : i < n := hn ▸ lt_of_outlet hi
  cases he : ((state i).reader s).ended with
  | false =>
    cases hp : ((state i).poll s).1.isPending with
    | false => exact .inl (advances_outlet h hi hd he hp)
    | true => exact .inl (advances_running h hfit hsource hin (poll_pending hp).2)
  | true =>
    cases s with
    | second => exact .inr ⟨by simpa [handedOut, Outlet] using hi, rfl⟩
    | first =>
      cases hb : c.body with
      | some b => exact .inl (advances_take h (by rw [hb]; rfl))
      | none => exact .inr ⟨by simpa [handedOut, Outlet, hb] using hi, rfl⟩

end Advance

section Reading

variable {origin : Source} {capacity : Nat} {es : List Event} {log : Answers}

/-- A cascade is a row in one way only. -/
theorem Linked.unique {n' : Nat} (h : Linked source state n c)
    (h' : Linked source' state' n' c) :
    n' = n ∧ (∀ l < n, state' l = state l) ∧ (0 < n → source' = source) := by
  obtain rfl : n' = n := h'.length_eq.symm.trans h.length_eq
  have same (l : Nat) (hl : l < n') :
      feeding source' l = feeding source l ∧ state' l = state l := by
    have hstage : c.plumbing[l]? = some ⟨feeding source l, state l⟩ := by
      rw [h.stages, getElem?_row, if_pos hl]
    rw [h'.stages, getElem?_row, if_pos hl] at hstage
    exact Stage.mk.inj (Option.some.inj hstage)
  exact ⟨rfl, fun l hl => (same l hl).2, fun hn => Body.stream.inj (same 0 hn).1⟩

/-- All stages of a cascade are fit, whatever has happened to it. -/
theorem fit_of_run (hrun : (start origin capacity).run es = some (c, log))
    (h : Linked source state n c) (hl : l < n) : Fit (state l) := by
  obtain ⟨source', state', n', hlinked, onward⟩ := (Linked.start origin capacity).run hrun
  obtain ⟨-, hstate, -⟩ := h.unique hlinked
  exact hstate l hl ▸ .of_share (onward.share l)

/-- The first stage never has to wait for a source that has an end. -/
theorem source_of_run (hrun : (start origin capacity).run es = some (c, log))
    (h : Linked source state n c) (hn : 0 < n) (hends : origin.Ends)
    (hw : (state 0).wantsItem = true) : source.poll.1.isPending = false := by
  obtain ⟨source', state', n', hlinked, onward⟩ := (Linked.start origin capacity).run hrun
  obtain ⟨-, hstate, hsource⟩ := h.unique hlinked
  obtain rfl := hsource hn
  obtain ⟨es', -, hstart⟩ := onward.share 0 source' onward.spent
  rw [← onward.supply] at hstart
  have follows : Replay.Follows origin ⟨source', state' 0⟩ :=
    Replay.run_follows hstart (Replay.sound_start origin capacity)
      (Replay.follows_start origin capacity)
  rw [hstate 0 hn] at follows
  have ht := ((wantsItem_iff _).1 hw).1
  simp only [Replay.Follows, ht] at follows
  unfold Source.poll
  cases hitems : source'.items with
  | cons x rest => rfl
  | nil =>
    rw [hitems] at follows
    have hend : source'.endless = false := by
      rcases hends with hends | hends
      · rw [follows.1, hends]
      · exact absurd follows.2.symm hends
    simp [hend, Poll.isPending]

/-- Nothing that goes on changes anything any more. -/
def Still (c : Cascade) : Prop :=
  ∀ e c' log, e.GoesOn → c.step e = some (c', log) → c' = c

/-- A run in which all go on, and every event changes something. -/
inductive Works : Cascade → List Event → Cascade → Answers → Prop
  | rest (c : Cascade) : Works c [] c []
  | step {c c' t : Cascade} {e : Event} {es : List Event} {log log' : Answers} (hg : e.GoesOn)
      (hs : c.step e = some (c', log)) (hne : c' ≠ c) (h : Works c' es t log') :
      Works c (e :: es) t (log ++ log')

theorem Works.run {t : Cascade} (h : Works c es t log) : c.run es = some (t, log) := by
  induction h with
  | rest => rfl
  | step _ hs _ _ ih => exact run_of_step hs ih

theorem Works.goesOn {t : Cascade} (h : Works c es t log) : ∀ e ∈ es, e.GoesOn := by
  induction h with
  | rest => nofun
  | step hg _ _ _ ih => exact List.forall_mem_cons.2 ⟨hg, ih⟩

/-- Whatever goes on and changes something makes a cascade lighter. -/
theorem Linked.lighter (h : Linked source state n c) {e : Event} (hg : e.GoesOn)
    (hs : c.step e = some (c', log)) (hne : c' ≠ c) :
    ∃ source' state', Linked source' state' n c' ∧
      weight source' state' n + c'.body.isSome.toNat <
        weight source state n + c.body.isSome.toNat := by
  cases e with
  | split | drop | abort => exact hg.elim
  | take =>
    obtain ⟨b, hb, heq⟩ := Option.map_eq_some_iff.1 hs
    cases heq
    have hb' : c.body.isSome = true := by rw [hb]; rfl
    refine ⟨source, state, (h.take hb').2, ?_⟩
    rw [hb']
    exact Nat.lt_succ_self _
  | task i m =>
    obtain ⟨p, hp, heq⟩ := Option.map_eq_some_iff.1 hs
    have hi : i < n := by
      obtain ⟨_, ht, -⟩ := running_of_move hp
      obtain ⟨g, hg, -⟩ := Option.map_eq_some_iff.1 ht
      rw [← h.length_eq]
      exact (List.getElem?_eq_some_iff.1 hg).1
    cases heq
    rw [h.stages] at hp
    obtain ⟨source', state', hm, rfl⟩ := (move_row hi).1 ⟨hp, rfl⟩
    exact ⟨source', state', (h.move hi hm).2, Nat.add_lt_add_right (hm.lighter hi) _⟩
  | poll i s =>
    have hi : c.handedOut i s = true ∧ c.isDropped i s = false := by
      simp only [Cascade.step] at hs
      split at hs
      · next hcond => simpa using hcond
      · cases hs
    have hin := h.stage_of_handedOut hi.1
    obtain ⟨q, hq, rfl, hlinked⟩ := h.poll hi.1 (h.isDropped_eq hin ▸ hi.2)
    obtain ⟨rfl, -⟩ := Prod.mk.inj (Option.some.inj (hs.symm.trans hq))
    have hnews : ((state i).reader s).ended = false ∧ ((state i).poll s).1.isPending = false := by
      have hsame (hd : ((state i).poll s).2 = state i) : False := by
        refine hne ?_
        rw [hd, Function.update_eq_self, ← h.stages]
      constructor
      · cases he : ((state i).reader s).ended with
        | false => rfl
        | true => exact (hsame (by simp [Duplication.poll, he])).elim
      · cases hp : ((state i).poll s).1.isPending with
        | false => rfl
        | true => exact (hsame (state_of_pending hp)).elim
    exact ⟨source, _, hlinked, Nat.add_lt_add_right (weight_poll hin hnews.1 hnews.2) _⟩

/-- So all can go on for a limited time only. -/
theorem Works.length_le {t : Cascade} (h : Works c es t log) (hl : Linked source state n c) :
    es.length ≤ weight source state n + c.body.isSome.toNat := by
  induction h generalizing source state with
  | rest => exact Nat.zero_le _
  | step hg hs hne _ ih =>
    obtain ⟨source', state', hl', hlt⟩ := hl.lighter hg hs hne
    have hle := ih hl'
    rw [List.length_cons]
    omega

/-- The weight is that of the cascade, in whatever way the row is written. -/
theorem Linked.weight_eq (h : Linked source state n c) (h' : Linked source' state' n c)
    (hn : 0 < n) : weight source state n = weight source' state' n := by
  obtain ⟨-, hstate, hsource⟩ := h.unique h'
  rw [hsource hn]
  unfold weight
  refine congrArg _ (Finset.sum_congr rfl fun l hl => ?_)
  rw [hstate l (Finset.mem_range.1 hl)]

/-- When nothing goes on any more, every outlet that is there has come to its end. -/
theorem ended_of_still (hrun : (start origin capacity).run es = some (c, log))
    (hends : origin.Ends) (hstill : c.Still) (hi : c.Outlet i s) (hd : c.isDropped i s = false) :
    ∃ c', c.step (.poll i s) = some (c', [(.holder i s, .done)]) ∧ c'.Outlet i s := by
  obtain ⟨source, state, n, h, -⟩ := (Linked.start origin capacity).run hrun
  have hn := h.length_eq
  have hin : i < n := hn ▸ lt_of_outlet hi
  have hd' := h.isDropped_eq (s := s) hin ▸ hd
  rcases advances_or_ended h (fun l hl => fit_of_run hrun h hl)
    (source_of_run hrun h (by omega) hends) hi hd' with hgo | ⟨hout, he⟩
  · obtain ⟨e, c', first, source', state', hg, hs, h', hlt⟩ := hgo
    obtain rfl := hstill e c' first hg hs
    rw [h.weight_eq h' (by omega)] at hlt
    exact absurd hlt (Nat.lt_irrefl _)
  · obtain ⟨c', hs, rfl, hlinked⟩ := h.poll hout hd'
    have hdone : ((state i).poll s).1 = .done := by simp [Duplication.poll, he]
    rw [hdone] at hs
    refine ⟨_, hs, ?_⟩
    cases s <;> simpa only [Outlet, hlinked.length_eq, hn] using hi

end Reading

end Cascade

end Countersign
