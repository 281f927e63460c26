import Countersign.Proofs.Duplication.Standstill
import Mathlib.Data.List.Basic
/-! Every duplication comes to rest. Whatever happens and changes anything makes the state
lighter, so it can happen a limited number of times only; and when nothing more goes on the
task has finished and every reader that is there has come to its end. -/

namespace Countersign

deriving instance DecidableEq for Source, Reader, Task, Duplication, Replay

namespace Replay

open Duplication

/-! ## How often a run can change anything -/

/-- A reader that can still go away weighs something by that alone. -/
def presence (x : Reader) : Nat := if x.dropped then 0 else 1

/-- What is left to be moved, asked for, dropped or aborted. -/
def budget (r : Replay) : Nat :=
  r.weight + (presence (r.state.reader .first) + presence (r.state.reader .second))

theorem budget_start (source : Source) (capacity : Nat) :
    (start source capacity).budget = 6 * source.items.length + 5 := rfl

/-- How many events of a run change the state. -/
def changes (r : Replay) : List Event → Nat
  | [] => 0
  | e :: es =>
    match r.step e with
    | none => 0
    | some (q, _) => (if q = r then 0 else 1) + q.changes es

theorem budget_of_goesOn {r q : Replay} {e : Event} {a : Option Poll} (h : Effect r e q a)
    (hg : e.GoesOn) (hlt : q.weight < r.weight) : q.budget < r.budget := by
  simp only [budget, presence, h.dropped_of_goesOn hg]
  omega

/-- A reader that has something, or is still there, weighs less once it is gone. -/
theorem lighter_of_drop {x : Reader} (h : x.queue ≠ [] ∨ x.dropped = false) :
    readerWeight { x with queue := [], dropped := true } +
        presence { x with queue := [], dropped := true } < readerWeight x + presence x := by
  simp only [readerWeight, presence, List.length_nil, if_true]
  rcases h with hqueue | hthere
  · have hlength := List.length_pos_of_ne_nil hqueue
    omega
  · simp only [hthere, Bool.false_eq_true, if_false]
    omega

theorem budget_drop {r : Replay} {s : Side} (hne : r.without s ≠ r) :
    (r.without s).budget < r.budget := by
  have hx : (r.state.reader s).queue ≠ [] ∨ (r.state.reader s).dropped = false := by
    refine Decidable.byContradiction fun hgone => hne ?_
    simp only [not_or, Decidable.not_not, Bool.not_eq_false] at hgone
    have hsame : { r.state.reader s with queue := [], dropped := true } = r.state.reader s := by
      rw [← hgone.1, ← hgone.2]
    rw [without, drop, hsame, setReader_self]
  have hlt := lighter_of_drop hx
  have hw := sum_setReader readerWeight r.state s
    { r.state.reader s with queue := [], dropped := true }
  have hp := sum_setReader presence r.state s
    { r.state.reader s with queue := [], dropped := true }
  simp only [budget, weight, without, drop, task_setReader] at hlt hw hp ⊢
  omega

/-- Whatever changes anything makes the state lighter. -/
theorem Effect.cheaper {r q : Replay} {e : Event} {a : Option Poll} (h : Effect r e q a)
    (hne : q ≠ r) : q.budget < r.budget := by
  cases e with
  | task m => exact budget_of_goesOn h trivial h.lighter_of_task
  | poll s =>
    have hopen : (r.state.reader s).ended = false := by
      cases h with
      | tell _ _ _ _ he | fail _ _ _ _ he | close _ _ he | cancel _ _ he => exact he
      | wait | again => exact absurd rfl hne
    obtain ⟨p, rfl, hp⟩ : ∃ p, a = some p ∧ p.isPending = false := by
      cases h with
      | tell | fail | close | cancel => exact ⟨_, rfl, rfl⟩
      | wait | again => exact absurd rfl hne
    exact budget_of_goesOn h trivial (h.lighter_of_poll hp hopen)
  | drop s =>
    cases h with
    | drop => exact budget_drop hne
  | abort =>
    cases h with
    | late => exact absurd rfl hne
    | abort ht =>
      have hpos : 0 < taskWeight r.state.task := by
        cases hk : r.state.task with
        | pulling => exact Nat.one_pos
        | delivering => simp only [taskWeight]; omega
        | finished | aborted => simp [hk, Task.isOver] at ht
      have hnone : taskWeight .aborted = 0 := rfl
      simp only [budget, weight, task_withTask, reader_withTask, hnone]
      omega

/-- Every change costs something. -/
theorem changes_le (r : Replay) (es : List Event) : r.changes es ≤ r.budget := by
  induction es generalizing r with
  | nil => exact Nat.zero_le _
  | cons e es ih =>
    unfold changes
    cases hs : r.step e with
    | none => exact Nat.zero_le _
    | some w =>
      obtain ⟨q, a⟩ := w
      have hle := ih q
      dsimp only
      split
      · next heq => subst heq; omega
      · next hne =>
        have hlt := (effect_of_step hs).cheaper hne
        omega

theorem run_budget {r t : Replay} {es : List Event} {log : Log} (h : r.run es = some (t, log)) :
    t.budget ≤ r.budget := by
  refine run_keeps (P := fun q => q.budget ≤ r.budget) h ?_ (Nat.le_refl _)
  intro e _ q p a he hq
  by_cases hpq : p = q
  · rw [hpq]
    exact hq
  · exact Nat.le_trans (Nat.le_of_lt (he.cheaper hpq)) hq

/-! ## The end of a run -/

/-- Nothing that goes on changes anything any more. -/
def Still (r : Replay) : Prop :=
  ∀ e q a, e.GoesOn → r.step e = some (q, a) → q = r

theorem Still.no_effect {r q : Replay} {e : Event} {a : Option Poll} (h : r.Still) (hg : e.GoesOn)
    (he : Effect r e q a) (hlt : q.weight < r.weight) : False := by
  rw [h e q a hg he.step] at hlt
  exact Nat.lt_irrefl _ hlt

theorem Still.no_move {r q : Replay} {m : Move} {a : Option Poll} (h : r.Still)
    (he : Effect r (.task m) q a) : False :=
  h.no_effect (e := .task m) trivial he he.lighter_of_task

/-- Over a source that has an end, only a task that is over does nothing. -/
theorem over_of_still {source : Source} {r : Replay} (hr : r.Sound) (hf : Follows source r)
    (hends : source.Ends) (h : r.Still) : r.state.task.isOver = true := by
  cases ht : r.state.task with
  | pulling =>
    exfalso
    cases hw : r.state.wantsItem with
    | true =>
      obtain ⟨s, hs⟩ := ((wantsItem_iff _).1 hw).2
      obtain ⟨q, he⟩ := can_pull hf hends ht hs
      exact h.no_move he
    | false =>
      have hnobody : ∀ s, r.state.served s = false := by
        intro s
        cases hs : r.state.served s with
        | false => rfl
        | true => simp [(wantsItem_iff _).2 ⟨ht, s, hs⟩] at hw
      have he := Effect.quit ht hnobody
      exact h.no_move he
  | delivering c a b =>
    exfalso
    obtain ⟨u, hu⟩ := hr.busy c a b ht
    obtain ⟨e, q, x, hg, he, hlt⟩ := can_deliver hr hu
    exact h.no_effect hg he hlt
  | finished | aborted => rfl

/-- A reader that is there has then come to its end. -/
theorem ended_of_still {source : Source} {r : Replay} {s : Side} (hr : r.Sound)
    (hf : Follows source r) (hends : source.Ends) (h : r.Still)
    (hd : (r.state.reader s).dropped = false) : (r.state.reader s).ended = true := by
  cases he : (r.state.reader s).ended with
  | true => rfl
  | false =>
    obtain ⟨e, q, a, hg, hstep, hlt⟩ := can_go_on hr hf (.inl hends) hd he
    exact (h.no_effect hg hstep hlt).elim

theorem Effect.spared {r q : Replay} {e : Event} {a : Option Poll} (h : Effect r e q a)
    (he : e ≠ .abort) (hr : r.state.task ≠ .aborted) : q.state.task ≠ .aborted := by
  cases h with
  | quit | finish | take => nofun
  | skip | wait | again | late => exact hr
  | lose s c hc | pass s c hc => exact Task.passed_ne_aborted hc
  | tell | fail | close | cancel | drop =>
    rw [task_setReader]
    exact hr
  | abort => exact absurd rfl he

theorem run_spared {r t : Replay} {es : List Event} {log : Log} (h : r.run es = some (t, log))
    (hes : .abort ∉ es) (hr : r.state.task ≠ .aborted) : t.state.task ≠ .aborted := by
  refine run_keeps (P := fun q => q.state.task ≠ .aborted) h ?_ hr
  intro e hmem q p a he
  exact he.spared fun heq => hes (heq ▸ hmem)

/-- Whatever has happened, all can go on until nothing more goes on. -/
theorem exists_still (r : Replay) :
    ∃ es t log, (∀ e ∈ es, e.GoesOn) ∧ r.run es = some (t, log) ∧ t.Still := by
  generalize hw : r.budget = w
  induction w using Nat.strongRecOn generalizing r with
  | ind w ih =>
    by_cases hstill : r.Still
    · exact ⟨[], r, [], nofun, rfl, hstill⟩
    · simp only [Still, not_forall] at hstill
      obtain ⟨e, q, a, hg, hs, hne⟩ := hstill
      obtain ⟨es, t, log, hes, hrun, ht⟩ := ih q.budget (hw ▸ (effect_of_step hs).cheaper hne) q rfl
      exact ⟨e :: es, t, _, List.forall_mem_cons.2 ⟨hg, hes⟩, run_of_step hs hrun, ht⟩

/-! ## The promise to whoever reads -/

/-- What keeps a duplication going, whatever has happened to it so far. -/
structure Progressive (source : Source) (capacity : Nat) (events : List Event) (r : Replay)
    (log : Log) : Prop where
  /-- A task that can do nothing is over, or it waits for the source or for its readers. -/
  stands : r.taskStep = none ↔ r.state.isOver = true ∨ r.WaitsForSource ∨ r.WaitsForReaders
  /-- So no item is ready, or a reader that is there has its queue full. -/
  waits : r.taskStep = none → r.state.isOver = false →
    r.source.poll.1.isPending = true ∨
      ∃ s, (r.state.reader s).dropped = false ∧
        (r.state.reader s).queue.length = max capacity 1
  /-- A reader that holds the task up sets it going by going away. -/
  released : ∀ s, r.HeldUpBy s → (r.without s).taskStep ≠ none
  /-- With one reader gone, the other waits for nothing but the source. -/
  unblocked : ∀ s u, u ≠ s → (r.without s).settle.source.poll.1.isPending = false →
    ((r.without s).settle.state.poll u).1.isPending = false
  /-- What is reached of a source that goes silent is reached of every one that goes on after
  that silence. -/
  resumes : source.endless = true → ∀ more : Source,
    (start (source.followedBy more) capacity).run events =
      some (⟨r.source.followedBy more, r.state⟩, log)
  /-- Only so many events can change anything. -/
  limited : ∀ es, r.changes es ≤ 6 * source.items.length + 5
  /-- All can go on until nothing more goes on. -/
  rests : ∃ es t log, (∀ e ∈ es, e.GoesOn) ∧ r.run es = some (t, log) ∧ t.Still
  /-- Nothing more goes on only once the task has finished and every reader that is there has
  come to its end. -/
  finishes : .abort ∉ events → source.Ends → r.Still →
    r.state.task = .finished ∧
      ∀ s, (r.state.reader s).dropped = false → (r.state.reader s).ended = true

/-- The task of a duplication is never stuck: what it can wait for is the source or a reader
that is there, and whoever goes on comes to an end. -/
theorem duplication_progresses (source : Source) (capacity : Nat) (events : List Event)
    (r : Replay) (log : Log) (h : (start source capacity).run events = some (r, log)) :
    Progressive source capacity events r log where
  stands := standstill_iff (sound_of_run h) (within_of_run h)
  waits hstill running := by
    rcases waits_of_standstill (sound_of_run h) (within_of_run h) hstill running with
      hsource | hreaders
    · exact .inl hsource.silent
    · obtain ⟨s, c, hc⟩ := hreaders.holds
      have hup := hreaders.blocked s c hc
      exact .inr ⟨s, hup.there, hup.full.trans (capacity_of_run h)⟩
  released s hup := hup.released
  unblocked s u hsu hready := by
    obtain ⟨ms, hrun⟩ := run_settle (r.without s)
    have hdrop := effect_without r s
    have sound := hdrop.sound (sound_of_run h)
    have within := hdrop.within (within_of_run h)
    have hgone := (run_lasting hrun).2.1 s (by simp)
    exact not_pending_of_standstill (run_sound hrun sound) (run_within hrun within)
      (standstill_settle _) hsu hgone hready
  resumes hsilent more := run_resumed h hsilent more
  limited es := by
    have hle := changes_le r es
    have hrun := run_budget h
    rw [budget_start] at hrun
    exact Nat.le_trans hle hrun
  rests := exists_still r
  finishes hevents hends hstill := by
    have sound := sound_of_run h
    have follows := follows_of_run h
    have hover := over_of_still sound follows hends hstill
    have hspared : r.state.task ≠ .aborted := run_spared h hevents nofun
    refine ⟨?_, fun s hd => ended_of_still sound follows hends hstill hd⟩
    cases ht : r.state.task with
    | finished => rfl
    | aborted => exact absurd ht hspared
    | pulling | delivering => simp [ht, Task.isOver] at hover

/-- A reader that is too slow for a capacity of nothing, and goes away. -/
theorem duplication_progresses_past_slow_reader :
    ∃ source events r log,
      (start source 0).run events = some (r, log) ∧ r.HeldUpBy .second ∧ r.taskStep = none ∧
        (r.state.poll .first).1.isPending = true ∧ Progressive source 0 events r log :=
  have h := rfl
  ⟨⟨[.ok (.data [1]), .ok (.data [2]), .ok (.trailers [])], false⟩,
    [.task .pull, .task (.deliver .first), .task (.deliver .second), .poll .first, .task .pull,
      .task (.deliver .first), .poll .first],
    _, _, h, ⟨⟨_, rfl⟩, rfl, rfl⟩, rfl, rfl, duplication_progresses _ _ _ _ _ h⟩

end Replay

end Countersign
