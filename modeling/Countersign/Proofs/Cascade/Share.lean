import Countersign.Proofs.Cascade.Row
/-! A body that is duplicated again and again, by events in any order. Every stage, seen
alone, makes a run of its own: what its task is answered is the front of its source. -/

namespace Countersign

open Plumbing

/-- The item that an answer brings. -/
def Poll.item? : Poll → Option Item
  | .item x => some x
  | _ => none

namespace Source

/-- A source that gives what some answers bring and then goes on as `rest`. -/
def before (given : List Poll) (rest : Source) : Source :=
  ⟨given.filterMap Poll.item? ++ rest.items, rest.endless⟩

@[simp] theorem before_nil (rest : Source) : rest.before [] = rest := rfl

theorem before_append (given given' : List Poll) (rest : Source) :
    rest.before (given ++ given') = (rest.before given').before given := by
  simp [before]

/-- What a source answers, unless it tells to wait, stood at its front. -/
theorem before_poll (s : Source) : s.poll.2.before [s.poll.1] = s := by
  obtain ⟨items, endless⟩ := s
  cases items with
  | nil => cases endless <;> rfl
  | cons x rest => rfl

theorem empty_of_poll_done {s : Source} (h : s.poll.1 = .done) : s.poll.2 = empty := by
  obtain ⟨items, endless⟩ := s
  cases items with
  | nil => cases endless <;> first | rfl | cases h
  | cons x rest => cases h

end Source

/-- A stage comes from state `d` into state `d'` while its task is answered `given` and
its readers give the answers `log`; it is aborted on the way only if `cut`. -/
def Share (given : List Poll) (d d' : Duplication) (log : Replay.Log) (cut : Prop) : Prop :=
  ∀ rest : Source, (.done ∈ given → rest = .empty) →
    ∃ es, (.abort ∈ es → cut) ∧
      (⟨rest.before given, d⟩ : Replay).run es = some (⟨rest, d'⟩, log)

namespace Share

variable {given given' : List Poll} {d d' d'' : Duplication} {log log' : Replay.Log}
  {cut cut' : Prop}

theorem refl (d : Duplication) (cut : Prop) : Share [] d d [] cut :=
  fun _ _ => ⟨[], nofun, rfl⟩

theorem mono (h : Share given d d' log cut) (hcut : cut → cut') : Share given d d' log cut' := by
  intro rest hrest
  obtain ⟨es, habort, hrun⟩ := h rest hrest
  exact ⟨es, hcut ∘ habort, hrun⟩

/-- A task that was answered with the end is answered nothing more. -/
theorem trans (h : Share given d d' log cut) (h' : Share given' d' d'' log' cut)
    (hend : .done ∈ given → given' = []) :
    Share (given ++ given') d d'' (log ++ log') cut := by
  intro rest hrest
  obtain ⟨fs, hfs, hlast⟩ := h' rest fun hd => hrest (List.mem_append_right _ hd)
  obtain ⟨es, hes, hfirst⟩ := h (rest.before given') fun hd => by
    rw [hend hd, Source.before_nil]
    exact hrest (List.mem_append_left _ hd)
  refine ⟨es ++ fs, ?_, ?_⟩
  · intro ha
    exact (List.mem_append.1 ha).elim hes hfs
  · rw [Source.before_append]
    exact Replay.run_join hfirst hlast

theorem of_step {e : Replay.Event} {a : Option Poll}
    (h : ∀ rest : Source, (⟨rest, d⟩ : Replay).step e = some (⟨rest, d'⟩, a))
    (hcut : e = .abort → cut) : Share [] d d' (Replay.entry e a) cut := by
  intro rest _
  refine ⟨[e], fun ha => hcut (List.mem_singleton.1 ha).symm, ?_⟩
  have hrun := Replay.run_of_step (h rest) (rfl : (⟨rest, d'⟩ : Replay).run [] = some (_, []))
  rwa [List.append_nil] at hrun

theorem quit (h : d.quit = some d') (cut : Prop) : Share [] d d' [] cut :=
  of_step (e := .task .quit) (a := none)
    (fun rest => by simp [Replay.step, Replay.move, h]) nofun

theorem deliver {s : Side} (h : d.deliver s = some d') (cut : Prop) : Share [] d d' [] cut :=
  of_step (e := .task (.deliver s)) (a := none)
    (fun rest => by simp [Replay.step, Replay.move, h]) nofun

theorem poll {s : Side} (h : (d.reader s).dropped = false) (cut : Prop) :
    Share [] d (d.poll s).2 [(s, (d.poll s).1)] cut :=
  of_step (e := .poll s) (a := some (d.poll s).1)
    (fun rest => by simp [Replay.step, h]) nofun

theorem drop (d : Duplication) (s : Side) (cut : Prop) : Share [] d (d.drop s) [] cut :=
  of_step (e := .drop s) (a := none) (fun _ => rfl) nofun

theorem abort (d : Duplication) (hcut : cut) : Share [] d d.abort [] cut :=
  of_step (e := .abort) (a := none) (fun _ => rfl) fun _ => hcut

theorem pull {p : Poll} (h : d.pull p = some d') (cut : Prop) : Share [p] d d' [] cut := by
  intro rest hrest
  refine ⟨[.task .pull], nofun, ?_⟩
  have front : (rest.before [p]).poll = (p, rest) := by
    cases p with
    | item x => rfl
    | done =>
      rw [hrest (List.mem_singleton.2 rfl)]
      rfl
    | pending => cases Duplication.isPending_of_pull h
  have hmove : (⟨rest.before [p], d⟩ : Replay).step (.task .pull) = some (⟨rest, d'⟩, none) := by
    simp [Replay.step, Replay.move, front, h]
  exact Replay.run_of_step hmove rfl

/-- A task that is over stays so. -/
theorem isOver (h : Share given d d' log cut) (ho : d.isOver = true) : d'.isOver = true := by
  obtain ⟨es, -, hrun⟩ := h .empty fun _ => rfl
  rw [Duplication.isOver_eq] at ho ⊢
  obtain ⟨hkeeps, -⟩ := Replay.run_lasting hrun
  exact (hkeeps ho) ▸ ho

end Share

/-- The stages of a row come from one state into another; `log` holds all answers given
on the way, and `cut i` whether stage `i` may have been aborted. -/
structure Onward (source : Source) (state : Nat → Duplication) (log : Answers)
    (source' : Source) (state' : Nat → Duplication) (cut : Nat → Prop) : Prop where
  supply : source = source'.before (log.heard (.task 0))
  spent : .done ∈ log.heard (.task 0) → source' = .empty
  share : ∀ i, Share (log.heard (.task i)) (state i) (state' i) (log.ofStage i) (cut i)
  idle : ∀ i, (state i).isOver = true → log.heard (.task i) = []
  closed : ∀ i, .done ∈ log.heard (.task i) → (state' i).isOver = true

namespace Onward

variable {source source' source'' : Source} {state state' state'' : Nat → Duplication}
  {log log' : Answers} {cut cut' : Nat → Prop}

/-- No task is answered. -/
theorem of_shares (hlog : ∀ i, log.heard (.task i) = [])
    (h : ∀ i, Share [] (state i) (state' i) (log.ofStage i) (cut i)) :
    Onward source state log source state' cut where
  supply := by rw [hlog]; rfl
  spent hd := by simp [hlog] at hd
  share i := by rw [hlog]; exact h i
  idle i _ := hlog i
  closed i hd := by simp [hlog] at hd

/-- No task is answered, and only stage `i` has a part in it. -/
theorem of_update {i : Nat} {d : Duplication} (hlog : ∀ l, log.heard (.task l) = [])
    (h : Share [] (state i) d (log.ofStage i) (cut i)) (hothers : ∀ l ≠ i, log.ofStage l = []) :
    Onward source state log source (Function.update state i d) cut := by
  refine of_shares hlog ?_
  intro l
  by_cases hl : l = i
  · subst hl
    rwa [Function.update_self]
  · rw [Function.update_of_ne hl, hothers l hl]
    exact .refl _ _

theorem refl (source : Source) (state : Nat → Duplication) (cut : Nat → Prop) :
    Onward source state [] source state cut :=
  of_shares (fun _ => rfl) fun _ => .refl _ _

theorem mono (h : Onward source state log source' state' cut) (hcut : ∀ i, cut i → cut' i) :
    Onward source state log source' state' cut' :=
  { h with share := fun i => (h.share i).mono (hcut i) }

theorem trans (h : Onward source state log source' state' cut)
    (h' : Onward source' state' log' source'' state'' cut) :
    Onward source state (log ++ log') source'' state'' cut := by
  have last (i : Nat) (hd : .done ∈ log.heard (.task i)) : log'.heard (.task i) = [] :=
    h'.idle i (h.closed i hd)
  refine ⟨?_, ?_, ?_, ?_, ?_⟩
  · rw [Answers.heard_append, Source.before_append, ← h'.supply, ← h.supply]
  · rw [Answers.heard_append]
    intro hd
    rcases List.mem_append.1 hd with hd | hd
    · have hsupply := h'.supply
      rw [last 0 hd, h.spent hd] at hsupply
      exact hsupply.symm
    · exact h'.spent hd
  · intro i
    rw [Answers.heard_append, Answers.ofStage_append]
    exact (h.share i).trans (h'.share i) (last i)
  · intro i ho
    rw [Answers.heard_append, h.idle i ho, h'.idle i ((h.share i).isOver ho)]
    rfl
  · intro i hd
    rw [Answers.heard_append] at hd
    rcases List.mem_append.1 hd with hd | hd
    · exact (h'.share i).isOver (h.closed i hd)
    · exact h'.closed i hd

end Onward

section Moves

variable {source source' : Source} {state state' : Nat → Duplication} {i l : Nat}

/-- A stage that another one comes to a state beside is left alone, or loses the reader
that the other took from. -/
theorem share_install (state : Nat → Duplication) (hl : l ≠ i) (d : Duplication) (cut : Prop) :
    Share [] (state l) (install state i d l) [] cut := by
  unfold install
  rw [if_neg hl]
  split
  · exact .drop _ _ _
  · exact .refl _ _

@[simp] theorem install_self (state : Nat → Duplication) (i : Nat) (d : Duplication) :
    install state i d i = d := if_pos rfl

/-- What the one task that asked is told, and nobody else. -/
theorem heard_task {j : Nat} {p : Poll} (hp : p.isPending = false) (i : Nat) :
    Answers.heard (.task i) [(.task j, p)] = if i = j then [p] else [] := by
  by_cases hi : i = j
  · subst hi
    simp [Answers.heard, hp]
  · simp [Answers.heard, hi, Ne.symm hi]

theorem ofStage_task (j : Nat) (p : Poll) (i : Nat) :
    Answers.ofStage i [(.task j, p)] = if j = i + 1 then [(.first, p)] else [] := by
  by_cases hj : j = i + 1 <;> simp [Answers.ofStage, Asker.sideAt, hj]

/-- A task that makes a move is not over. -/
theorem Plumbing.Moved.running {m : Move} {log : Answers}
    (h : Moved source state i m source' state' log) : (state i).isOver = false := by
  cases h with
  | quit _ d h => exact Duplication.running_of_quit h
  | deliver _ u d h => exact Duplication.running_of_deliver h
  | supply d h => exact Duplication.running_of_pull h
  | hand j d h => exact Duplication.running_of_pull h

/-- A reader that the next stage takes from is let go when the task there is over. -/
def Tied (state : Nat → Duplication) (l : Nat) : Prop :=
  ((state l).reader .first).dropped = (state (l + 1)).isOver

/-- Only a task that is not over was answered. -/
theorem heard_idle {p : Poll} (hp : p.isPending = false) (ho : (state i).isOver = false)
    (hl : (state l).isOver = true) : Answers.heard (.task l) [(.task i, p)] = [] := by
  rw [heard_task hp, if_neg]
  rintro rfl
  simp [ho] at hl

/-- A task that takes the end is over with it. -/
theorem over_of_heard_done {p : Poll} {d d' : Duplication} (h : d.pull p = some d')
    (hd : .done ∈ Answers.heard (.task l) [(.task i, p)]) :
    (install state i d' l).isOver = true := by
  rw [heard_task (Duplication.isPending_of_pull h)] at hd
  split at hd
  · subst l
    rw [← List.mem_singleton.1 hd] at h
    rw [install_self]
    exact Duplication.isOver_of_pull_done h
  · simp at hd

theorem onward_install {d : Duplication} {cut : Nat → Prop}
    (h : Share [] (state i) d [] (cut i)) :
    Onward source state [] source (install state i d) cut := by
  refine .of_shares (fun _ => rfl) ?_
  intro l
  by_cases hl : l = i
  · subst hl
    rw [install_self]
    exact h
  · exact share_install _ hl d _

/-- A move carries a row on, if the reader that is asked is there. -/
theorem Plumbing.Moved.onward {m : Move} {log : Answers}
    (h : Moved source state i m source' state' log) (htied : ∀ l, i = l + 1 → Tied state l)
    (cut : Nat → Prop) : Onward source state log source' state' cut := by
  have running := h.running
  cases h with
  | quit _ d h => exact onward_install (.quit h _)
  | deliver _ u d h => exact onward_install (.deliver h _)
  | supply d h =>
    have hp := Duplication.isPending_of_pull h
    refine ⟨?_, ?_, ?_, fun l ho => heard_idle hp running ho, fun l => over_of_heard_done h⟩
    · rw [heard_task hp, if_pos rfl, Source.before_poll]
    · rw [heard_task hp, if_pos rfl]
      intro hd
      exact Source.empty_of_poll_done (List.mem_singleton.1 hd).symm
    · intro l
      rw [heard_task hp, ofStage_task, if_neg l.succ_ne_zero.symm]
      split
      · subst l
        rw [install_self]
        exact .pull h _
      · next hl => exact share_install _ hl d _
  | hand j d h =>
    have hp := Duplication.isPending_of_pull h
    have there : ((state j).reader .first).dropped = false := (htied j rfl).trans running
    refine ⟨?_, ?_, ?_, fun l ho => heard_idle hp running ho, fun l => over_of_heard_done h⟩
    · rw [heard_task hp, if_neg j.succ_ne_zero.symm, Source.before_nil]
    · rw [heard_task hp, if_neg j.succ_ne_zero.symm]
      nofun
    · intro l
      rw [heard_task hp, ofStage_task]
      by_cases hl : l = j + 1
      · subst hl
        rw [if_pos rfl, if_neg (by omega), install_self]
        exact .pull h _
      · rw [if_neg hl]
        have hdrop := share_install (Function.update state j ((state j).poll .first).2) hl d (cut l)
        -- the stage that is asked gives its answer first and may be let go then
        by_cases hj : l = j
        · subst hj
          rw [if_pos rfl]
          rw [Function.update_self] at hdrop
          exact (Share.poll there _).trans hdrop nofun
        · rw [Function.update_of_ne hj] at hdrop
          rw [if_neg (by omega)]
          exact hdrop

end Moves

end Countersign
