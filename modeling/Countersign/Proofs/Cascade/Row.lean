import Mathlib.Logic.Function.Basic
import Countersign.Proofs.Body.Tasks
/-! Stages in a row: the first takes from a body that arrives, every other from the
first reader of the one before. `Moved` lists all that a task can do to such a row. -/

namespace Countersign

/-- Who asks for an item: the task of a stage asks what the stage takes from, and
whoever holds a reader asks that. -/
inductive Asker
  | task (i : Nat)
  | holder (i : Nat) (s : Side)
deriving DecidableEq, Repr

namespace Asker

/-- The reader of stage `i` that is asked. -/
def sideAt (i : Nat) : Asker → Option Side
  | task j => if j = i + 1 then some .first else none
  | holder j s => if j = i then some s else none

end Asker

/-- Answers, with those who asked. -/
abbrev Answers := List (Asker × Poll)

namespace Answers

/-- What somebody was answered, the answers left out that only told them to wait. -/
def heard (who : Asker) (log : Answers) : List Poll :=
  (log.filter fun a => a.1 = who && !a.2.isPending).map (·.2)

/-- The answers that the readers of stage `i` gave. -/
def ofStage (i : Nat) (log : Answers) : Replay.Log :=
  log.filterMap fun a => (a.1.sideAt i).map fun s => (s, a.2)

theorem heard_append (who : Asker) (log log' : Answers) :
    heard who (log ++ log') = heard who log ++ heard who log' := by
  simp [heard]

theorem ofStage_append (i : Nat) (log log' : Answers) :
    Answers.ofStage i (log ++ log') = Answers.ofStage i log ++ Answers.ofStage i log' := by
  simp [Answers.ofStage]

end Answers

namespace Plumbing

/-- What stage `i` of a row takes from. -/
def feeding (source : Source) : Nat → Body
  | 0 => .stream source
  | i + 1 => .reader i .first

/-- A row of `n` stages. -/
def row (source : Source) (state : Nat → Duplication) (n : Nat) : Plumbing :=
  (List.range n).map fun i => ⟨feeding source i, state i⟩

/-- Stage `i` comes into a state; if its task is over then, the reader it took from is
let go. -/
def install (state : Nat → Duplication) (i : Nat) (d : Duplication) (l : Nat) : Duplication :=
  if l = i then d
  else if l + 1 = i ∧ d.isOver = true then (state l).drop .first
  else state l

variable {source source' : Source} {state : Nat → Duplication} {n i : Nat}

@[simp] theorem length_row (source : Source) (state : Nat → Duplication) (n : Nat) :
    (row source state n).length = n := by simp [row]

theorem getElem?_row (source : Source) (state : Nat → Duplication) (n i : Nat) :
    (row source state n)[i]? = if i < n then some ⟨feeding source i, state i⟩ else none := by
  unfold row
  by_cases hi : i < n <;> simp [hi]

theorem row_congr {state' : Nat → Duplication}
    (h : ∀ l < n, feeding source l = feeding source' l ∧ state l = state' l) :
    row source state n = row source' state' n := by
  unfold row
  refine List.map_congr_left ?_
  intro l hl
  obtain ⟨hf, hs⟩ := h l (List.mem_range.1 hl)
  rw [hf, hs]

theorem update_row (source : Source) (state : Nat → Duplication) (n i : Nat)
    (f : Duplication → Duplication) :
    (row source state n).update i f = row source (Function.update state i (f (state i))) n := by
  refine List.ext_getElem? ?_
  intro l
  unfold update
  rw [List.getElem?_modify, getElem?_row, getElem?_row]
  by_cases hl : l < n <;> by_cases hi : i = l <;> simp_all [eq_comm]

theorem set_row (hi : i < n) (hs : i ≠ 0 → source' = source) (d : Duplication) :
    (row source state n).set i ⟨feeding source' i, d⟩ =
      row source' (Function.update state i d) n := by
  refine List.ext_getElem? ?_
  intro l
  rw [List.getElem?_set, getElem?_row, getElem?_row]
  by_cases hl : i = l
  · subst hl
    simp [hi]
  · have hf : feeding source l = feeding source' l := by
      cases l with
      | zero => rw [hs fun h => hl h]
      | succ l => rfl
    simp [hl, Ne.symm hl, hf]

theorem put_row (state : Nat → Duplication) (hi : i < n) (hs : i ≠ 0 → source' = source)
    (d : Duplication) :
    (row source state n).put i ⟨feeding source' i, d⟩ = row source' (install state i d) n := by
  unfold put
  rw [set_row hi hs]
  cases ho : d.isOver with
  | false =>
    refine row_congr ?_
    intro l _
    simp [install, ho, Function.update_apply]
  | true =>
    cases i with
    | zero =>
      refine row_congr ?_
      intro l _
      simp [install, Function.update_apply]
    | succ j =>
      simp only [if_true, feeding, release, update_row]
      refine row_congr ?_
      intro l _
      refine ⟨rfl, ?_⟩
      by_cases hj : l = j <;> by_cases hl : l = j + 1 <;> simp_all [install]

theorem poll_row (source : Source) (state : Nat → Duplication) (hi : i < n) (s : Side) :
    (row source state n).poll (.reader i s) =
      (((state i).poll s).1, .reader i s,
        row source (Function.update state i ((state i).poll s).2) n) := by
  have stage : (row source state n)[i]? = some ⟨feeding source i, state i⟩ := by
    rw [getElem?_row, if_pos hi]
  simp only [poll, stage, update_row]

theorem abort_row (source : Source) (state : Nat → Duplication) (n i : Nat) :
    (row source state n).abort i =
      if i < n ∧ (state i).isOver = false then row source (install state i (state i).abort) n
      else row source state n := by
  unfold abort
  rw [getElem?_row]
  by_cases hi : i < n
  · cases ho : (state i).isOver with
    | true => simp [hi, ho]
    | false => simpa [hi, ho] using put_row _ hi (fun _ => rfl) _
  · simp [hi]

/-- Put a new stage at the end of a row. -/
theorem addStage_row {capacity : Nat} (hn : state n = .start capacity) :
    (row source state n).addStage (feeding source n) capacity = row source state (n + 1) := by
  simp [addStage, row, List.range_succ, hn]

/-- Who hears what when a task makes a move. -/
def asked (p : Plumbing) (i : Nat) : Move → Answers
  | .pull => p[i]?.toList.map fun g => (.task i, (p.poll g.source).1)
  | _ => []

/-- What the task of stage `i` can do: end, pass its chunk on, or take from the body or
from the stage before. -/
inductive Moved (source : Source) (state : Nat → Duplication) :
    Nat → Move → Source → (Nat → Duplication) → Answers → Prop
  | quit (i : Nat) (d : Duplication) (h : (state i).quit = some d) :
      Moved source state i .quit source (install state i d) []
  | deliver (i : Nat) (u : Side) (d : Duplication) (h : (state i).deliver u = some d) :
      Moved source state i (.deliver u) source (install state i d) []
  | supply (d : Duplication) (h : (state 0).pull source.poll.1 = some d) :
      Moved source state 0 .pull source.poll.2 (install state 0 d) [(.task 0, source.poll.1)]
  | hand (j : Nat) (d : Duplication)
      (h : (state (j + 1)).pull ((state j).poll .first).1 = some d) :
      Moved source state (j + 1) .pull source
        (install (Function.update state j ((state j).poll .first).2) (j + 1) d)
        [(.task (j + 1), ((state j).poll .first).1)]

/-- Whatever a task does to a row is one of the moves, and every move can be made. -/
theorem move_row {m : Move} {p : Plumbing} {log : Answers} (hi : i < n) :
    (row source state n).move i m = some p ∧ (row source state n).asked i m = log ↔
      ∃ source' state', Moved source state i m source' state' log ∧ p = row source' state' n := by
  have stage : (row source state n)[i]? = some ⟨feeding source i, state i⟩ := by
    rw [getElem?_row, if_pos hi]
  constructor
  · rintro ⟨hm, rfl⟩
    unfold move at hm
    rw [stage] at hm
    cases m with
    | quit =>
      obtain ⟨d, hd, rfl⟩ := Option.map_eq_some_iff.1 hm
      exact ⟨_, _, .quit i d hd, put_row _ hi (fun _ => rfl) d⟩
    | deliver u =>
      obtain ⟨d, hd, rfl⟩ := Option.map_eq_some_iff.1 hm
      exact ⟨_, _, .deliver i u d hd, put_row _ hi (fun _ => rfl) d⟩
    | pull =>
      replace hm : (row source state n).pull i ⟨feeding source i, state i⟩ = some p := hm
      rw [pull_eq] at hm
      obtain ⟨d, hd, rfl⟩ := Option.map_eq_some_iff.1 hm
      cases i with
      | zero =>
        refine ⟨source.poll.2, _, ?_, put_row _ hi (fun h => absurd rfl h) d⟩
        simpa [asked, stage, feeding, poll] using Moved.supply d hd
      | succ j =>
        have hj : j < n := by omega
        have hp := poll_row source state hj .first
        simp only [feeding, hp] at hd
        have hput := put_row (Function.update state j ((state j).poll .first).2) hi
          (fun _ => (rfl : source = source)) d
        have hlog : (row source state n).asked (j + 1) .pull =
            [(.task (j + 1), ((state j).poll .first).1)] := by simp [asked, stage, feeding, hp]
        rw [hlog]
        exact ⟨_, _, .hand j d hd, by simpa only [feeding, hp] using hput⟩
  · rintro ⟨source', state', h, rfl⟩
    unfold move
    rw [stage]
    cases h with
    | quit _ d hd => exact ⟨by simp [hd, put_row _ hi], rfl⟩
    | deliver _ u d hd => exact ⟨by simp [hd, put_row _ hi], rfl⟩
    | supply d hd =>
      refine ⟨?_, by simp [asked, stage, feeding, poll]⟩
      refine (pull_eq ..).trans ?_
      have hp : (row source state n).poll (.stream source) =
        (source.poll.1, .stream source.poll.2, row source state n) := rfl
      simp only [feeding, hp, hd, Option.map_some]
      exact congrArg some (put_row _ hi (fun h => absurd rfl h) d)
    | hand j d hd =>
      have hj : j < n := by omega
      have hp := poll_row source state hj .first
      refine ⟨?_, by simp [asked, stage, feeding, hp]⟩
      refine (pull_eq ..).trans ?_
      simp only [feeding, hp, hd, Option.map_some]
      exact congrArg some (put_row _ hi (fun _ => rfl) d)

end Plumbing

end Countersign
