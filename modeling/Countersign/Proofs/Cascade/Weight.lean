import Mathlib.Algebra.BigOperators.Group.Finset.Basic
import Mathlib.Algebra.Order.BigOperators.Group.Finset
import Countersign.Proofs.Cascade.Run
import Countersign.Proofs.Duplication.Progress
/-! What is still on its way in a row of stages, as a number. A chunk weighs the more the
further it has to go: more in the first reader of a stage than the two copies that the next
stage makes of it. Every move of a task makes the row lighter. -/

namespace Countersign

open Plumbing

namespace Duplication

variable {d d' : Duplication} {s : Side} {p : Poll} {q : Nat}

theorem reader_poll {u : Side} (h : u ≠ s) : (d.poll s).2.reader u = d.reader u := by
  obtain ⟨x, hx, -⟩ := poll_cases d s
  rw [hx, reader_setReader, if_neg h]

/-- Every answer but a mere wait leaves less to a reader that has not come to its end. -/
theorem poll_lighter (he : (d.reader s).ended = false) (hp : (d.poll s).1.isPending = false) :
    Replay.readerWeight ((d.poll s).2.reader s) < Replay.readerWeight (d.reader s) := by
  rw [poll_open he] at hp ⊢
  split at hp
  · next b rest hq => simp [Replay.readerWeight, hq]
  · next e rest hq =>
    simp only [reader_setReader, if_true, Replay.readerWeight, hq, he, List.length_cons]
    omega
  · next hq =>
    split at hp
    · simp [Replay.readerWeight, hq, he]
    · simp [Replay.readerWeight, hq, he]
    · cases hp

theorem poll_le (d : Duplication) (s : Side) :
    Replay.readerWeight ((d.poll s).2.reader s) ≤ Replay.readerWeight (d.reader s) := by
  cases he : (d.reader s).ended with
  | true => simp [poll, he]
  | false =>
    cases hp : (d.poll s).1.isPending with
    | false => exact Nat.le_of_lt (poll_lighter he hp)
    | true =>
      rw [poll_open he] at hp ⊢
      split at hp
      · cases hp
      · cases hp
      · split at hp
        · cases hp
        · cases hp
        · exact Nat.le_refl _

/-- A reader that gives an item has not come to its end. -/
theorem ended_of_item {x : Item} (h : (d.poll s).1 = .item x) : (d.reader s).ended = false := by
  cases he : (d.reader s).ended with
  | false => rfl
  | true => simp [poll, he] at h

/-- What is on its way at one stage, a chunk in the first reader counted `q` times. -/
def taskLoad (q : Nat) : Task → Nat
  | .pulling => 1
  | .delivering _ a b => 2 + (q + 1) * a.toNat + 2 * b.toNat
  | .finished | .aborted => 0

def load (q : Nat) (d : Duplication) : Nat :=
  taskLoad q d.task + q * Replay.readerWeight (d.reader .first) +
    Replay.readerWeight (d.reader .second)

theorem load_quit (h : d.quit = some d') : load q d' < load q d := by
  obtain ⟨ht, rfl⟩ := quit_cases h
  simp [load, taskLoad, ht]

/-- Taking an item costs less than the item weighs where it comes from. -/
theorem load_pull (h : d.pull p = some d') : load q d' < load q d + (q + 5) := by
  obtain ⟨ht, ⟨-, rfl⟩ | ⟨-, rfl⟩ | ⟨c, -, rfl⟩⟩ := pull_cases h
  · simp only [load, taskLoad, ht, task_withTask, reader_withTask]
    omega
  · omega
  · have hfirst : (q + 1) * (d.served .first).toNat ≤ q + 1 := by
      simpa using Nat.mul_le_mul_left (q + 1) (Bool.toNat_le (d.served .first))
    have hsecond := Bool.toNat_le (d.served .second)
    simp only [load, taskLoad, ht, task_withTask, reader_withTask]
    omega

theorem load_pull_done (h : d.pull .done = some d') : load q d' < load q d := by
  obtain ⟨ht, ⟨-, rfl⟩ | ⟨⟨ts, hp⟩, -⟩ | ⟨c, hp, -⟩⟩ := pull_cases h
  · simp [load, taskLoad, ht]
  · cases hp
  · cases hp

theorem taskLoad_passed {t : Task} {c : Chunk} (h : t.held s = [c]) :
    taskLoad q (t.passed s) + (if s = .first then q + 1 else 2) ≤ taskLoad q t := by
  cases t with
  | delivering c' a b =>
    cases s <;> cases a <;> cases b <;> cases c' <;>
      simp_all [Task.held, Task.passed, due, taskLoad] <;> omega
  | _ => simp [Task.held] at h

/-- A chunk that is passed on weighs less in a queue than in the hands of the task. -/
theorem load_deliver (h : d.deliver s = some d') : load q d' < load q d := by
  obtain ⟨c, hc, ⟨-, rfl⟩ | ⟨-, -, rfl⟩⟩ := deliver_cases h
  · have ht := taskLoad_passed (q := q) hc
    simp only [load, task_withTask, reader_withTask, reader_stopServing]
    split at ht <;> omega
  · have ht := taskLoad_passed (q := q) hc
    cases s <;>
      simp only [load, task_withTask, reader_withTask, reader_setReader, Replay.readerWeight,
        List.length_append, List.length_singleton, if_true, if_false, reduceCtorEq,
        Nat.mul_add] at ht ⊢ <;>
      omega

theorem load_drop (d : Duplication) : load q (d.drop .first) ≤ load q d := by
  have hr : Replay.readerWeight ((d.drop .first).reader .first) ≤
      Replay.readerWeight (d.reader .first) := by
    simp [drop, Replay.readerWeight]
  have hq := Nat.mul_le_mul_left q hr
  have hs : (d.drop .first).reader .second = d.reader .second := rfl
  simp only [load, task_drop, hs]
  omega

theorem load_poll_first (d : Duplication) (q : Nat) :
    load q (d.poll .first).2 + (if (d.poll .first).1.item?.isSome then q else 0) ≤ load q d := by
  have hs : (d.poll .first).2.reader .second = d.reader .second := reader_poll (by nofun)
  simp only [load, task_poll, hs]
  cases hp : (d.poll .first).1 with
  | item x =>
    have hlt := poll_lighter (ended_of_item hp) (by rw [hp]; rfl)
    have hq := Nat.mul_le_mul_left q hlt
    rw [Nat.mul_succ] at hq
    simp only [Poll.item?, Option.isSome_some, if_true]
    omega
  | done | pending =>
    have hq := Nat.mul_le_mul_left q (poll_le d .first)
    simp only [Poll.item?, Option.isSome_none, Bool.false_eq_true, if_false]
    omega

theorem load_poll (hq : 0 < q) (he : (d.reader s).ended = false)
    (hp : (d.poll s).1.isPending = false) : load q (d.poll s).2 < load q d := by
  have hlt := poll_lighter he hp
  cases s with
  | first =>
    have hs : (d.poll .first).2.reader .second = d.reader .second := reader_poll (by nofun)
    have hmul := Nat.mul_lt_mul_of_pos_left hlt hq
    simp only [load, task_poll, hs]
    omega
  | second =>
    have hf : (d.poll .second).2.reader .first = d.reader .first := reader_poll (by nofun)
    simp only [load, task_poll, hf]
    omega

end Duplication

namespace Plumbing

open Duplication Finset

variable {source source' : Source} {state state' : Nat → Duplication} {n i : Nat}

/-- How often a chunk counts in the first reader of stage `l` of `n`. -/
def price (n l : Nat) : Nat := 1 + 5 * (n - 1 - l)

/-- What is on its way in a row of `n` stages. -/
def weight (source : Source) (state : Nat → Duplication) (n : Nat) : Nat :=
  (5 * n + 1) * source.items.length + ∑ l ∈ range n, load (price n l) (state l)

theorem sum_update {f : Nat → Nat} {g : Nat → Nat} (hi : i < n) (h : ∀ l, l ≠ i → g l = f l) :
    ∑ l ∈ range n, g l + f i = ∑ l ∈ range n, f l + g i := by
  have hmem := mem_range.2 hi
  have hrest : ∑ l ∈ (range n).erase i, g l = ∑ l ∈ (range n).erase i, f l :=
    sum_congr rfl fun l hl => h l (ne_of_mem_erase hl)
  rw [← add_sum_erase _ g hmem, ← add_sum_erase _ f hmem, hrest]
  omega

/-- One stage in another state weighs what it weighs now in place of what it did. -/
theorem weight_update (source : Source) (state : Nat → Duplication) (hi : i < n)
    (d : Duplication) :
    weight source (Function.update state i d) n + load (price n i) (state i) =
      weight source state n + load (price n i) d := by
  have h := sum_update (f := fun l => load (price n l) (state l))
    (g := fun l => load (price n l) (Function.update state i d l)) hi fun l hl => by
      rw [Function.update_of_ne hl]
  simp only [Function.update_self] at h
  simp only [weight]
  omega

theorem weight_install (source : Source) (state : Nat → Duplication) (hi : i < n)
    (d : Duplication) :
    weight source (install state i d) n + load (price n i) (state i) ≤
      weight source state n + load (price n i) d := by
  have hle : ∑ l ∈ range n, load (price n l) (install state i d l) ≤
      ∑ l ∈ range n, load (price n l) (Function.update state i d l) := by
    refine sum_le_sum fun l _ => ?_
    by_cases hl : l = i
    · subst hl
      rw [install_self, Function.update_self]
    · rw [Function.update_of_ne hl, install, if_neg hl]
      split
      · exact load_drop _
      · exact Nat.le_refl _
  have h := weight_update source state hi d
  simp only [weight] at h ⊢
  omega

theorem length_poll_items (s : Source) :
    s.poll.2.items.length + (if s.poll.1.item?.isSome then 1 else 0) = s.items.length := by
  obtain ⟨items, endless⟩ := s
  cases items with
  | nil => cases endless <;> rfl
  | cons x rest => rfl

/-- Every move makes a row lighter. -/
theorem Moved.lighter {m : Move} {log : Answers}
    (h : Moved source state i m source' state' log) (hi : i < n) :
    weight source' state' n < weight source state n := by
  cases h with
  | quit _ d h =>
    have hw := weight_install source state hi d
    have hload := load_quit (q := price n i) h
    omega
  | deliver _ u d h =>
    have hw := weight_install source state hi d
    have hload := load_deliver (q := price n i) h
    omega
  | supply d h =>
    have hw := weight_install source state hi d
    have hitems := length_poll_items source
    simp only [weight] at hw ⊢
    cases hp : source.poll.1 with
    | pending =>
      rw [hp] at h
      cases isPending_of_pull h
    | done =>
      rw [hp] at h hitems
      have hload := load_pull_done (q := price n 0) h
      simp only [Poll.item?, Option.isSome_none, Bool.false_eq_true, if_false,
        Nat.add_zero] at hitems
      rw [hitems]
      omega
    | item x =>
      rw [hp] at h hitems
      have hload := load_pull (q := price n 0) h
      simp only [Poll.item?, Option.isSome_some, if_true] at hitems
      rw [← hitems, Nat.mul_add]
      simp only [price] at hload hw ⊢
      omega
  | hand j d h =>
    have hw := weight_install source (Function.update state j ((state j).poll .first).2) hi d
    rw [Function.update_of_ne (by omega)] at hw
    have hj : j < n := by omega
    have hasked := weight_update source state hj ((state j).poll .first).2
    have hpoll := load_poll_first (state j) (price n j)
    have hprice : price n j = price n (j + 1) + 5 := by
      simp only [price]
      omega
    cases hp : ((state j).poll .first).1 with
    | pending =>
      rw [hp] at h
      cases isPending_of_pull h
    | done =>
      rw [hp] at h
      have hload := load_pull_done (q := price n (j + 1)) h
      omega
    | item x =>
      rw [hp] at h hpoll
      have hload := load_pull (q := price n (j + 1)) h
      simp only [Poll.item?, Option.isSome_some, if_true] at hpoll
      omega

/-- So does every answer of a reader but a mere wait, up to its end. -/
theorem weight_poll {s : Side} (hi : i < n) (he : ((state i).reader s).ended = false)
    (hp : ((state i).poll s).1.isPending = false) :
    weight source (Function.update state i ((state i).poll s).2) n < weight source state n := by
  have hw := weight_update source state hi ((state i).poll s).2
  have hload := load_poll (q := price n i) (by simp only [price]; omega) he hp
  omega

end Plumbing

end Countersign
