import Mathlib.Data.List.Basic
import Countersign.Text.Basic
/-! First occurrences: the members of a list without repetition, in the order in which each
of them first stands there. -/

namespace Countersign.Text

variable {xs ys : List Text} {x : Text}

/-- `ys` are the members of `xs` in the order of their first occurrence. -/
structure Firsts (xs ys : List Text) : Prop where
  mem_iff : ∀ x, x ∈ ys ↔ x ∈ xs
  ordered : ys.Pairwise fun x y => xs.idxOf x < xs.idxOf y

theorem Firsts.nodup (h : Firsts xs ys) : ys.Nodup := by
  refine h.ordered.imp ?_
  rintro x y hlt rfl
  exact Nat.lt_irrefl _ hlt

theorem firsts_nil : Firsts [] [] := ⟨fun _ => .rfl, .nil⟩

/-- A member that comes again changes nothing, and a new one comes last. -/
theorem Firsts.concat (h : Firsts xs ys) (x : Text) :
    Firsts (xs ++ [x]) (if x ∈ ys then ys else ys ++ [x]) := by
  have hbefore : ∀ y ∈ ys, (xs ++ [x]).idxOf y = xs.idxOf y := fun y hy =>
    List.idxOf_append_of_mem ((h.mem_iff y).1 hy)
  have hordered : ys.Pairwise fun y z => (xs ++ [x]).idxOf y < (xs ++ [x]).idxOf z := by
    refine h.ordered.imp_of_mem fun hy hz hlt => ?_
    rwa [hbefore _ hy, hbefore _ hz]
  split
  · next hx =>
    refine ⟨fun y => ?_, hordered⟩
    rw [h.mem_iff, List.mem_append, List.mem_singleton]
    exact ⟨.inl, fun hy => hy.elim id fun e => e ▸ (h.mem_iff x).1 hx⟩
  · next hx =>
    have hnew : x ∉ xs := fun hmem => hx ((h.mem_iff x).2 hmem)
    refine ⟨fun y => by rw [List.mem_append, List.mem_append, h.mem_iff], ?_⟩
    refine List.pairwise_append.2 ⟨hordered, List.pairwise_singleton _ x, fun y hy z hz => ?_⟩
    rw [List.mem_singleton.1 hz, hbefore y hy, List.idxOf_append_of_notMem hnew]
    exact Nat.lt_add_right _ (List.idxOf_lt_length_of_mem ((h.mem_iff y).1 hy))

theorem mem_distinct : x ∈ distinct xs ↔ x ∈ xs := by
  induction xs with
  | nil => rfl
  | cons y xs ih =>
    by_cases h : x = y <;> simp [distinct, ih, h]

theorem distinct_eq_nil : distinct xs = [] ↔ xs = [] := by
  cases xs with
  | nil => exact .rfl
  | cons x xs => exact ⟨nofun, nofun⟩

theorem firsts_distinct (xs : List Text) : Firsts xs (distinct xs) := by
  refine ⟨fun x => mem_distinct, ?_⟩
  induction xs with
  | nil => exact .nil
  | cons x xs ih =>
    have hlater : ∀ y ∈ (distinct xs).filter (· != x), (x :: xs).idxOf y = xs.idxOf y + 1 := by
      intro y hy
      have hne : y ≠ x := by simpa using (List.mem_filter.1 hy).2
      exact List.idxOf_cons_ne _ (Ne.symm hne)
    refine List.pairwise_cons.2 ⟨fun y hy => ?_, (ih.filter _).imp_of_mem fun hy hz hlt => ?_⟩
    · rw [hlater y hy, List.idxOf_cons_self]
      exact Nat.succ_pos _
    · rw [hlater _ hy, hlater _ hz]
      exact Nat.succ_lt_succ hlt

/-- Where nothing is repeated, nothing is dropped. -/
theorem distinct_of_nodup (h : xs.Nodup) : distinct xs = xs := by
  induction xs with
  | nil => rfl
  | cons x xs ih =>
    obtain ⟨hx, hxs⟩ := List.nodup_cons.1 h
    rw [distinct, ih hxs, List.filter_eq_self.2]
    intro y hy
    simpa using fun e : y = x => hx (e ▸ hy)

end Countersign.Text
