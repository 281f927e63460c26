import Countersign.Text.Basic
/-! Names of service operations and tables of what is done for each. -/

namespace Countersign

abbrev Operation := Text

/-- The name of every request that no rule recognises. -/
def Operation.unknown : Operation := "Unknown"

/-- What is registered under each operation, one entry per name. -/
structure OperationTable (α : Type) where
  entries : List (Operation × α) := []

namespace OperationTable

variable {α : Type}

def get? (t : OperationTable α) (op : Operation) : Option α :=
  (t.entries.find? fun e => e.1 = op).map (·.2)

/-- Put `a` in the place of what was registered for `op`. -/
def register (t : OperationTable α) (op : Operation) (a : α) : OperationTable α :=
  if (t.get? op).isSome then ⟨t.entries.map fun e => if e.1 = op then (op, a) else e⟩
  else ⟨t.entries ++ [(op, a)]⟩

private theorem find?_replaced (es : List (Operation × α)) (op other : Operation) (a : α)
    (h : ¬op = other) :
    (es.map fun e => if e.1 = op then (op, a) else e).find? (fun e => e.1 = other) =
      es.find? fun e => e.1 = other := by
  induction es with
  | nil => rfl
  | cons e es ih =>
    rw [List.map_cons, List.find?_cons, List.find?_cons, ih]
    by_cases he : e.1 = op <;> simp [he, h]

private theorem find?_replacement (es : List (Operation × α)) (op : Operation) (a : α)
    (h : (es.find? fun e => e.1 = op).isSome = true) :
    (es.map fun e => if e.1 = op then (op, a) else e).find? (fun e => e.1 = op) =
      some (op, a) := by
  induction es with
  | nil => simp at h
  | cons e es ih =>
    rw [List.map_cons, List.find?_cons]
    by_cases he : e.1 = op
    · simp [he]
    · rw [List.find?_cons] at h
      simp only [he, decide_false] at h
      simp [he, ih h]

theorem get?_register (t : OperationTable α) (op other : Operation) (a : α) :
    (t.register op a).get? other = if op = other then some a else t.get? other := by
  unfold register
  by_cases known : (t.get? op).isSome = true
  · rw [if_pos known]
    rw [get?, Option.isSome_map] at known
    by_cases h : op = other
    · subst h
      simp [get?, find?_replacement t.entries op a known]
    · simp [get?, find?_replaced t.entries op other a h, h]
  · rw [if_neg known]
    simp only [get?, Option.isSome_map, Bool.not_eq_true, Option.isSome_eq_false_iff,
      Option.isNone_iff_eq_none] at known ⊢
    rw [List.find?_append]
    by_cases h : op = other
    · subst h
      simp [known]
    · simp [h]

def ofList (es : List (Operation × α)) : OperationTable α :=
  es.foldl (fun t e => t.register e.1 e.2) {}

def size (t : OperationTable α) : Nat := t.entries.length

/-- The registered names in order. -/
def names (t : OperationTable α) : List Operation := Text.sort (t.entries.map (·.1))

end OperationTable

end Countersign
