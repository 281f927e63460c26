import Countersign.Text.Blank
import Countersign.Text.StringObject
/-! Read-only tables: secrets by key id, origins by host, services by host. -/

namespace Countersign

/-- Answers a key with a value or with nothing, or fails with a reason. -/
abbrev Lookup := Text → Except Text (Option Text)

/-- Ask for one key after another until an answer is accepted or one fails; and
the keys that were asked. -/
def Lookup.search {α : Type} (l : Lookup) (accept : Text → Option α) :
    List Text → Except Text (Option α) × List Text
  | [] => (.ok none, [])
  | key :: keys =>
    match l key with
    | .error e => (.error e, [key])
    | .ok answer =>
      match answer.bind accept with
      | some a => (.ok (some a), [key])
      | none =>
        let (found, asked) := search l accept keys
        (found, key :: asked)

/-- A table in memory, one entry per key. -/
structure Table where
  entries : List (Text × Text) := []
deriving DecidableEq, Repr

namespace Table

def get? (t : Table) (key : Text) : Option Text :=
  (t.entries.find? fun e => e.1 = key).map (·.2)

def insert (t : Table) (key value : Text) : Table :=
  ⟨(t.entries.filter fun e => e.1 ≠ key) ++ [(key, value)]⟩

/-- Of several pairs with one key the last counts. -/
def ofPairs (ps : List (Text × Text)) : Table := ps.foldl (fun t p => t.insert p.1 p.2) {}

def size (t : Table) : Nat := t.entries.length

theorem get?_insert (t : Table) (key value other : Text) :
    (t.insert key value).get? other = if key = other then some value else t.get? other := by
  simp only [insert, get?, List.find?_append]
  by_cases h : key = other
  · subst h
    have gone : (t.entries.filter fun e => e.1 ≠ key).find? (fun e => e.1 = key) = none := by
      simp
    rw [gone]
    simp
  · have kept : (t.entries.filter fun e => e.1 ≠ key).find? (fun e => e.1 = other) =
        t.entries.find? fun e => e.1 = other := by
      induction t.entries with
      | nil => rfl
      | cons e es ih =>
        by_cases he : e.1 = key
        · simp only [List.filter_cons, List.find?_cons, he, ne_eq, not_true, decide_false, h]
          exact ih
        · by_cases ho : e.1 = other
          · simp [ho, Ne.symm h]
          · simp only [List.filter_cons, List.find?_cons, he, ho, ne_eq, not_false_eq_true,
              decide_true, decide_false, if_true]
            exact ih
    rw [kept]
    simp [h]

def lookup (t : Table) : Lookup := fun key => .ok (t.get? key)

/-- The table of a JSON object of strings. -/
def ofJson? (t : Text) : Option Table := (Text.StringObject.read? t).map ofPairs

/-- The table in a variable; one that is unset or blank holds no entries. -/
def ofVariable? : Option Text → Option Table
  | none => some {}
  | some t => if Text.trim t = [] then some {} else ofJson? t

end Table

end Countersign
