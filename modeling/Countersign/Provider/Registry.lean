import Countersign.Provider.Basic
/-! Providers in the order of their registration, one for each name. -/

namespace Countersign

structure Registry where
  providers : List Provider := []

namespace Registry

def get? (r : Registry) (name : Text) : Option Provider :=
  r.providers.find? fun p => p.name = name

/-- A provider takes the place of the first that has its name, else the last place. -/
def register (r : Registry) (p : Provider) : Registry :=
  match r.providers.findIdx? fun q => q.name = p.name with
  | some i => ⟨r.providers.set i p⟩
  | none => ⟨r.providers ++ [p]⟩

def ofList (ps : List Provider) : Registry := ps.foldl register {}

/-- The first provider that accepts a call. -/
def resolve (r : Registry) (c : Call) : Option Provider := r.providers.find? (·.accepts c)

def names (r : Registry) : List Text := r.providers.map (·.name)

def size (r : Registry) : Nat := r.providers.length

/-- All that a registration can do. -/
theorem register_cases (r : Registry) (p : Provider) :
    (∃ before old after, r.providers = before ++ old :: after ∧ old.name = p.name ∧
      (∀ q ∈ before, q.name ≠ p.name) ∧ r.register p = ⟨before ++ p :: after⟩) ∨
    (p.name ∉ r.names ∧ r.register p = ⟨r.providers ++ [p]⟩) := by
  unfold register
  split
  · next i hi =>
    obtain ⟨hlt, hname, hbefore⟩ := List.findIdx?_eq_some_iff_getElem.1 hi
    refine .inl ⟨r.providers.take i, r.providers[i], r.providers.drop (i + 1), ?_,
      of_decide_eq_true hname, ?_, ?_⟩
    · rw [List.getElem_cons_drop, List.take_append_drop]
    · intro q hq
      obtain ⟨j, hj, rfl⟩ := List.mem_take_iff_getElem.1 hq
      have hlow : j < i := Nat.lt_of_lt_of_le hj (Nat.min_le_left ..)
      simpa using hbefore j hlow
    · rw [List.set_eq_take_append_cons_drop, if_pos hlt]
  · next hnone =>
    refine .inr ⟨fun hmem => ?_, rfl⟩
    obtain ⟨q, hq, hname⟩ := List.mem_map.1 hmem
    simpa [hname] using List.findIdx?_eq_none_iff.1 hnone q hq

/-- A name never moves, and a new one comes last. -/
theorem names_register (r : Registry) (p : Provider) :
    (r.register p).names = if p.name ∈ r.names then r.names else r.names ++ [p.name] := by
  rcases r.register_cases p with ⟨before, old, after, hproviders, hname, -, h⟩ | ⟨hnew, h⟩
  · have hmem : p.name ∈ r.names := by simp [names, hproviders, hname]
    rw [if_pos hmem, h]
    simp [names, hproviders, hname]
  · rw [if_neg hnew, h]
    simp [names]

/-- One provider for each service. -/
def ofServices (services : List Text) : Registry :=
  ofList (services.map fun s =>
    if s = Provider.storageName then Provider.objectStorage none {} else Provider.passthrough s)

end Registry

end Countersign
