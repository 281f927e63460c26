import Countersign.Http.HopByHop
/-! What is left of headers that leave a connection: under a name either nothing or all
that stood there. -/

namespace Countersign.Http.HopByHop

/-- A name that concerns the connection only. -/
def Stripped (hs : Headers) (name : Text) : Prop := name ∈ fixedNames ∨ name ∈ nominated hs

instance (hs : Headers) (name : Text) : Decidable (Stripped hs name) :=
  inferInstanceAs (Decidable (_ ∨ _))

variable {hs : Headers} {name t : Text}

theorem strip_eq (hs : Headers) : strip hs = hs.filter fun h => ¬ Stripped hs h.name := by
  refine List.filter_congr fun h _ => ?_
  simp [Stripped]

theorem values_strip (hs : Headers) (name : Text) :
    (strip hs).values name = if Stripped hs name then [] else hs.values name := by
  rw [strip_eq, Headers.values, Headers.values, List.filter_filter]
  split
  · next hname =>
    rw [List.filter_eq_nil_iff.2 fun h _ => ?_, List.map_nil]
    by_cases hn : h.name = name
    · simp [hn, hname]
    · simp [hn]
  · next hname =>
    refine congrArg _ (List.filter_congr fun h _ => ?_)
    by_cases hn : h.name = name
    · simp [hn, hname]
    · simp [hn]

theorem first?_strip (hs : Headers) (name : Text) :
    (strip hs).first? name = if Stripped hs name then none else hs.first? name := by
  rw [Headers.first?, values_strip]
  split <;> rfl

theorem text?_strip (hs : Headers) (name : Text) :
    (strip hs).text? name = if Stripped hs name then none else hs.text? name := by
  rw [Headers.text?, first?_strip]
  split <;> rfl

theorem texts_strip (hs : Headers) (name : Text) :
    (strip hs).texts name = if Stripped hs name then [] else hs.texts name := by
  rw [Headers.texts, values_strip]
  split <;> rfl

/-- Only `Connection` values nominate. -/
theorem stripped_set {v : Bytes} {other : Text} (h : name ≠ "connection") :
    Stripped (hs.set name v) other ↔ Stripped hs other := by
  rw [Stripped, nominated, Headers.texts, Headers.values_set, if_neg h, ← Headers.texts,
    ← nominated, ← Stripped]

theorem text?_of_strip (h : (strip hs).text? name = some t) : hs.text? name = some t := by
  rw [text?_strip] at h
  split at h
  · cases h
  · exact h

end Countersign.Http.HopByHop
