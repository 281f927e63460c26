import Countersign.Exchange.Basic
/-! Bodies that nobody duplicates: what is read of one from its beginning to its end, and
what is passed on of one that arrives. -/

namespace Countersign

namespace Source

theorem chunks_relayed (s : Source) : s.relayed.chunks = s.chunks := by
  obtain ⟨items, endless⟩ := s
  induction items with
  | nil => rfl
  | cons x xs ih =>
    match x with
    | .ok (.data b) => exact congrArg (b :: ·) ih
    | .ok (.trailers _) => exact ih
    | .error e => rfl

theorem fault?_relayed (s : Source) : s.relayed.fault? = s.fault?.map relayedFault := by
  obtain ⟨items, endless⟩ := s
  induction items with
  | nil => rfl
  | cons x xs ih =>
    match x with
    | .ok (.data b) => exact ih
    | .ok (.trailers _) => exact ih
    | .error e => rfl

/-- How a body is known to have ended, if it has. -/
def endingOf (items : List Item) (endless : Bool) : Option Reading.Ending :=
  match faultOf items with
  | some e => some (.fault e)
  | none => if endless then none else some .done

/-- How reading all of a body ends. -/
def ending (s : Source) : Reading.Ending := (endingOf s.items s.endless).getD .pending

theorem ending_eq_fault {s : Source} {e : IoFault} : s.ending = .fault e ↔ s.fault? = some e := by
  unfold ending endingOf
  rw [fault?]
  cases faultOf s.items with
  | some f => simp
  | none => cases s.endless <;> simp

end Source

namespace Reading

variable {σ ι : Type} {poll : ι → σ → Poll × σ}

/-- A body that has ended is not asked again. -/
theorem turns_of_ended (n : Nat) (i : ι) (bytes : Bytes) (e : Ending) (s : σ) :
    turns poll n [(i, ⟨bytes, some e⟩)] s = ([(i, ⟨bytes, some e⟩)], s) := by
  cases n with
  | zero => rfl
  | succ n => rfl

end Reading

namespace Plumbing

open Source (chunksOf endingOf)

/-- One stream, read on: one turn for every item and one for the end. -/
theorem turns_stream (endless : Bool) {items : List Item} {n : Nat} (h : items.length < n)
    (bytes : Bytes) (p : Plumbing) :
    (Reading.turns askNth n [(0, { bytes })] ([.stream ⟨items, endless⟩], p)).1 =
      [(0, ⟨bytes ++ (chunksOf items).flatten, endingOf items endless⟩)] := by
  induction items generalizing n bytes p with
  | nil =>
    obtain ⟨n, rfl⟩ := Nat.exists_eq_succ_of_ne_zero (Nat.ne_of_gt h)
    rw [show bytes ++ (chunksOf []).flatten = bytes from List.append_nil _]
    cases endless with
    | false => exact congrArg Prod.fst (Reading.turns_of_ended n 0 bytes .done _)
    | true => rfl
  | cons x xs ih =>
    obtain ⟨n, rfl⟩ := Nat.exists_eq_succ_of_ne_zero (Nat.ne_of_gt (Nat.zero_lt_of_lt h))
    have hxs : xs.length < n := Nat.lt_of_succ_lt_succ h
    match x with
    | .ok (.data b) =>
      refine (ih hxs (bytes ++ b) p.settle).trans ?_
      rw [List.append_assoc]
      rfl
    | .ok (.trailers _) => exact ih hxs bytes p.settle
    | .error e =>
      rw [show bytes ++ (chunksOf (.error e :: xs)).flatten = bytes from List.append_nil _]
      exact congrArg Prod.fst (Reading.turns_of_ended n 0 bytes (.fault e) _)

end Plumbing

namespace Exchange

/-- Of a stream all chunks are read, in order, and then how it ended. -/
theorem readTogether_stream (x : Exchange) (s : Source) :
    (x.readTogether [.stream s]).1 = [(s.chunks.flatten, s.ending)] := by
  have hrounds : s.items.length < x.plumbing.bound (.stream s) + 1 := by
    rw [Plumbing.bound, Plumbing.sizeOfBody]
    omega
  have hturns := Plumbing.turns_stream s.endless hrounds [] x.plumbing.settle
  rw [List.nil_append] at hturns
  exact congrArg (List.map fun (_, p) => (p.bytes, p.ending.getD .pending)) hturns

/-- A request that carries a stream gets its response unless the stream breaks off. -/
theorem delivered_stream (x : Exchange) {o : Outbound} {s : Source} (h : o.body = .stream s)
    (f : Failure) (r : Response) :
    (x.delivered o f r []).1.1 = if s.fault? = none then .ok r else .error f := by
  have hread := readTogether_stream x s
  unfold delivered
  rw [h]
  generalize x.readTogether [.stream s] = y at hread
  obtain ⟨wholes, y⟩ := y
  obtain rfl : wholes = _ := hread
  cases hend : s.ending with
  | fault e =>
    rw [if_neg (by simp [Source.ending_eq_fault.1 hend])]
  | done | pending =>
    rw [if_pos]
    refine Option.eq_none_iff_forall_ne_some.2 fun e he => ?_
    rw [Source.ending_eq_fault.2 he] at hend
    cases hend

end Exchange

end Countersign
