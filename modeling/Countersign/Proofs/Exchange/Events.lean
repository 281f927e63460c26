import Countersign.Handler.Program
import Countersign.Proofs.Call.Preparation
/-! What an action can bring about: the fields of an exchange that it changes, and its own
kind of event. None of them asks for a key or a service. -/

namespace Countersign

/-- The events that an action may add. -/
def Action.Says : Action → Event → Prop
  | .resolveTarget _ _, e => ∃ host, e = .hostAsked host
  | .forward _ _, e => ∃ o, e = .forwarded o
  | .send r, e => e = .handed .handler r
  | .dropSink, e => e = .sinkDropped
  | .note n, e => e = .noted n
  | _, _ => False

namespace Exchange

/-- Reading bodies changes how far they are read and nothing else. -/
theorem readTogether_eq (x : Exchange) (bs : List Body) :
    ∃ plumbing, (x.readTogether bs).2 = { x with plumbing } := ⟨_, rfl⟩

theorem delivered_eq (x : Exchange) (o : Outbound) (f : Failure) (r : Response)
    (bs : List Body) : ∃ plumbing, (x.delivered o f r bs).2 = { x with plumbing } := by
  obtain ⟨plumbing, hread⟩ := readTogether_eq x (o.body :: bs)
  unfold delivered
  split
  · next h =>
    rw [h] at hread
    exact ⟨plumbing, hread⟩
  · next h =>
    rw [h] at hread
    exact ⟨plumbing, hread⟩
  · next h =>
    rw [h] at hread
    exact ⟨plumbing, hread⟩

theorem dispatch_eq (x : Exchange) (o : Outbound) (bs : List Body) :
    ∃ plumbing, (x.dispatch o bs).2 = { x with plumbing } := by
  unfold dispatch
  split
  · exact ⟨_, rfl⟩
  · split
    · exact ⟨_, rfl⟩
    · split
      · exact ⟨_, rfl⟩
      · exact ⟨_, rfl⟩
      · exact delivered_eq ..

/-- All that forwarding changes. -/
theorem forward_eq (x : Exchange) (target : Text) (bs : List Body) :
    ∃ plumbing sent es, (∀ e ∈ es, ∃ o, e = .forwarded o) ∧
      (x.forward target bs).2 =
        { x with call := (x.call.prepare target).2, plumbing, sent, events := x.events ++ es } := by
  unfold forward
  split
  · next f call h =>
    obtain ⟨plumbing, hread⟩ := readTogether_eq { x with call } bs
    refine ⟨plumbing, x.sent, [], nofun, ?_⟩
    rw [h, List.append_nil]
    exact hread
  · next o call h =>
    obtain ⟨plumbing, hdispatch⟩ := dispatch_eq ({ x with call }.record (.forwarded o)) o bs
    refine ⟨plumbing, x.sent + 1, [.forwarded o], ?_, ?_⟩
    · intro e he
      exact ⟨o, List.mem_singleton.1 he⟩
    · rw [h]
      dsimp only
      rw [hdispatch]
      rfl

theorem takeBody_eq (x : Exchange) :
    ∃ body, x.takeBody.2 = { x with call := { x.call with body } } := by
  obtain ⟨body, htake⟩ := Call.takeBody_eq x.call
  refine ⟨body, ?_⟩
  rw [← htake]
  rfl

theorem putBody_eq (x : Exchange) (b : Body) :
    ∃ body plumbing, x.putBody b = { x with call := { x.call with body }, plumbing } := by
  unfold putBody
  split
  · exact ⟨_, _, rfl⟩
  · exact ⟨_, _, rfl⟩

theorem splitBody_eq (x : Exchange) :
    ∃ body fanOut plumbing,
      x.splitBody.2 = { x with call := { x.call with body, fanOut }, plumbing } := by
  obtain ⟨body, htake⟩ := Call.takeBody_eq x.call
  unfold splitBody
  split
  · next h =>
    rw [h] at htake
    obtain rfl : _ = _ := htake
    exact ⟨_, _, _, rfl⟩
  · next h =>
    rw [h] at htake
    obtain rfl : _ = _ := htake
    exact ⟨_, _, _, rfl⟩

theorem hijack_eq (x : Exchange) :
    ∃ hasSink hijacked sinkHeld,
      x.hijack.2 = { x with call := { x.call with hasSink, hijacked }, sinkHeld } := by
  obtain ⟨hasSink, hijacked, hcall⟩ := Call.hijack_eq x.call
  unfold hijack
  split
  · next h =>
    rw [h] at hcall
    obtain rfl : _ = _ := hcall
    exact ⟨_, _, _, rfl⟩
  · next h =>
    rw [h] at hcall
    obtain rfl : _ = _ := hcall
    exact ⟨_, _, _, rfl⟩

theorem events_perform (x : Exchange) (a : Action) :
    ∃ es, (x.perform a).2.events = x.events ++ es ∧ ∀ e ∈ es, a.Says e := by
  cases a with
  | forward target bs =>
    obtain ⟨_, _, es, hes, h⟩ := forward_eq x target bs
    refine ⟨es, ?_, hes⟩
    rw [perform, h]
  | resolveTarget host fallback =>
    refine ⟨_, rfl, ?_⟩
    intro e he
    obtain ⟨key, -, rfl⟩ := List.mem_map.1 he
    exact ⟨key, rfl⟩
  | send r =>
    rw [perform, send]
    split
    · refine ⟨[.handed .handler r], rfl, ?_⟩
      intro e he
      exact List.mem_singleton.1 he
    · exact ⟨[], by simp, nofun⟩
  | dropSink =>
    rw [perform, dropSink]
    split
    · refine ⟨[.sinkDropped], rfl, ?_⟩
      intro e he
      exact List.mem_singleton.1 he
    · exact ⟨[], by simp, nofun⟩
  | note n =>
    refine ⟨[.noted n], rfl, ?_⟩
    intro e he
    exact List.mem_singleton.1 he
  | putBody b =>
    obtain ⟨_, _, h⟩ := putBody_eq x b
    refine ⟨[], ?_, nofun⟩
    rw [perform, h, List.append_nil]
  | splitBody =>
    obtain ⟨_, _, _, h⟩ := splitBody_eq x
    refine ⟨[], ?_, nofun⟩
    rw [perform, h, List.append_nil]
  | hijack =>
    obtain ⟨_, _, _, h⟩ := hijack_eq x
    refine ⟨[], ?_, nofun⟩
    rw [perform, h, List.append_nil]
  | takeBody | look | context | release _ | readFrames _ _ | readAll _ | readTogether _
  | setUri _ | setHeaders _ => exact ⟨[], (List.append_nil _).symm, nofun⟩

end Exchange

theorem Program.events_run {α : Type} (p : Program α) (x : Exchange) :
    ∃ es, (p.run x).2.events = x.events ++ es ∧ ∀ e ∈ es, ∃ a : Action, a.Says e := by
  induction p generalizing x with
  | done a => exact ⟨[], (List.append_nil _).symm, nofun⟩
  | act a next ih =>
    obtain ⟨es, hfirst, hkind⟩ := Exchange.events_perform x a
    obtain ⟨fs, hrest, hothers⟩ := ih (x.perform a).1 (x.perform a).2
    refine ⟨es ++ fs, ?_, ?_⟩
    · rw [← List.append_assoc, ← hfirst, ← hrest]
      rfl
    · intro e he
      rcases List.mem_append.1 he with he | he
      · exact ⟨a, hkind e he⟩
      · exact hothers e he

end Countersign
