import Countersign.Proofs.Exchange.Events
/-! Who has the sink. It is with the engine until a handler takes it, which can happen once;
from then on the handler has it until it sends a response or lets the sink go. -/

namespace Countersign

def Event.usesSink : Event → Bool
  | .handed _ _ | .sinkDropped => true
  | _ => false

/-- What was done with the sink, in order. -/
def sinkEvents (es : List Event) : List Event := es.filter Event.usesSink

theorem sinkEvents_append (es fs : List Event) :
    sinkEvents (es ++ fs) = sinkEvents es ++ sinkEvents fs := List.filter_append ..

theorem mem_sinkEvents {ev : Event} {es : List Event} (h : ev.usesSink = true) :
    ev ∈ sinkEvents es ↔ ev ∈ es := by
  rw [sinkEvents, List.mem_filter]
  exact and_iff_left h

namespace Action

/-- Actions on the sink. -/
def touchesSink : Action → Bool
  | .hijack | .send _ | .dropSink => true
  | _ => false

/-- The action was a hijack that succeeded. -/
def tookSink : (a : Action) → a.Result → Bool
  | .hijack, .ok () => true
  | _, _ => false

theorem tookSink_of_ne {a : Action} (ha : a ≠ .hijack) (r : a.Result) : a.tookSink r = false := by
  cases a with
  | hijack => exact absurd rfl ha
  | _ => rfl

theorem usesSink_of_says {a : Action} {e : Event} (ha : a.touchesSink = false) (h : a.Says e) :
    e.usesSink = false := by
  cases a with
  | send r => cases ha
  | dropSink => cases ha
  | forward target bs =>
    obtain ⟨o, rfl⟩ := h
    rfl
  | resolveTarget host fallback =>
    obtain ⟨key, rfl⟩ := h
    rfl
  | note n =>
    obtain rfl : e = .noted n := h
    rfl
  | _ => exact h.elim

end Action

namespace Exchange

variable {x y : Exchange}

/-- All that tells who has the sink. -/
def sinkState (x : Exchange) : Bool × Bool × Bool × List Event :=
  (x.call.hasSink, x.call.hijacked, x.sinkHeld, sinkEvents x.events)

theorem sinkState_perform (x : Exchange) {a : Action} (ha : a.touchesSink = false) :
    sinkState (x.perform a).2 = sinkState x := by
  have hevents : sinkEvents (x.perform a).2.events = sinkEvents x.events := by
    obtain ⟨es, h, hkind⟩ := events_perform x a
    have hnone : sinkEvents es = [] := by
      refine List.filter_eq_nil_iff.2 fun e he => ?_
      rw [Action.usesSink_of_says ha (hkind e he)]
      decide
    rw [h, sinkEvents_append, hnone, List.append_nil]
  have hrest : ((x.perform a).2.call.hasSink, (x.perform a).2.call.hijacked,
      (x.perform a).2.sinkHeld) = (x.call.hasSink, x.call.hijacked, x.sinkHeld) := by
    cases a with
    | hijack | send r | dropSink => cases ha
    | forward target bs =>
      obtain ⟨_, _, es, -, hforward⟩ := forward_eq x target bs
      obtain ⟨_, _, _, hprepare, -⟩ := Call.prepare_eq x.call target
      rw [perform, hforward, hprepare]
    | takeBody =>
      obtain ⟨_, h⟩ := takeBody_eq x
      rw [perform, h]
    | putBody b =>
      obtain ⟨_, _, h⟩ := putBody_eq x b
      rw [perform, h]
    | splitBody =>
      obtain ⟨_, _, _, h⟩ := splitBody_eq x
      rw [perform, h]
    | look | context | release _ | readFrames _ _ | readAll _ | readTogether _ | setUri _
    | setHeaders _ | resolveTarget _ _ | note _ => rfl
  simp only [Prod.mk.injEq] at hrest
  obtain ⟨hhas, hhijacked, hheld⟩ := hrest
  rw [sinkState, sinkState, hhas, hhijacked, hheld, hevents]

theorem hijack_eq_ok (hfree : x.call.hijacked = false) (hhas : x.call.hasSink = true) :
    x.hijack = (.ok (), { x with
      call := { x.call with hasSink := false, hijacked := true }, sinkHeld := true }) := by
  simp [hijack, Call.hijack, hfree, hhas]

theorem hijack_eq_error (h : x.call.hijacked = true) : x.hijack = (.error .alreadyHijacked, x) := by
  simp [hijack, Call.hijack, h]

/-- Where the sink is while a handler runs. -/
inductive Custody (x : Exchange) : Prop
  | engine (has : x.call.hasSink = true) (hijacked : x.call.hijacked = false)
      (held : x.sinkHeld = false) (events : sinkEvents x.events = [])
  | handler (has : x.call.hasSink = false) (hijacked : x.call.hijacked = true)
      (held : x.sinkHeld = true) (events : sinkEvents x.events = [])
  | spent (has : x.call.hasSink = false) (hijacked : x.call.hijacked = true)
      (held : x.sinkHeld = false) (events : (∃ r, sinkEvents x.events = [.handed .handler r]) ∨
        sinkEvents x.events = [.sinkDropped])

theorem Custody.of_sinkState (h : sinkState y = sinkState x) (hx : Custody x) : Custody y := by
  simp only [sinkState, Prod.mk.injEq] at h
  obtain ⟨hhas, hhijacked, hheld, hevents⟩ := h
  cases hx with
  | engine has hijacked held events =>
    exact .engine (hhas.trans has) (hhijacked.trans hijacked) (hheld.trans held)
      (hevents.trans events)
  | handler has hijacked held events =>
    exact .handler (hhas.trans has) (hhijacked.trans hijacked) (hheld.trans held)
      (hevents.trans events)
  | spent has hijacked held events =>
    refine .spent (hhas.trans has) (hhijacked.trans hijacked) (hheld.trans held) ?_
    rwa [hevents]

/-- The sink is gone from the call exactly when the call is hijacked. -/
theorem Custody.hasSink_eq (h : Custody x) : x.call.hasSink = !x.call.hijacked := by
  cases h with
  | engine has hijacked => rw [has, hijacked]; rfl
  | handler has hijacked => rw [has, hijacked]; rfl
  | spent has hijacked => rw [has, hijacked]; rfl

/-- A handler that holds the sink can use it once. -/
theorem custody_spend (h : Custody x) (hheld : x.sinkHeld = true) {ev : Event}
    (hev : (∃ r, ev = .handed .handler r) ∨ ev = .sinkDropped) :
    Custody ({ x with sinkHeld := false }.record ev) := by
  cases h with
  | engine _ _ held _ =>
    rw [held] at hheld
    cases hheld
  | spent _ _ held _ =>
    rw [held] at hheld
    cases hheld
  | handler has hijacked _ events =>
    have husesSink : ev.usesSink = true := by
      rcases hev with ⟨r, rfl⟩ | rfl <;> rfl
    have hsink : sinkEvents (x.events ++ [ev]) = [ev] := by
      rw [sinkEvents_append, events, sinkEvents, List.filter_cons_of_pos husesSink]
      rfl
    refine .spent has hijacked rfl ?_
    rw [Exchange.record, hsink]
    rcases hev with ⟨r, rfl⟩ | rfl
    · exact .inl ⟨r, rfl⟩
    · exact .inr rfl

theorem custody_send (h : Custody x) (r : Response) : Custody (x.send r).2 := by
  unfold send
  split
  · next hheld => exact custody_spend h hheld (.inl ⟨r, rfl⟩)
  · exact h

theorem custody_dropSink (h : Custody x) : Custody x.dropSink.2 := by
  unfold dropSink
  split
  · next hheld => exact custody_spend h hheld (.inr rfl)
  · exact h

theorem custody_hijack (h : Custody x) : Custody x.hijack.2 := by
  cases h with
  | engine has hijacked held events =>
    rw [hijack_eq_ok hijacked has]
    exact .handler rfl rfl rfl events
  | handler has hijacked held events =>
    rw [hijack_eq_error hijacked]
    exact .handler has hijacked held events
  | spent has hijacked held events =>
    rw [hijack_eq_error hijacked]
    exact .spent has hijacked held events

theorem custody_perform (h : Custody x) (a : Action) : Custody (x.perform a).2 := by
  cases ha : a.touchesSink with
  | false => exact h.of_sinkState (sinkState_perform x ha)
  | true =>
    cases a with
    | hijack => exact custody_hijack h
    | send r => exact custody_send h r
    | dropSink => exact custody_dropSink h
    | _ => cases ha

theorem hijacked_perform (x : Exchange) {a : Action} (ha : a ≠ .hijack) :
    (x.perform a).2.call.hijacked = x.call.hijacked := by
  cases htouch : a.touchesSink with
  | false =>
    have hsame := sinkState_perform x htouch
    simp only [sinkState, Prod.mk.injEq] at hsame
    exact hsame.2.1
  | true =>
    cases a with
    | hijack => exact absurd rfl ha
    | send r =>
      rw [perform, send]
      split <;> rfl
    | dropSink =>
      rw [perform, dropSink]
      split <;> rfl
    | _ => cases htouch

/-- A hijack succeeds exactly where it makes the call hijacked. -/
theorem tookSink_perform (h : Custody x) (a : Action) :
    (a.tookSink (x.perform a).1).toNat + x.call.hijacked.toNat =
      (x.perform a).2.call.hijacked.toNat := by
  by_cases ha : a = .hijack
  · subst ha
    have hstep : x.perform .hijack = x.hijack := rfl
    cases h with
    | engine has hijacked held events =>
      rw [hstep, hijack_eq_ok hijacked has, hijacked]
      rfl
    | handler has hijacked held events =>
      rw [hstep, hijack_eq_error hijacked, hijacked]
      rfl
    | spent has hijacked held events =>
      rw [hstep, hijack_eq_error hijacked, hijacked]
      rfl
  · rw [Action.tookSink_of_ne ha, hijacked_perform x ha]
    exact Nat.zero_add _

end Exchange

namespace Program

variable {α : Type} {x : Exchange}

/-- The states of an exchange while a handler runs, the first and the last included. -/
def passes : Program α → Exchange → List Exchange
  | done _, x => [x]
  | act a next, x => x :: (next (x.perform a).1).passes (x.perform a).2

/-- How many hijacks succeed. -/
def hijacks : Program α → Exchange → Nat
  | done _, _ => 0
  | act a next, x =>
    (a.tookSink (x.perform a).1).toNat + (next (x.perform a).1).hijacks (x.perform a).2

theorem run_mem_passes (p : Program α) (x : Exchange) : (p.run x).2 ∈ p.passes x := by
  induction p generalizing x with
  | done a => exact List.mem_singleton.2 rfl
  | act a next ih => exact List.mem_cons_of_mem _ (ih _ _)

theorem custody_passes (p : Program α) (h : x.Custody) : ∀ y ∈ p.passes x, y.Custody := by
  induction p generalizing x with
  | done a =>
    intro y hy
    rwa [List.mem_singleton.1 hy]
  | act a next ih =>
    intro y hy
    rcases List.mem_cons.1 hy with rfl | hy
    · exact h
    · exact ih _ (Exchange.custody_perform h a) y hy

theorem hijacks_run (p : Program α) (h : x.Custody) :
    p.hijacks x + x.call.hijacked.toNat = (p.run x).2.call.hijacked.toNat := by
  induction p generalizing x with
  | done a => exact Nat.zero_add _
  | act a next ih =>
    have hrest := ih (x.perform a).1 (Exchange.custody_perform h a)
    have hstep := Exchange.tookSink_perform h a
    have hrun : ((act a next).run x).2 = ((next (x.perform a).1).run (x.perform a).2).2 := rfl
    rw [hijacks, hrun]
    omega

end Program

end Countersign
