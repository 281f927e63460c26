import Countersign.Proofs.Exchange.Events
/-! What a handler cannot change: of the credentials, anything but the signature. -/

namespace Countersign

open Countersign.Http

namespace Exchange

/-- Whatever becomes of the request, the call is left as it was prepared. -/
theorem call_forward (x : Exchange) (target : Text) (bs : List Body) :
    (x.forward target bs).2.call = (x.call.prepare target).2 := by
  obtain ⟨_, _, _, -, h⟩ := forward_eq x target bs
  rw [h]

theorem unsigned_perform (x : Exchange) (a : Action) :
    (x.perform a).2.call.credentials.unsigned = x.call.credentials.unsigned := by
  cases a with
  | forward target bs => rw [perform, call_forward, Call.unsigned_prepare]
  | takeBody =>
    obtain ⟨_, h⟩ := takeBody_eq x
    rw [perform, h]
  | putBody b =>
    obtain ⟨_, _, h⟩ := putBody_eq x b
    rw [perform, h]
  | splitBody =>
    obtain ⟨_, _, _, h⟩ := splitBody_eq x
    rw [perform, h]
  | hijack =>
    obtain ⟨_, _, _, h⟩ := hijack_eq x
    rw [perform, h]
  | send r =>
    rw [perform, send]
    split <;> rfl
  | dropSink =>
    rw [perform, dropSink]
    split <;> rfl
  | look | context | release _ | readFrames _ _ | readAll _ | readTogether _ | setUri _
  | setHeaders _ | resolveTarget _ _ | note _ => rfl

end Exchange

theorem Program.unsigned_run {α : Type} (p : Program α) (x : Exchange) :
    (p.run x).2.call.credentials.unsigned = x.call.credentials.unsigned := by
  induction p generalizing x with
  | done a => rfl
  | act a next ih => exact (ih _ _).trans (Exchange.unsigned_perform x a)

end Countersign
