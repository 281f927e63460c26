import Countersign.Proofs.Engine.Dispatch
import Countersign.Proofs.Front.Watching
/-! How a request ends. The engine answers it once, unless a handler took the sink; then
the engine says nothing more. -/

namespace Countersign

open Countersign.Http
open Front (happening happenings Watch)

/-- What the front sees of an account is what was done with the sink, and then the end. -/
theorem happenings_eq (a : Account) :
    happenings a = (sinkEvents a.events).filterMap happening ++ [.engineEnds] := by
  have hevents : ∀ es : List Event, (sinkEvents es).filterMap happening = es.filterMap happening := by
    intro es
    induction es with
    | nil => rfl
    | cons ev es ih =>
      cases ev with
      | handed party r => exact congrArg (_ :: ·) ih
      | sinkDropped => exact congrArg (_ :: ·) ih
      | _ => exact ih
  rw [happenings, hevents]

theorem respond_eq {head : RequestHead} (hhead : Front.isHealthCheck head = false) (s : Front.Service)
    (id : Text) (body : Source) : (Front.respond s id head body).1 =
      (Watch.answer {} (happenings (s.engine.handle s.transport false id head body))).getD
        .internalError := by
  rw [Front.respond, hhead]
  rfl

/-- A response that was put into the sink while the engine worked is the answer, whatever
happens later and whenever the front looks. -/
theorem gives_of_handed {a : Account} {party : Party} {r : Response}
    (h : sinkEvents a.events = [.handed party r]) :
    Watch.answer {} (happenings a) = some r ∧
      ∀ later b, Watch.Gives {} (happenings a ++ later) b ↔ b = r := by
  have hhappenings : happenings a = [.sent r, .engineEnds] := by
    rw [happenings_eq, h]
    rfl
  rw [hhappenings]
  refine ⟨rfl, ?_⟩
  intro later b
  rw [Watch.gives_iff]
  simp [Watch.EndsFirst]

namespace Engine

variable {e : Engine} {transport : Transport} {gone : Bool} {id : Text} {head : RequestHead}
  {body : Source} {p : Provider} {x y : Exchange} {result : Except Failure Response}

theorem conclude_eq (has : x.call.hasSink = true) (hijacked : x.call.hijacked = false)
    (ifGone ifHanded : Outcome) (r : Response) :
    (conclude x ifGone ifHanded r).1 = ifHanded ∧
      (conclude x ifGone ifHanded r).2.events = x.events ++ [.handed .engine r] := by
  have htake : x.call.takeSink = (true, { x.call with hasSink := false }) := by
    simp [Call.takeSink, hijacked, has]
  simp only [conclude, htake]
  exact ⟨rfl, rfl⟩

theorem runProvider_of_hijacked (h : p.handler.run (x.record (.ran p.name)) = (result, y))
    (hijacked : y.call.hijacked = true) :
    (runProvider p x).1 = .hijacked ∧ (runProvider p x).2.events = y.events := by
  have hcall : y.call.detach.hijacked = true := hijacked
  simp only [runProvider, h, hcall]
  exact ⟨rfl, rfl⟩

theorem runProvider_of_ok {r : Response}
    (h : p.handler.run (x.record (.ran p.name)) = (.ok r, y))
    (has : y.call.hasSink = true) (hijacked : y.call.hijacked = false) :
    (runProvider p x).1 = .streamed r.status ∧
      (runProvider p x).2.events = y.events ++ [.handed .engine r] := by
  have hcall : y.call.detach.hijacked = false := hijacked
  simp only [runProvider, h, hcall]
  exact conclude_eq (x := { y with call := y.call.detach }) has hijacked _ _ r

theorem runProvider_of_error {f : Failure}
    (h : p.handler.run (x.record (.ran p.name)) = (.error f, y))
    (has : y.call.hasSink = true) (hijacked : y.call.hijacked = false) :
    (runProvider p x).1 = .failed f.status ∧
      (runProvider p x).2.events = y.events ++ [.handed .engine (.ofFailure y.call.id f)] := by
  have hcall : y.call.detach.hijacked = false := hijacked
  simp only [runProvider, h, hcall]
  exact conclude_eq (x := { y with call := y.call.detach }) has hijacked _ _ _

/-- A handler that left the sink alone: the engine answers with what it returned. -/
theorem handle_of_kept (h : e.reached transport gone id head body = .ok (p, x))
    (hrun : p.handler.run (x.record (.ran p.name)) = (result, y))
    (hijacked : y.call.hijacked = false) :
    y.call.detach.takeSink.1 = true ∧
      ∃ r, sinkEvents (e.handle transport gone id head body).events = [.handed .engine r] ∧
        (result = .ok r ∧ (e.handle transport gone id head body).outcome = .streamed r.status ∨
          ∃ f, result = .error f ∧ r = .ofFailure y.call.id f ∧
            (e.handle transport gone id head body).outcome = .failed r.status) := by
  obtain ⟨has, hunused⟩ : y.call.hasSink = true ∧ sinkEvents y.events = [] := by
    cases custody_of_run h hrun with
    | engine has _ _ events => exact ⟨has, events⟩
    | handler _ taken _ _ => rw [taken] at hijacked; cases hijacked
    | spent _ taken _ _ => rw [taken] at hijacked; cases hijacked
  have hone : ∀ r, sinkEvents (y.events ++ [.handed .engine r]) = [.handed .engine r] := by
    intro r
    rw [sinkEvents_append, hunused]
    rfl
  obtain ⟨houtcome, hevents⟩ := handle_of_ok h
  rw [houtcome, hevents]
  refine ⟨?_, ?_⟩
  · have hdetach : y.call.detach.hijacked = false := hijacked
    have hasSink : y.call.detach.hasSink = true := has
    simp [Call.takeSink, hdetach, hasSink]
  · cases result with
    | ok r =>
      obtain ⟨hout, hev⟩ := runProvider_of_ok hrun has hijacked
      refine ⟨r, ?_, .inl ⟨rfl, hout⟩⟩
      rw [hev, hone]
    | error f =>
      obtain ⟨hout, hev⟩ := runProvider_of_error hrun has hijacked
      refine ⟨.ofFailure y.call.id f, ?_, .inr ⟨f, rfl, rfl, hout⟩⟩
      rw [hev, hone]

/-- A handler that took the sink: whatever it returned, the engine leaves the rest to it. -/
theorem handle_of_hijacked (h : e.reached transport gone id head body = .ok (p, x))
    (hrun : p.handler.run (x.record (.ran p.name)) = (result, y))
    (hijacked : y.call.hijacked = true) :
    (e.handle transport gone id head body).outcome = .hijacked ∧
      (sinkEvents (e.handle transport gone id head body).events = [] ∨
        (∃ r, sinkEvents (e.handle transport gone id head body).events = [.handed .handler r]) ∨
        sinkEvents (e.handle transport gone id head body).events = [.sinkDropped]) := by
  obtain ⟨houtcome, hevents⟩ := handle_of_ok h
  obtain ⟨hout, hev⟩ := runProvider_of_hijacked hrun hijacked
  rw [houtcome, hevents, hev]
  refine ⟨hout, ?_⟩
  cases custody_of_run h hrun with
  | engine _ kept _ _ => rw [kept] at hijacked; cases hijacked
  | handler _ _ _ events => exact .inl events
  | spent _ _ _ events => exact .inr events

/-- A request that gets to no provider is answered once, with the failure. -/
theorem sinkEvents_of_error {f : Failure}
    (h : e.reached transport gone id head body = .error f) :
    sinkEvents (e.handle transport gone id head body).events =
      [.handed .engine (.ofFailure id f)] := by
  obtain ⟨services, hservices, -, hevents⟩ := handle_of_error h
  rw [hevents, sinkEvents_append, sinkEvents_asked hservices]
  rfl

/-- The sink is used at most once for a request. -/
theorem sinkEvents_handle (e : Engine) (transport : Transport) (gone : Bool) (id : Text)
    (head : RequestHead) (body : Source) :
    sinkEvents (e.handle transport gone id head body).events = [] ∨
      (∃ party r, sinkEvents (e.handle transport gone id head body).events = [.handed party r]) ∨
      sinkEvents (e.handle transport gone id head body).events = [.sinkDropped] := by
  cases h : e.reached transport gone id head body with
  | error f => exact .inr (.inl ⟨.engine, _, sinkEvents_of_error h⟩)
  | ok found =>
    obtain ⟨p, x⟩ := found
    obtain ⟨result, y, hrun⟩ : ∃ result y, p.handler.run (x.record (.ran p.name)) = (result, y) :=
      ⟨_, _, rfl⟩
    cases hijacked : y.call.hijacked with
    | false =>
      obtain ⟨-, r, hr, -⟩ := handle_of_kept h hrun hijacked
      exact .inr (.inl ⟨.engine, r, hr⟩)
    | true =>
      obtain ⟨-, hnone | ⟨r, hr⟩ | hdropped⟩ := handle_of_hijacked h hrun hijacked
      · exact .inl hnone
      · exact .inr (.inl ⟨.handler, r, hr⟩)
      · exact .inr (.inr hdropped)

/-- The engine answers every request once, with the status that it gives as the outcome,
unless a handler took the sink, which happens at most once; then the engine hands over
nothing. The sink is gone from a call exactly when the call is hijacked, so the engine
has it whenever it answers, and what it answers is what the client gets. -/
theorem exactly_one_response (e : Engine) (transport : Transport) (gone : Bool) (id : Text)
    (head : RequestHead) (body : Source) :
    let account := e.handle transport gone id head body
    (∀ f, e.reached transport gone id head body = .error f →
      sinkEvents account.events = [.handed .engine (.ofFailure id f)] ∧
        account.outcome = .failed (Response.ofFailure id f).status) ∧
    (∀ p x, e.reached transport gone id head body = .ok (p, x) →
      let start := x.record (.ran p.name)
      let result := (p.handler.run start).1
      let last := (p.handler.run start).2
      (∀ y ∈ p.handler.passes start, y.call.hasSink = !y.call.hijacked) ∧
      p.handler.hijacks start ≤ 1 ∧
      (p.handler.hijacks start = 0 →
        last.call.detach.takeSink.1 = true ∧
          ∃ r, sinkEvents account.events = [.handed .engine r] ∧
            (result = .ok r ∧ account.outcome = .streamed r.status ∨
              ∃ f, result = .error f ∧ r = .ofFailure last.call.id f ∧
                account.outcome = .failed r.status)) ∧
      (p.handler.hijacks start = 1 →
        account.outcome = .hijacked ∧ ∀ r, .handed .engine r ∉ account.events)) ∧
    ∀ r, .handed .engine r ∈ account.events →
      Watch.answer {} (happenings account) = some r ∧
        ∀ later b, Watch.Gives {} (happenings account ++ later) b ↔ b = r := by
  intro account
  refine ⟨?_, ?_, ?_⟩
  · intro f h
    obtain ⟨-, -, houtcome, -⟩ := handle_of_error h
    exact ⟨sinkEvents_of_error h, houtcome⟩
  · intro p x h start result last
    have hcustody := custody_of_reached h
    have hcount : p.handler.hijacks start = last.call.hijacked.toNat := by
      have hsum : p.handler.hijacks start + x.call.hijacked.toNat = last.call.hijacked.toNat :=
        Program.hijacks_run p.handler hcustody
      rwa [hijacked_of_reached h] at hsum
    have hrun : p.handler.run start = (result, last) := rfl
    refine ⟨?_, ?_, ?_, ?_⟩
    · intro y hy
      exact (Program.custody_passes p.handler hcustody y hy).hasSink_eq
    · rw [hcount]
      exact Bool.toNat_le _
    · intro hzero
      apply handle_of_kept h hrun
      rwa [hcount, Bool.toNat_eq_zero] at hzero
    · intro hone
      rw [hcount, Bool.toNat_eq_one] at hone
      obtain ⟨houtcome, hsink⟩ := handle_of_hijacked h hrun hone
      refine ⟨houtcome, ?_⟩
      intro r hr
      replace hr := (mem_sinkEvents rfl).2 hr
      rcases hsink with hnone | ⟨s, hs⟩ | hdropped
      · rw [hnone] at hr
        cases hr
      · rw [hs] at hr
        cases List.mem_singleton.1 hr
      · rw [hdropped] at hr
        cases List.mem_singleton.1 hr
  · intro r hr
    replace hr := (mem_sinkEvents rfl).2 hr
    rcases sinkEvents_handle e transport gone id head body with hnone | ⟨party, s, hs⟩ | hdropped
    · rw [hnone] at hr
      cases hr
    · rw [hs] at hr
      cases List.mem_singleton.1 hr
      exact gives_of_handed hs
    · rw [hdropped] at hr
      cases List.mem_singleton.1 hr

/-- A provider whose handler begins by taking the sink. -/
def taking (rest : Handler) : Provider :=
  { Provider.passthrough "s3" with
    accepts := fun _ => true
    own := some (.act .hijack fun _ => rest) }

/-- It tries to take the sink again, answers and then fails. -/
def takingTwice : Provider :=
  taking (.act .hijack fun _ => .act (.send .healthy) fun _ => .done (.error (.handler "late")))

theorem exactly_one_response_of_taking_twice :
    ∃ (v : Bytes) (x : Exchange),
    let head := claiming (dated "20240101T120000Z") v
    let account := (serving takingTwice).handle .none false "request" head .empty
    (serving takingTwice).reached .none false "request" head .empty = .ok (takingTwice, x) ∧
      takingTwice.handler.hijacks (x.record (.ran "s3")) = 1 ∧
      account.outcome = .hijacked ∧ ∀ r, .handed .engine r ∉ account.events := by
  obtain ⟨v, x, hx⟩ := exists_reached takingTwice (fun _ => rfl) (dated "20240101T120000Z") rfl rfl
    .none false "request" .empty
  have hhijacks : takingTwice.handler.hijacks (x.record (.ran "s3")) = 1 := by
    obtain ⟨_, _, -, -, rfl⟩ := reached_eq_ok hx
    rfl
  obtain ⟨-, hreached, -⟩ := exactly_one_response (serving takingTwice) .none false "request"
    (claiming (dated "20240101T120000Z") v) .empty
  obtain ⟨-, -, -, htaken⟩ := hreached _ x hx
  exact ⟨v, x, hx, hhijacks, htaken hhijacks⟩

end Engine

end Countersign
