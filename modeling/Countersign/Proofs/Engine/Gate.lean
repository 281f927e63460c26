import Countersign.Proofs.Engine.Conclusion
import Countersign.Proofs.Engine.Stages
import Countersign.Proofs.Front.Report
/-! The gate: nothing is done for a request before it is verified, and what is verified is
what is served. -/

namespace Countersign

open Countersign.Http
open Countersign.Signature

/-- A question to the table of keys. -/
def Event.asksKey : Event → Bool
  | .keyAsked _ => true
  | _ => false

/-- The account goes on, and no further key is asked for. -/
def AsksNoMore (es fs : List Event) : Prop :=
  ∃ rest, fs = es ++ rest ∧ ∀ ev ∈ rest, ev.asksKey = false

namespace AsksNoMore

variable {es fs gs rest : List Event} {ev : Event}

theorem refl (es : List Event) : AsksNoMore es es := ⟨[], (List.append_nil es).symm, nofun⟩

theorem append (es : List Event) (h : ∀ ev ∈ rest, ev.asksKey = false) :
    AsksNoMore es (es ++ rest) := ⟨rest, rfl, h⟩

theorem concat (es : List Event) (h : ev.asksKey = false) : AsksNoMore es (es ++ [ev]) := by
  apply append
  intro other hother
  rwa [List.mem_singleton.1 hother]

theorem trans (h : AsksNoMore es fs) (h' : AsksNoMore fs gs) : AsksNoMore es gs := by
  obtain ⟨rest, rfl, hrest⟩ := h
  obtain ⟨more, rfl, hmore⟩ := h'
  refine ⟨rest ++ more, List.append_assoc .., ?_⟩
  intro ev hev
  rcases List.mem_append.1 hev with hev | hev
  · exact hrest ev hev
  · exact hmore ev hev

end AsksNoMore

/-- What happens only for a request that was verified. -/
def Event.BehindGate : Event → Prop
  | .keyAsked _ | .handed .engine _ => False
  | _ => True

namespace Engine

variable {e : Engine} {head : RequestHead} {claim : Claim} {secret : Text}

/-- Nothing but the claim and its key decides about a request that is turned down. -/
theorem handle_of_rejected {f : Failure} {asked : List Event}
    (h : e.authenticate head = (.error f, asked)) (transport : Transport) (gone : Bool) (id : Text)
    (body : Source) : e.handle transport gone id head body =
      ⟨.failed f.status, asked ++ [.handed .engine (.ofFailure id f)], []⟩ := by
  simp only [handle, h]

/-! ## The one question for a key -/

theorem asksKey_of_says {a : Action} {ev : Event} (h : a.Says ev) : ev.asksKey = false := by
  cases a with
  | resolveTarget host fallback =>
    obtain ⟨key, rfl⟩ := h
    rfl
  | forward target bs =>
    obtain ⟨o, rfl⟩ := h
    rfl
  | send r =>
    obtain rfl : ev = .handed .handler r := h
    rfl
  | dropSink =>
    obtain rfl : ev = .sinkDropped := h
    rfl
  | note n =>
    obtain rfl : ev = .noted n := h
    rfl
  | _ => exact h.elim

theorem asksNoMore_run {α : Type} (p : Program α) (x : Exchange) :
    AsksNoMore x.events (p.run x).2.events := by
  obtain ⟨es, hes, hkind⟩ := Program.events_run p x
  rw [hes]
  apply AsksNoMore.append
  intro ev hev
  obtain ⟨a, ha⟩ := hkind ev hev
  exact asksKey_of_says ha

theorem asksNoMore_conclude (x : Exchange) (ifGone ifHanded : Outcome) (r : Response) :
    AsksNoMore x.events (conclude x ifGone ifHanded r).2.events := by
  unfold conclude
  dsimp only
  split
  · exact .concat _ rfl
  · exact .refl _

/-- No key is asked for once a provider has started. -/
theorem asksNoMore_runProvider (p : Provider) (x : Exchange) :
    AsksNoMore x.events (runProvider p x).2.events := by
  obtain ⟨result, y, hrun⟩ : ∃ result y, p.handler.run (x.record (.ran p.name)) = (result, y) :=
    ⟨_, _, rfl⟩
  have hstart : AsksNoMore x.events (x.record (.ran p.name)).events := .concat _ rfl
  have hhandler := asksNoMore_run p.handler (x.record (.ran p.name))
  rw [hrun] at hhandler
  apply (hstart.trans hhandler).trans
  cases hijacked : y.call.hijacked with
  | true =>
    rw [(runProvider_of_hijacked hrun hijacked).2]
    exact .refl _
  | false =>
    have hcall : y.call.detach.hijacked = false := hijacked
    simp only [runProvider, hrun, hcall]
    cases result with
    | ok r => exact asksNoMore_conclude { y with call := y.call.detach } _ _ r
    | error f => exact asksNoMore_conclude { y with call := y.call.detach } _ _ _

/-- After the authentication no key is asked for. -/
theorem asksNoMore_handle (e : Engine) (transport : Transport) (gone : Bool) (id : Text)
    (head : RequestHead) (body : Source) :
    AsksNoMore (e.authenticate head).2 (e.handle transport gone id head body).events := by
  have hservices : ∀ services : List Event, (∀ ev ∈ services, ∃ host, ev = .serviceAsked host) →
      AsksNoMore (e.authenticate head).2 ((e.authenticate head).2 ++ services) := by
    intro services h
    apply AsksNoMore.append
    intro ev hev
    obtain ⟨host, rfl⟩ := h ev hev
    rfl
  cases h : e.reached transport gone id head body with
  | error f =>
    obtain ⟨services, hasked, -, hevents⟩ := handle_of_error h
    rw [hevents]
    exact (hservices services hasked).trans (.concat _ rfl)
  | ok found =>
    obtain ⟨p, x⟩ := found
    obtain ⟨-, hevents⟩ := handle_of_ok h
    obtain ⟨credentials, services, -, hasked, hx⟩ := reached_eq_ok h
    have hbefore : x.events = (e.authenticate head).2 ++ services := by rw [hx]; rfl
    have hprovider := asksNoMore_runProvider p x
    rw [hevents]
    rw [hbefore] at hprovider
    exact (hservices services hasked).trans hprovider

/-! ## The gate -/

theorem admits_of_reached {transport : Transport} {gone : Bool} {id : Text} {body : Source}
    {p : Provider} {x : Exchange} (h : e.reached transport gone id head body = .ok (p, x)) :
    ∃ claim secret, Admits e head claim secret := by
  obtain ⟨credentials, services, hauth, -, -⟩ := reached_eq_ok h
  obtain ⟨claim, hclaim, hkey, hverify, -⟩ := authenticate_eq_ok.1 hauth
  exact ⟨claim, credentials.secret, hclaim, hkey, hverify⟩

/-- What is given to a provider is what was verified. -/
theorem call_of_reached {transport : Transport} {gone : Bool} {id : Text} {body : Source}
    {p : Provider} {x : Exchange} (h : e.reached transport gone id head body = .ok (p, x))
    (hadmits : Admits e head claim secret) :
    x.call.head = head ∧ x.call.body = some (.stream body) ∧ x.call.inboundHost = claim.host ∧
      x.call.credentials = ⟨claim.authorization, claim.timestamp, secret⟩ := by
  obtain ⟨credentials, services, hauth, -, rfl⟩ := reached_eq_ok h
  rw [authenticate_of_admits hadmits] at hauth
  obtain rfl := Except.ok.inj hauth
  refine ⟨rfl, rfl, ?_, rfl⟩
  have hhost : head.host?.getD [] = claim.host := by rw [hadmits.claims.host, Option.getD_some]
  exact hhost

theorem asked_of_authenticate (e : Engine) (head : RequestHead) :
    (e.authenticate head).2 = [] ∨ ∃ claim, Claims head claim ∧
      (e.authenticate head).2 = [.keyAsked claim.authorization.credential.keyId] := by
  unfold authenticate
  cases h : claimOf head with
  | error f => exact .inl rfl
  | ok claim => exact .inr ⟨claim, claimOf_eq_ok.1 h, rfl⟩

/-- What happens behind the gate happens for a verified request. -/
theorem admits_of_behindGate {transport : Transport} {gone : Bool} {id : Text} {body : Source}
    {ev : Event} (hev : ev ∈ (e.handle transport gone id head body).events)
    (hbehind : ev.BehindGate) : ∃ claim secret, Admits e head claim secret := by
  by_cases hadmits : ∃ claim secret, Admits e head claim secret
  · exact hadmits
  · obtain ⟨stage, hfirst⟩ := firstFails_iff.2 hadmits
    obtain ⟨f, asked, hauth, -⟩ := refuses_of_firstFails hfirst
    have hkeys := keyAsked_authenticate e head
    rw [hauth] at hkeys
    rw [handle_of_rejected hauth] at hev
    rcases List.mem_append.1 hev with hev | hev
    · obtain ⟨keyId, rfl⟩ := hkeys ev hev
      exact hbehind.elim
    · rw [List.mem_singleton.1 hev] at hbehind
      exact hbehind.elim

theorem respond_of_rejected {s : Front.Service} {f : Failure} {asked : List Event}
    (hhead : Front.isHealthCheck head = false)
    (h : s.engine.authenticate head = (.error f, asked)) (id : Text) (body : Source) :
    (Front.respond s id head body).1 = .ofFailure id f := by
  have hreached : s.engine.reached s.transport false id head body = .error f := by
    simp only [reached, h]
  rw [respond_eq hhead, (gives_of_handed (sinkEvents_of_error hreached)).1, Option.getD_some]

/-- Nothing is done for a request that is not verified. The tables of services and hosts,
the providers and the origins come after the gate; what a provider gets is what was
verified, and the host is the one that the signature was held against. Any other request
has one first fault, with whose status and code it is answered, and neither the rest of the
engine nor the origins have any part in it. -/
theorem nothing_before_authentication (s : Front.Service) (id : Text) (head : RequestHead)
    (body : Source) (hhead : ¬ (head.method = "GET" ∧ head.uri.path = "/.internal/hc")) :
    let e := s.engine
    let account := e.handle s.transport false id head body
    (Front.respond s id head body).2 = some account ∧
    (∀ ev ∈ account.events, ev.BehindGate → ∃ claim secret, Admits e head claim secret) ∧
    (∀ p x, e.reached s.transport false id head body = .ok (p, x) →
      ∃ claim secret, Admits e head claim secret ∧
        x.call.head = head ∧ x.call.body = some (.stream body) ∧
        x.call.inboundHost = claim.host ∧
        x.call.credentials = ⟨claim.authorization, claim.timestamp, secret⟩) ∧
    (∃ asked rest, account.events = asked ++ rest ∧ (∀ ev ∈ rest, ev.asksKey = false) ∧
      (asked = [] ∨ ∃ claim, Claims head claim ∧
        asked = [.keyAsked claim.authorization.credential.keyId])) ∧
    ((¬ ∃ claim secret, Admits e head claim secret) → ∃! stage, FirstFails e head stage) ∧
    ∀ stage, FirstFails e head stage →
      ∃ f asked, f.status = stage.status ∧ f.code = stage.code ∧
        (Front.respond s id head body).1 = .ofFailure id f ∧
        (Front.respond s id head body).1.Reports id stage.status stage.code f.message ∧
        account.outcome = .failed stage.status ∧
        account.events = asked ++ [.handed .engine (.ofFailure id f)] ∧
        (stage.rank < 5 → asked = []) ∧
        (5 ≤ stage.rank → ∃ claim, Claims head claim ∧
          asked = [.keyAsked claim.authorization.credential.keyId]) ∧
        ∀ e' : Engine, e'.keys = e.keys → ∀ transport gone body',
          e'.handle transport gone id head body' = account := by
  intro e account
  have hengine : Front.isHealthCheck head = false := Front.isHealthCheck_eq_false.2 hhead
  refine ⟨?_, ?_, ?_, ?_, ?_, ?_⟩
  · rw [Front.respond, hengine]
    rfl
  · intro ev hev hbehind
    exact admits_of_behindGate hev hbehind
  · intro p x hx
    obtain ⟨claim, secret, hadmits⟩ := admits_of_reached hx
    exact ⟨claim, secret, hadmits, call_of_reached hx hadmits⟩
  · obtain ⟨rest, hrest, hnone⟩ := asksNoMore_handle e s.transport false id head body
    exact ⟨_, rest, hrest, hnone, asked_of_authenticate e head⟩
  · intro hnot
    obtain ⟨stage, hfirst⟩ := firstFails_iff.2 hnot
    exact ⟨stage, hfirst, fun other hother => hother.unique hfirst⟩
  · intro stage hfirst
    obtain ⟨f, asked, hauth, hstatus, hcode, hearly, hlate⟩ := refuses_of_firstFails hfirst
    have haccount : account =
        ⟨.failed f.status, asked ++ [.handed .engine (.ofFailure id f)], []⟩ :=
      handle_of_rejected hauth s.transport false id body
    have hanswer := respond_of_rejected hengine hauth id body
    rw [haccount, ← hstatus, ← hcode]
    refine ⟨f, asked, rfl, rfl, hanswer, hanswer ▸ Response.reports_ofFailure id f, rfl, rfl,
      hearly, hlate, ?_⟩
    intro e' hkeys transport gone body'
    have hsame : e'.authenticate head = (.error f, asked) := by
      rw [← hauth]
      simp only [authenticate, hkeys]
    exact handle_of_rejected hsame transport gone id body'

/-- A request with an algorithm that nobody knows, no time and no host. -/
def faulty : RequestHead :=
  ⟨"GET", .relative ⟨"/bucket/key", none⟩,
    [⟨"authorization", Text.Utf8.encode "AWS3 Credential=AKID"⟩,
     ⟨"x-amz-date", Text.Utf8.encode "today"⟩]⟩

theorem firstFails_faulty : FirstFails sample faulty .form := by
  have hv : faulty.headers.first? "authorization" =
      some (Text.Utf8.encode "AWS3 Credential=AKID") := by decide
  have ht : Header.text? (Text.Utf8.encode "AWS3 Credential=AKID") =
      some "AWS3 Credential=AKID" := by decide +kernel
  refine ⟨.form hv ht rfl, ?_⟩
  intro t hrank hfails
  cases hfails with
  | missing hnone =>
    rw [hv] at hnone
    cases hnone
  | text hw hnone =>
    obtain rfl := Option.some.inj (hv.symm.trans hw)
    rw [ht] at hnone
    cases hnone
  | _ => exact absurd hrank (by decide)

/-- Of several faults the first is reported, and no key is asked for. And a request that is
signed comes to its provider as it was verified. -/
theorem nothing_before_authentication_of_faulty :
    (¬ (faulty.method = "GET" ∧ faulty.uri.path = "/.internal/hc") ∧
      FirstFails sample faulty .form ∧ Fails sample faulty .host ∧
      ∃ f : Failure, f.status = 400 ∧ f.code = "AuthorizationHeaderMalformed" ∧
        (Front.respond ⟨sample, .none⟩ "request" faulty .empty).1 = .ofFailure "request" f ∧
        (Front.respond ⟨sample, .none⟩ "request" faulty .empty).1.Reports "request" 400
          "AuthorizationHeaderMalformed" f.message ∧
        (sample.handle .none false "request" faulty .empty).events =
          [.handed .engine (.ofFailure "request" f)]) ∧
    ∃ v x claim secret,
      let head := claiming (dated "20240101T120000Z") v
      let p := taking (.done (.ok .healthy))
      (serving p).reached .none false "request" head .empty = .ok (p, x) ∧
        Admits (serving p) head claim secret ∧ x.call.head = head ∧
        x.call.inboundHost = claim.host := by
  constructor
  · have hhead : ¬ (faulty.method = "GET" ∧ faulty.uri.path = "/.internal/hc") := by decide
    obtain ⟨-, -, -, -, -, hrejected⟩ :=
      nothing_before_authentication ⟨sample, .none⟩ "request" faulty .empty hhead
    obtain ⟨f, asked, hstatus, hcode, hanswer, hreports, -, hevents, hearly, -⟩ :=
      hrejected .form firstFails_faulty
    rw [hearly (by decide)] at hevents
    exact ⟨hhead, firstFails_faulty, .host rfl, f, hstatus, hcode, hanswer, hreports, hevents⟩
  · obtain ⟨v, x, hx⟩ := exists_reached (taking (.done (.ok .healthy))) (fun _ => rfl)
      (dated "20240101T120000Z") rfl rfl .none false "request" .empty
    obtain ⟨-, -, hreached, -⟩ := nothing_before_authentication
      ⟨serving (taking (.done (.ok .healthy))), .none⟩ "request"
      (claiming (dated "20240101T120000Z") v) .empty (Front.isHealthCheck_eq_false.1 rfl)
    obtain ⟨claim, secret, hadmits, hcall, -, hhost, -⟩ := hreached _ x hx
    exact ⟨v, x, claim, secret, hx, hadmits, hcall, hhost⟩

end Engine

end Countersign
