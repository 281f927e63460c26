import Countersign.Proofs.Body.Stream
import Countersign.Proofs.Engine.Conclusion
import Countersign.Proofs.Exchange.Delivery
import Countersign.Proofs.Forward.Address
import Countersign.Proofs.Provider.Classification
/-! What a request and its response lose on the way through the engine when a provider
leaves them alone: the headers of their connections, and the host and the signature of the
request, which are made anew. -/

namespace Countersign

open Countersign.Http
open HopByHop (Stripped strip)

/-! ## The usual handler -/

namespace Exchange

variable {x : Exchange} {origin target : Text} {asked : List Text}

theorem run_forwardTo_eq (x : Exchange) (origin : Text) :
    (Provider.forwardTo origin).run x =
      let y := x.recordAll ((x.context.resolve x.call.inboundHost origin).2.map .hostAsked)
      match (x.context.resolve x.call.inboundHost origin).1 with
      | .error f => (.error f, y)
      | .ok target => ((y.forward target []).1.1, (y.forward target []).2) := by
  have hlook : (Provider.forwardTo origin).run x = _ :=
    Program.run_bind (Program.perform .look) _ x
  refine hlook.trans ((Program.run_bind (Program.perform (.resolveTarget _ _)) _ x).trans ?_)
  have hcall : ((Program.perform .look).run x : Call × Exchange).1 = x.call := rfl
  have hresolve : (Program.perform (.resolveTarget x.call.inboundHost origin)).run x =
      ((x.context.resolve x.call.inboundHost origin).1,
        x.recordAll ((x.context.resolve x.call.inboundHost origin).2.map .hostAsked)) := rfl
  rw [hcall, hresolve]
  cases (x.context.resolve x.call.inboundHost origin).1 <;> rfl

theorem run_forwardTo
    (htarget : x.context.resolve x.call.inboundHost origin = (.ok target, asked)) :
    (Provider.forwardTo origin).run x =
      (((x.recordAll (asked.map .hostAsked)).forward target []).1.1,
        ((x.recordAll (asked.map .hostAsked)).forward target []).2) := by
  rw [run_forwardTo_eq, htarget]

end Exchange

/-! ## What leaves and what comes back -/

/-- A call that leaves changes its target, its host and its signature, and loses the
headers of its connection. -/
theorem Call.frame_of_prepare {c c' : Call} {target : Text} {o : Outbound}
    (h : c.prepare target = (.ok o, c')) :
    o.method = c.head.method ∧
      o.uri = .absolute c.route.scheme.name target (c.head.uri.pathQuery?.getD .root) ∧
      c.body = some o.body ∧
      ∀ n : Text, n ≠ "host" → n ≠ "authorization" → o.headers.values n =
        if Stripped c.head.headers n then [] else c.head.headers.values n := by
  obtain ⟨-, -, hheaders⟩ := outbound_of_prepare h
  obtain ⟨host, v, hset⟩ := headers_of_prepare h
  have hstripped := stripped_of_prepare h
  obtain ⟨_, uri, _, _, _, hbody, huri, -, -, -, hc⟩ := prepare_eq_ok h
  obtain ⟨ho, -⟩ := Prod.mk.inj hc
  refine ⟨ho ▸ rfl, ?_, ho ▸ hbody, fun n hhost hauth => ?_⟩
  · rw [ho]
    exact (Target.uri_eq_ok.1 huri).2
  · rw [hheaders, HopByHop.values_strip, hset, Headers.values_set, if_neg (Ne.symm hauth),
      Headers.values_set, if_neg (Ne.symm hhost), ← hset]
    exact if_congr (hstripped n) rfl rfl

/-- The request that an event is about, if one was sent. -/
def Event.outbound? : Event → Option Outbound
  | .forwarded o => some o
  | _ => none

namespace Exchange

variable {x : Exchange} {target : Text} {o : Outbound} {c : Call}

theorem forward_of_prepare (h : x.call.prepare target = (.ok o, c)) (bs : List Body) :
    (x.forward target bs).1 =
        ((({ x with call := c } : Exchange).record (.forwarded o)).dispatch o bs).1 ∧
      (x.forward target bs).2.call = c ∧
      (x.forward target bs).2.events = x.events ++ [.forwarded o] := by
  obtain ⟨plumbing, hdispatch⟩ :=
    dispatch_eq (({ x with call := c } : Exchange).record (.forwarded o)) o bs
  unfold forward
  rw [h]
  dsimp only
  rw [hdispatch]
  exact ⟨rfl, rfl, rfl⟩

/-- What an origin answers, as it is passed on. -/
def passedOn (status : Nat) (headers : Headers) (body : Source) : Response :=
  ⟨status, strip headers, .stream body.relayed⟩

theorem dispatch_answered {s reply : Source} {url : Url} {status : Nat} {headers : Headers}
    (hbody : o.body = .stream s) (hurl : Url.ofUri? o.uri = some url)
    (hlength : url.render.length ≤ Uri.maxBytes)
    (hanswer : x.transport x.sent o = .answered status headers reply) :
    (x.dispatch o []).1.1 = if s.fault? = none then .ok (passedOn status headers reply)
      else .error (.origin (.exchange url.render)) := by
  rw [← delivered_stream x hbody]
  unfold dispatch
  rw [hurl]
  dsimp only
  rw [if_neg (Nat.not_lt.2 hlength), hanswer]
  rfl

end Exchange

namespace Engine

variable {e : Engine} {transport : Transport} {gone : Bool} {id : Text} {head : RequestHead}
  {body : Source} {p : Provider} {x y : Exchange} {result : Except Failure Response}

/-- Before a provider starts nothing was sent. -/
theorem outbounds_of_reached (h : e.reached transport gone id head body = .ok (p, x)) :
    x.events.filterMap Event.outbound? = [] := by
  obtain ⟨credentials, services, -, hservices, rfl⟩ := reached_eq_ok h
  refine List.filterMap_eq_nil_iff.2 fun ev hev => ?_
  rcases List.mem_append.1 hev with hev | hev
  · exact nomatch hev
  rcases List.mem_append.1 hev with hev | hev
  · obtain ⟨keyId, rfl⟩ := keyAsked_authenticate e head ev hev
    rfl
  · obtain ⟨host, rfl⟩ := hservices ev hev
    rfl

/-- Whatever a handler returned that left the sink alone, the engine sends no request. -/
theorem outbounds_of_kept (h : e.reached transport gone id head body = .ok (p, x))
    (hrun : p.handler.run (x.record (.ran p.name)) = (result, y))
    (has : y.call.hasSink = true) (hijacked : y.call.hijacked = false) :
    (e.handle transport gone id head body).events.filterMap Event.outbound? =
      y.events.filterMap Event.outbound? := by
  obtain ⟨-, hevents⟩ := handle_of_ok h
  rw [hevents]
  cases result with
  | ok r =>
    rw [(runProvider_of_ok hrun has hijacked).2, List.filterMap_append]
    exact List.append_nil _
  | error f =>
    rw [(runProvider_of_error hrun has hijacked).2, List.filterMap_append]
    exact List.append_nil _

/-- A provider that leaves requests to the usual forwards them. -/
theorem run_of_usual (hown : p.own = none) (husual : p.override? (p.classify x.call) = none)
    {target : Text} {asked : List Text}
    (htarget : x.context.resolve x.call.inboundHost p.defaultOrigin = (.ok target, asked)) :
    p.handler.run (x.record (.ran p.name)) =
      let y := (x.record (.ran p.name)).recordAll (asked.map .hostAsked)
      ((y.forward target []).1.1, (y.forward target []).2) := by
  have hhandler : p.handler = p.usual := by rw [Provider.handler, hown, Option.getD_none]
  rw [hhandler, ObjectOperation.run_usual, show (x.record (.ran p.name)).call = x.call from rfl,
    husual, Option.getD_none]
  exact Exchange.run_forwardTo htarget

/-- The exchange in which such a provider forwards: all is as it was when the engine opened
it, and the call can be addressed to any authority. -/
theorem exists_forwarded (h : e.reached transport gone id head body = .ok (p, x))
    (hown : p.own = none) (husual : p.override? (p.classify x.call) = none) {target : Text}
    (htarget : (x.context.resolve x.call.inboundHost p.defaultOrigin).1 = .ok target)
    (hcheck : Authority.check target = .ok ()) :
    ∃ (y : Exchange) (o : Outbound) (c : Call),
      p.handler.run (x.record (.ran p.name)) =
        ((y.forward target []).1.1, (y.forward target []).2) ∧
      y.call.prepare target = (.ok o, c) ∧
      y.call.head = head ∧ y.call.body = some (.stream body) ∧ y.call.route = e.route ∧
      y.transport = transport ∧ y.sent = 0 ∧ y.events.filterMap Event.outbound? = [] ∧
      c.hasSink = true ∧ c.hijacked = false ∧ c.id = id := by
  obtain ⟨asked, hresolve⟩ : ∃ asked,
      x.context.resolve x.call.inboundHost p.defaultOrigin = (.ok target, asked) :=
    ⟨_, Prod.ext htarget rfl⟩
  have hrun := run_of_usual hown husual hresolve
  have hnone := outbounds_of_reached h
  obtain ⟨credentials, services, hauth, -, rfl⟩ := reached_eq_ok h
  obtain ⟨o, c, hprepare⟩ :=
    exists_prepared transport gone id target (.stream body) hauth
      (Target.uri_eq_ok.2 ⟨hcheck, rfl⟩) (Authority.value?_of_check hcheck)
  refine ⟨_, o, c, hrun, hprepare, rfl, rfl, rfl, rfl, rfl, ?_, ?_⟩
  · have hasked : (asked.map Event.hostAsked).filterMap Event.outbound? = [] := by
      rw [List.filterMap_map]
      exact List.filterMap_eq_nil_iff.2 fun _ _ => rfl
    rw [Exchange.recordAll, Exchange.record, List.filterMap_append, List.filterMap_append, hnone,
      hasked]
    rfl
  · obtain ⟨_, _, _, hsame, -⟩ := Call.prepare_eq _ target
    rw [hprepare] at hsame
    obtain rfl : c = _ := hsame
    exact ⟨rfl, rfl, rfl⟩

/-- Forwarding is transparent. Of a request that is left to the usual one request is sent:
it has the method, the path, the query and the body that came in, and under every name but
two either nothing, if the name concerns the connection only, or all that came in. What
the origin answers is put into the sink with the same status, under every name either
nothing or all that the origin sent, and the same chunks, followed by the fault of a body
that breaks off. -/
theorem forwarding_is_transparent (e : Engine) (transport : Transport) (gone : Bool) (id : Text)
    (head : RequestHead) (body : Source) (p : Provider) (x : Exchange) (target : Text)
    (h : e.reached transport gone id head body = .ok (p, x)) (hown : p.own = none)
    (husual : p.override? (p.classify x.call) = none)
    (htarget : (x.context.resolve x.call.inboundHost p.defaultOrigin).1 = .ok target)
    (hcheck : Authority.check target = .ok ()) :
    let account := e.handle transport gone id head body
    ∃ o : Outbound, account.events.filterMap Event.outbound? = [o] ∧
      o.method = head.method ∧
      o.uri = .absolute e.route.scheme.name target (head.uri.pathQuery?.getD .root) ∧
      o.body = .stream body ∧
      (∀ y : Exchange, (y.readTogether [o.body]).1 = [(body.chunks.flatten, body.ending)]) ∧
      (∀ n : Text, n ≠ "host" → n ≠ "authorization" → o.headers.values n =
        if Stripped head.headers n then [] else head.headers.values n) ∧
      ∀ url status headers reply, Url.ofUri? o.uri = some url →
        url.render.length ≤ Uri.maxBytes → transport 0 o = .answered status headers reply →
        (body.fault? = none → account.outcome = .streamed status ∧
          ∃ r s, sinkEvents account.events = [.handed .engine r] ∧ r.status = status ∧
            (∀ n, r.headers.values n = if Stripped headers n then [] else headers.values n) ∧
            r.body = .stream s ∧ s.chunks = reply.chunks ∧
            s.fault? = reply.fault?.map Source.relayedFault ∧ s.endless = reply.endless) ∧
        (body.fault? ≠ none → sinkEvents account.events =
          [.handed .engine (.ofFailure id (.origin (.exchange url.render)))]) := by
  intro account
  obtain ⟨y, o, c, hrun, hprepare, hhead, hybody, hroute, htransport, hsent, hnone, has, hijacked,
    hid⟩ := exists_forwarded h hown husual htarget hcheck
  obtain ⟨hmethod, huri, hbody, hheaders⟩ := Call.frame_of_prepare hprepare
  obtain ⟨hresult, hc, hevents⟩ := Exchange.forward_of_prepare hprepare []
  rw [hhead] at hmethod huri hheaders
  rw [hroute] at huri
  rw [← hc] at has hijacked hid
  have hobody : o.body = .stream body := Option.some.inj (hbody.symm.trans hybody)
  refine ⟨o, ?_, hmethod, huri, hobody, fun z => ?_, hheaders, ?_⟩
  · rw [outbounds_of_kept h hrun has hijacked, hevents, List.filterMap_append, hnone]
    rfl
  · rw [hobody]
    exact z.readTogether_stream body
  · intro url status headers reply hurl hlength hanswer
    rw [← htransport, ← hsent] at hanswer
    have hdispatch := Exchange.dispatch_answered
      (x := ({ y with call := c } : Exchange).record (.forwarded o)) hobody hurl hlength hanswer
    rw [← hresult] at hdispatch
    obtain ⟨-, r, hsink, hkept⟩ := handle_of_kept h hrun hijacked
    refine ⟨fun hwhole => ?_, fun hbroken => ?_⟩
    · rw [if_pos hwhole] at hdispatch
      rcases hkept with ⟨hok, houtcome⟩ | ⟨f, herror, -⟩
      · obtain rfl := Except.ok.inj (hok.symm.trans hdispatch)
        exact ⟨houtcome, _, reply.relayed, hsink, rfl, HopByHop.values_strip headers, rfl,
          Source.chunks_relayed reply, Source.fault?_relayed reply, rfl⟩
      · exact nomatch herror.symm.trans hdispatch
    · rw [if_neg hbroken] at hdispatch
      rcases hkept with ⟨hok, -⟩ | ⟨f, herror, hr, -⟩
      · exact nomatch hok.symm.trans hdispatch
      · obtain rfl := Except.error.inj (herror.symm.trans hdispatch)
        rw [hsink, hr, hid]

/-- A header that is repeated, one that the client nominates, and a reply that breaks off. -/
theorem forwarding_is_transparent_of_broken_reply :
    let p : Provider :=
      { Provider.passthrough "s3" with accepts := fun _ => true, defaultOrigin := "two.test" }
    let note (v : String) : Header := ⟨"x-note", Text.Utf8.encode v⟩
    let body : Source := ⟨[.ok (.data [1]), .ok (.trailers []), .ok (.data [2, 3])], false⟩
    let reply : Source := ⟨[.ok (.data [4]), .error ⟨.connectionReset, "cut"⟩], false⟩
    let transport : Transport := fun _ _ => .answered 200 [note "4", note "5"] reply
    let head : RequestHead := { dated "20240101T120000Z" with
      headers := (dated "20240101T120000Z").headers ++
        [note "1", ⟨"connection", Text.Utf8.encode "x-hop"⟩, ⟨"x-hop", [0x2a]⟩, note "2"] }
    ∃ (v : Bytes) (x : Exchange) (o : Outbound) (r : Response) (s : Source),
      (serving p).reached transport false "request" (claiming head v) body = .ok (p, x) ∧
      p.override? (p.classify x.call) = none ∧ Authority.check "two.test" = .ok () ∧
      let account := (serving p).handle transport false "request" (claiming head v) body
      account.events.filterMap Event.outbound? = [o] ∧
      o.headers.values "x-note" = [Text.Utf8.encode "1", Text.Utf8.encode "2"] ∧
      o.headers.values "x-hop" = [] ∧
      sinkEvents account.events = [.handed .engine r] ∧ r.status = 200 ∧
      r.headers.values "x-note" = [Text.Utf8.encode "4", Text.Utf8.encode "5"] ∧
      r.body = .stream s ∧ s.chunks = [[4]] ∧ s.fault? = some ⟨.other, "cut"⟩ := by
  intro p note body reply transport head
  obtain ⟨v, x, h⟩ :=
    exists_reached p (fun _ => rfl) head rfl rfl transport false "request" body
  have htarget : (x.context.resolve x.call.inboundHost p.defaultOrigin).1 = .ok "two.test" := by
    obtain ⟨_, _, -, -, rfl⟩ := reached_eq_ok h
    rfl
  obtain ⟨o, hsent, -, huri, -, -, hheaders, hreply⟩ := forwarding_is_transparent (serving p)
    transport false "request" (claiming head v) body p x "two.test" h rfl rfl htarget rfl
  obtain ⟨url, hurl, hlength⟩ : ∃ url, Url.ofUri? (.absolute "https" "two.test" ⟨"/key", none⟩) =
      some url ∧ url.render.length ≤ Uri.maxBytes := ⟨_, rfl, by decide +kernel⟩
  obtain ⟨hwhole, -⟩ := hreply url 200 _ reply ((congrArg _ huri).trans hurl) hlength rfl
  obtain ⟨-, r, s, hsink, hstatus, hrheaders, hs, hchunks, hfault, -⟩ := hwhole rfl
  -- The value that was put in is neither nominated nor nominates.
  have hstripped : ∀ n, Stripped (claiming head v).headers n ↔ Stripped head.headers n := fun n =>
    HopByHop.stripped_set (by decide)
  have hvalues : ∀ n : Text, n ≠ "authorization" →
      (claiming head v).headers.values n = head.headers.values n := fun n hn =>
    (Headers.values_set ..).trans (if_neg (Ne.symm hn))
  refine ⟨v, x, o, r, s, h, rfl, rfl, hsent, ?_, ?_, hsink, hstatus, ?_, hs, hchunks, hfault⟩
  · rw [hheaders _ (by decide) (by decide), if_neg (by rw [hstripped]; decide +kernel),
      hvalues _ (by decide)]
    decide +kernel
  · rw [hheaders _ (by decide) (by decide), if_pos ((hstripped _).2 (by decide +kernel))]
  · rw [hrheaders]
    decide +kernel

end Engine

end Countersign
