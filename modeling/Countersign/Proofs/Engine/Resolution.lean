import Countersign.Proofs.Engine.Forwarding
import Countersign.Proofs.Provider.Choice
/-! Where a request goes. The service table is asked for the keys of the host until an answer
names a provider, or else the first provider that accepts the request has it; a provider that
forwards asks the host table for the same keys. A lookup that fails ends the request where it
fails. -/

namespace Countersign

open Countersign.Http
open Text (lower)
open Target (candidates Ported)

/-- The key that the service table or the host table is asked for. -/
def Event.key? : Event → Option (Text ⊕ Text)
  | .serviceAsked key => some (.inl key)
  | .hostAsked key => some (.inr key)
  | _ => none

/-- A provider that does nothing with a call but forward it. -/
structure Provider.Forwards (p : Provider) (c : Call) : Prop where
  own : p.own = none
  usual : p.override? (p.classify c) = none

/-! ## Forwarding to what is found -/

namespace Exchange

variable {p : Provider} {x : Exchange} {asked : List Text} {found : Except Text (Option Text)}

/-- What a provider that forwards does with what the host table says. -/
def directed (x : Exchange) (origin : Text) (asked : List Text) :
    Except Text (Option Text) → Except Failure Response × Exchange
  | .error detail => (.error (.lookup detail), x.recordAll (asked.map .hostAsked))
  | .ok answer =>
    let y := x.recordAll (asked.map .hostAsked)
    ((y.forward (answer.getD origin) []).1.1, (y.forward (answer.getD origin) []).2)

theorem run_of_forwards (hp : p.Forwards x.call)
    (h : Asking x.context.hosts some (candidates x.call.inboundHost) found asked) :
    p.handler.run x = x.directed p.defaultOrigin asked found := by
  rw [Provider.handler, hp.own, Option.getD_none, ObjectOperation.run_usual, hp.usual,
    Option.getD_none, run_forwardTo_eq, Context.resolve_eq h]
  cases found <;> rfl

/-- Forwarding asks for nothing. -/
theorem keys_directed (x : Exchange) (origin : Text) (asked : List Text)
    (found : Except Text (Option Text)) :
    (x.directed origin asked found).2.events.filterMap Event.key? =
      x.events.filterMap Event.key? ++ asked.map .inr := by
  have hasked : (asked.map Event.hostAsked).filterMap Event.key? = asked.map .inr := by
    rw [List.filterMap_map]
    exact congrFun List.filterMap_eq_map asked
  cases found with
  | error detail => exact (List.filterMap_append ..).trans (congrArg _ hasked)
  | ok answer =>
    obtain ⟨_, _, es, hes, hforward⟩ :=
      forward_eq (x.recordAll (asked.map .hostAsked)) (answer.getD origin) []
    have hnone : es.filterMap Event.key? = [] := by
      refine List.filterMap_eq_nil_iff.2 fun ev hev => ?_
      obtain ⟨o, rfl⟩ := hes ev hev
      rfl
    rw [directed, hforward]
    simp only [recordAll, List.filterMap_append, hasked, hnone, List.append_nil]

end Exchange

namespace Engine

variable {e : Engine} {transport : Transport} {gone : Bool} {id : Text} {head : RequestHead}
  {body : Source} {p : Provider} {x : Exchange} {asked : List Text}

/-- When a provider is done, the engine asks for nothing. -/
theorem keys_runProvider (p : Provider) (x : Exchange) :
    (runProvider p x).2.events.filterMap Event.key? =
      (p.handler.run (x.record (.ran p.name))).2.events.filterMap Event.key? := by
  have hconclude : ∀ (x : Exchange) (ifGone ifHanded : Outcome) (r : Response),
      (conclude x ifGone ifHanded r).2.events.filterMap Event.key? =
        x.events.filterMap Event.key? := by
    intro x ifGone ifHanded r
    unfold conclude
    dsimp only
    split
    · exact (List.filterMap_append ..).trans (List.append_nil _)
    · rfl
  unfold runProvider
  dsimp only
  split
  · rfl
  · split
    · exact hconclude ..
    · exact hconclude ..

/-- A host table that fails ends the request there, and nothing is sent. -/
theorem handle_of_failed_lookup {detail : Text}
    (h : e.reached transport gone id head body = .ok (p, x)) (hp : p.Forwards x.call)
    (hfound : Asking x.context.hosts some (candidates x.call.inboundHost) (.error detail) asked) :
    (e.handle transport gone id head body).outcome = .failed 500 ∧
      (e.handle transport gone id head body).events = x.events ++ [.ran p.name] ++
        asked.map .hostAsked ++ [.handed .engine (.ofFailure id (.lookup detail))] := by
  have hrun := Exchange.run_of_forwards (x := x.record (.ran p.name)) hp hfound
  obtain ⟨credentials, services, -, -, rfl⟩ := reached_eq_ok h
  obtain ⟨houtcome, hevents⟩ := handle_of_ok h
  obtain ⟨hout, hev⟩ := runProvider_of_error hrun rfl rfl
  rw [houtcome, hevents, hout, hev]
  exact ⟨rfl, rfl⟩

/-- Before a provider starts, the service table was asked. -/
theorem keys_before (e : Engine) (head : RequestHead) (asked : List Text) (p : Provider) :
    ((e.authenticate head).2 ++ asked.map Event.serviceAsked ++ [Event.ran p.name]).filterMap
      Event.key? = asked.map .inl := by
  have hauth : (e.authenticate head).2.filterMap Event.key? = [] := by
    refine List.filterMap_eq_nil_iff.2 fun ev hev => ?_
    obtain ⟨keyId, rfl⟩ := keyAsked_authenticate e head ev hev
    rfl
  have hasked : (asked.map Event.serviceAsked).filterMap Event.key? = asked.map .inl := by
    rw [List.filterMap_map]
    exact congrFun List.filterMap_eq_map asked
  rw [List.filterMap_append, List.filterMap_append, hauth, hasked]
  exact List.append_nil _

/-- Where a request goes that was taken and is opened as `x`. -/
structure Resolves (e : Engine) (transport : Transport) (gone : Bool) (id : Text)
    (head : RequestHead) (body : Source) (x : Exchange) : Prop where
  host : head.host? = some x.call.inboundHost
  keys : (∀ name, Ported (lower x.call.inboundHost) name →
      candidates x.call.inboundHost = [lower x.call.inboundHost, name]) ∧
    ((∀ name, ¬ Ported (lower x.call.inboundHost) name) →
      candidates x.call.inboundHost = [lower x.call.inboundHost])
  decided : ∃ result asked, e.Chosen x.call result asked
  /-- A provider is chosen, and it runs. -/
  served : ∀ p asked, e.Chosen x.call (.ok p) asked →
    let y := x.recordAll ((e.authenticate head).2 ++ asked.map .serviceAsked)
    (e.handle transport gone id head body).outcome = (runProvider p y).1 ∧
      (e.handle transport gone id head body).events = (runProvider p y).2.events
  /-- None is chosen, or the table fails, and none runs. -/
  refused : ∀ f asked, e.Chosen x.call (.error f) asked →
    (e.handle transport gone id head body).outcome = .failed f.status ∧
      (e.handle transport gone id head body).events = (e.authenticate head).2 ++
        asked.map .serviceAsked ++ [.handed .engine (.ofFailure id f)]
  /-- A provider that forwards goes by the host table. -/
  forwarded : ∀ p asked, e.Chosen x.call (.ok p) asked → p.Forwards x.call →
    ∃ found hosts, Asking e.hosts some (candidates x.call.inboundHost) found hosts ∧
      (let y := x.recordAll ((e.authenticate head).2 ++ asked.map .serviceAsked)
        |>.record (.ran p.name)
      p.handler.run y = y.directed p.defaultOrigin hosts found) ∧
      (e.handle transport gone id head body).events.filterMap Event.key? =
        asked.map .inl ++ hosts.map .inr ∧
      ∀ detail, found = .error detail →
        (e.handle transport gone id head body).outcome = .failed 500 ∧
          (e.handle transport gone id head body).events = (e.authenticate head).2 ++
            asked.map .serviceAsked ++ [.ran p.name] ++ hosts.map .hostAsked ++
            [.handed .engine (.ofFailure id (.lookup detail))]

theorem resolves_of_authenticated {credentials : Credentials}
    (hauth : (e.authenticate head).1 = .ok credentials) :
    e.Resolves transport gone id head body
      (e.openExchange transport gone id head (.stream body) credentials) where
  host := by
    obtain ⟨claim, hclaim, -⟩ := authenticate_eq_ok.1 hauth
    have hhost := hclaim.host
    rw [hhost]
    exact congrArg some (congrArg (·.getD []) hhost).symm
  keys := ⟨fun _ => Target.candidates_of_ported, Target.candidates_of_unported⟩
  decided := exists_chosen ..
  served := fun p asked h =>
    handle_of_ok (reached_of_provider hauth h.provider_eq)
  refused := fun f asked h => handle_of_nowhere hauth h.provider_eq
  forwarded := by
    intro p asked h hp
    have hreached : e.reached transport gone id head body = .ok (p, _) :=
      reached_of_provider hauth h.provider_eq
    obtain ⟨found, hosts, hfound⟩ := exists_asking e.hosts some (candidates (head.host?.getD []))
    let y := (e.openExchange transport gone id head (.stream body) credentials).recordAll
      ((e.authenticate head).2 ++ asked.map .serviceAsked) |>.record (.ran p.name)
    have hrun : p.handler.run y = y.directed p.defaultOrigin hosts found :=
      Exchange.run_of_forwards hp hfound
    have hbefore : y.events.filterMap Event.key? = asked.map .inl := keys_before e head asked p
    refine ⟨found, hosts, hfound, hrun, ?_, ?_⟩
    · rw [(handle_of_ok hreached).2, keys_runProvider, hrun, Exchange.keys_directed, hbefore]
    · rintro detail rfl
      exact handle_of_failed_lookup hreached hp hfound

/-- A request that was taken goes to the provider that the service table names under the first
key of its host, to the first one that accepts it, or to none; and by the host table to the
origin that it names under the first key, or to the provider's own. A lookup that fails is the
end of it. Where providers go by name, capitals in the host make no difference: to the
provider, to the origin, and to the keys that the two tables are asked for. -/
theorem requests_go_by_host (e : Engine) (transport : Transport) (gone : Bool) (id : Text)
    (head : RequestHead) (body : Source) (credentials : Credentials)
    (hauth : (e.authenticate head).1 = .ok credentials) :
    let x := e.openExchange transport gone id head (.stream body) credentials
    e.Resolves transport gone id head body x ∧
    ∀ (transport' : Transport) (gone' : Bool) (id' : Text) (head' : RequestHead) (body' : Source)
      (credentials' : Credentials), (e.authenticate head').1 = .ok credentials' →
      let x' := e.openExchange transport' gone' id' head' (.stream body') credentials'
      (∀ p ∈ e.registry.providers, p.ByName) →
      lower x.call.inboundHost = lower x'.call.inboundHost →
      (∀ result asked, e.Chosen x.call result asked →
        e.Chosen x'.call (result.mapError (.atHost x'.call.inboundHost)) asked) ∧
      (∀ fallback, x.context.resolve x.call.inboundHost fallback =
        x'.context.resolve x'.call.inboundHost fallback) ∧
      ∀ p asked, e.Chosen x.call (.ok p) asked → p.Forwards x.call → p.Forwards x'.call →
        (e.handle transport gone id head body).events.filterMap Event.key? =
          (e.handle transport' gone' id' head' body').events.filterMap Event.key? := by
  intro x
  have hx : e.Resolves transport gone id head body x := resolves_of_authenticated hauth
  refine ⟨hx, ?_⟩
  intro transport' gone' id' head' body' credentials' hauth' x' hnames hhost
  have hx' : e.Resolves transport' gone' id' head' body' x' := resolves_of_authenticated hauth'
  have hkeys := Target.candidates_congr hhost
  refine ⟨fun result asked h => h.congr hnames hhost, fun fallback => ?_, ?_⟩
  · obtain ⟨found, hosts, hfound⟩ := exists_asking e.hosts some (candidates x.call.inboundHost)
    rw [Context.resolve_eq (c := x.context) hfound,
      Context.resolve_eq (c := x'.context) (hkeys ▸ hfound)]
  · intro p asked h hp hp'
    obtain ⟨found, hosts, hfound, -, haccount, -⟩ := hx.forwarded p asked h hp
    obtain ⟨found', hosts', hfound', -, haccount', -⟩ :=
      hx'.forwarded p asked (h.congr hnames hhost) hp'
    rw [haccount, haccount', (hfound.unique (hkeys ▸ hfound')).2]

/-- A table of services that names one provider too many, and a table of hosts that is down. -/
def stranded : Engine :=
  { sample with
    registry := ⟨[Provider.passthrough "s3", Provider.passthrough "sqs"]⟩
    services := some (Table.ofPairs [("one.test:80", "gone"), ("one.test", "sqs")]).lookup
    hosts := some fun key => if key = "one.test" then .error "down" else .ok none }

/-- A request of some host, still to be signed. -/
def hosted (host : Text) : RequestHead :=
  { dated "20240101T120000Z" with
    headers := [⟨"host", Text.Utf8.encode host⟩,
      ⟨"x-amz-date", Text.Utf8.encode "20240101T120000Z"⟩] }

theorem requests_go_by_host_of_stranded : ∃ v v' : Bytes,
    let account := stranded.handle .none false "one" (claiming (hosted "One.test:80") v) .empty
    let account' := stranded.handle .none false "two" (claiming (hosted "ONE.TEST:80") v') .empty
    account.outcome = .failed 500 ∧
      account.events.filterMap Event.key? =
        [.inl "one.test:80", .inl "one.test", .inr "one.test:80", .inr "one.test"] ∧
      account'.events.filterMap Event.key? = account.events.filterMap Event.key? := by
  obtain ⟨v, s, hauth⟩ := exists_taken (hosted "One.test:80") "20240101T120000Z" rfl rfl
  obtain ⟨v', s', hauth'⟩ := exists_taken (hosted "ONE.TEST:80") "20240101T120000Z" rfl rfl
  obtain ⟨hx, hsame⟩ := requests_go_by_host stranded .none false "one"
    (claiming (hosted "One.test:80") v) .empty _ hauth
  have hnames : ∀ p ∈ stranded.registry.providers, p.ByName :=
    List.forall_mem_cons.2 ⟨fun _ => rfl, List.forall_mem_cons.2 ⟨fun _ => rfl, nofun⟩⟩
  have hforwards : ∀ c, (Provider.passthrough "sqs").Forwards c := fun _ => ⟨rfl, rfl⟩
  let keys : List Text := [("one.test:80" : Text), ("one.test" : Text)]
  have hkeys : candidates "One.test:80" = keys := by decide +kernel
  have hsplit : keys = [("one.test:80" : Text)] ++ ("one.test" : Text) :: [] := rfl
  have hcase : lower "One.test:80" = lower "ONE.TEST:80" := by decide +kernel
  have hnamed : Asking stranded.services stranded.registry.get? keys
      (.ok (some (Provider.passthrough "sqs"))) keys :=
    .answered hsplit
      (List.forall_mem_singleton.2 ⟨_, rfl, rfl⟩) rfl rfl
  have hfailed : Asking stranded.hosts some keys (.error "down") keys :=
    .failed hsplit
      (List.forall_mem_singleton.2 ⟨_, rfl, rfl⟩) rfl
  have hchosen : stranded.Chosen (stranded.openExchange .none false "one"
      (claiming (hosted "One.test:80") v) (.stream .empty)
      ⟨{ Signature.sample with signature := s }, "20240101T120000Z", "secret"⟩).call
      (.ok (Provider.passthrough "sqs")) keys := .named (hkeys ▸ hnamed)
  obtain ⟨found, hosts, hfound, -, haccount, hended⟩ := hx.forwarded _ keys hchosen (hforwards _)
  obtain ⟨rfl, rfl⟩ := hfound.unique (hkeys ▸ hfailed)
  obtain ⟨-, -, hother⟩ := hsame .none false "two" (claiming (hosted "ONE.TEST:80") v') .empty _
    hauth' hnames hcase
  exact ⟨v, v', (hended _ rfl).1, haccount, (hother _ keys hchosen (hforwards _) (hforwards _)).symm⟩

end Engine

end Countersign
