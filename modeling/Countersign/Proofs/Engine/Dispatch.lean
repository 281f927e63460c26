import Countersign.Proofs.Engine.Scope
import Countersign.Proofs.Exchange.Sink
/-! The way of a request through the engine: turned down, or given to a provider in an
exchange whose sink is still with the engine. -/

namespace Countersign

open Countersign.Http

namespace Exchange

variable {x : Exchange}

theorem events_abandon (x : Exchange) : x.abandon.events = x.events := by
  unfold abandon
  dsimp only
  split <;> rfl

end Exchange

namespace Engine

variable {e : Engine} {transport : Transport} {gone : Bool} {id : Text} {head : RequestHead}
  {body : Source} {p : Provider} {x : Exchange} {f : Failure}

/-- The provider that a request gets to with the exchange that it is given, or why the
request gets to none. -/
def reached (e : Engine) (transport : Transport) (gone : Bool) (id : Text) (head : RequestHead)
    (body : Source) : Except Failure (Provider × Exchange) :=
  match e.authenticate head with
  | (.error f, _) => .error f
  | (.ok credentials, asked) =>
    let x := (e.openExchange transport gone id head (.stream body) credentials).recordAll asked
    match e.provider x.call with
    | (.error f, _) => .error f
    | (.ok p, asked) => .ok (p, x.recordAll asked)

theorem keyAsked_authenticate (e : Engine) (head : RequestHead) :
    ∀ ev ∈ (e.authenticate head).2, ∃ keyId, ev = .keyAsked keyId := by
  unfold authenticate
  split
  · nofun
  · intro ev hev
    exact ⟨_, List.mem_singleton.1 hev⟩

theorem serviceAsked_provider (e : Engine) (c : Call) :
    ∀ ev ∈ (e.provider c).2, ∃ host, ev = .serviceAsked host := by
  have hhint : ∀ ev ∈ (e.hint c.inboundHost).2, ∃ host, ev = .serviceAsked host := by
    unfold hint
    split
    · nofun
    · intro ev hev
      obtain ⟨host, -, rfl⟩ := List.mem_map.1 hev
      exact ⟨host, rfl⟩
  exact hhint

/-- Nothing was done with the sink before a provider starts. -/
theorem sinkEvents_asked {services : List Event}
    (h : ∀ ev ∈ services, ∃ host, ev = .serviceAsked host) :
    sinkEvents ((e.authenticate head).2 ++ services) = [] := by
  refine List.filter_eq_nil_iff.2 fun ev hev => ?_
  rcases List.mem_append.1 hev with hev | hev
  · obtain ⟨keyId, rfl⟩ := keyAsked_authenticate e head ev hev
    exact Bool.false_ne_true
  · obtain ⟨host, rfl⟩ := h ev hev
    exact Bool.false_ne_true

/-- What a request is answered with that was taken and for which no provider is found. -/
theorem handle_of_nowhere {credentials : Credentials} {services : List Event}
    (hauth : (e.authenticate head).1 = .ok credentials)
    (h : e.provider (e.openExchange transport gone id head (.stream body) credentials).call =
      (.error f, services)) :
    (e.handle transport gone id head body).outcome = .failed f.status ∧
      (e.handle transport gone id head body).events =
        (e.authenticate head).2 ++ services ++ [.handed .engine (.ofFailure id f)] := by
  obtain ⟨asked, hpair⟩ : ∃ asked, e.authenticate head = (.ok credentials, asked) :=
    ⟨_, Prod.ext hauth rfl⟩
  have hprovider : e.provider ((e.openExchange transport gone id head (.stream body)
      credentials).recordAll asked).call = (.error f, services) := h
  unfold handle
  rw [hpair]
  simp only [serve, hprovider, Exchange.events_abandon]
  exact ⟨rfl, rfl⟩

/-- What a request is answered with that gets to no provider. -/
theorem handle_of_error (h : e.reached transport gone id head body = .error f) :
    ∃ services, (∀ ev ∈ services, ∃ host, ev = .serviceAsked host) ∧
      (e.handle transport gone id head body).outcome = .failed f.status ∧
      (e.handle transport gone id head body).events =
        (e.authenticate head).2 ++ services ++ [.handed .engine (.ofFailure id f)] := by
  unfold reached at h
  split at h
  · next g asked hauth =>
    obtain rfl := Except.error.inj h
    unfold handle
    rw [hauth]
    refine ⟨[], nofun, rfl, ?_⟩
    rw [List.append_nil]
  · next credentials asked hauth =>
    dsimp only at h
    split at h
    · next g services hprovider =>
      obtain rfl := Except.error.inj h
      obtain rfl : _ = services := congrArg Prod.snd hprovider
      exact ⟨_, serviceAsked_provider e _, handle_of_nowhere (by rw [hauth]) hprovider⟩
    · cases h

/-- What becomes of a request that gets to a provider. -/
theorem handle_of_ok (h : e.reached transport gone id head body = .ok (p, x)) :
    (e.handle transport gone id head body).outcome = (runProvider p x).1 ∧
      (e.handle transport gone id head body).events = (runProvider p x).2.events := by
  unfold reached at h
  unfold handle
  split at h
  · cases h
  · next credentials asked hauth =>
    rw [hauth]
    dsimp only at h ⊢
    split at h
    · cases h
    · next q others hprovider =>
      obtain ⟨rfl, rfl⟩ := Prod.mk.inj (Except.ok.inj h)
      simp only [serve, hprovider, Exchange.events_abandon, and_self]

/-- Everything about the exchange that a provider is given. -/
theorem reached_eq_ok (h : e.reached transport gone id head body = .ok (p, x)) :
    ∃ credentials services, (e.authenticate head).1 = .ok credentials ∧
      (∀ ev ∈ services, ∃ host, ev = .serviceAsked host) ∧
      x = (e.openExchange transport gone id head (.stream body) credentials).recordAll
        ((e.authenticate head).2 ++ services) := by
  unfold reached at h
  split at h
  · cases h
  · next credentials asked hauth =>
    dsimp only at h
    generalize hopened : e.openExchange transport gone id head (.stream body) credentials = opened
      at h
    have hservices := serviceAsked_provider e (opened.recordAll asked).call
    split at h
    · cases h
    · next q services hprovider =>
      obtain ⟨rfl, rfl⟩ := Prod.mk.inj (Except.ok.inj h)
      rw [hprovider] at hservices
      refine ⟨credentials, services, by rw [hauth], hservices, ?_⟩
      rw [hauth, ← hopened]
      simp only [Exchange.recordAll, List.append_assoc]

theorem reached_of_provider {credentials : Credentials} {services : List Event}
    (hauth : (e.authenticate head).1 = .ok credentials)
    (h : e.provider (e.openExchange transport gone id head (.stream body) credentials).call =
      (.ok p, services)) :
    e.reached transport gone id head body =
      .ok (p, (e.openExchange transport gone id head (.stream body) credentials).recordAll
        ((e.authenticate head).2 ++ services)) := by
  obtain ⟨asked, hpair⟩ : ∃ asked, e.authenticate head = (.ok credentials, asked) :=
    ⟨_, Prod.ext hauth rfl⟩
  have hprovider : e.provider ((e.openExchange transport gone id head (.stream body)
      credentials).recordAll asked).call = (.ok p, services) := h
  unfold reached
  rw [hpair]
  dsimp only
  rw [hprovider]
  simp only [Exchange.recordAll, List.append_assoc]

/-- A provider starts while the engine has the sink. -/
theorem custody_of_reached (h : e.reached transport gone id head body = .ok (p, x)) :
    (x.record (.ran p.name)).Custody := by
  obtain ⟨credentials, services, -, hservices, rfl⟩ := reached_eq_ok h
  refine .engine rfl rfl rfl ?_
  have hsink : sinkEvents (((e.authenticate head).2 ++ services) ++ [.ran p.name]) = [] := by
    rw [sinkEvents_append, sinkEvents_asked hservices]
    rfl
  exact hsink

theorem hijacked_of_reached (h : e.reached transport gone id head body = .ok (p, x)) :
    x.call.hijacked = false := by
  obtain ⟨_, _, -, -, rfl⟩ := reached_eq_ok h
  rfl

theorem custody_of_run {y : Exchange} {result : Except Failure Response}
    (h : e.reached transport gone id head body = .ok (p, x))
    (hrun : p.handler.run (x.record (.ran p.name)) = (result, y)) : y.Custody := by
  have hlast := Program.run_mem_passes p.handler (x.record (.ran p.name))
  rw [hrun] at hlast
  exact Program.custody_passes p.handler (custody_of_reached h) y hlast

/-- An engine with one provider. -/
def serving (p : Provider) : Engine := { sample with registry := ⟨[p]⟩ }

/-- Every request that has a time and a host can be signed so that it gets to a provider
that takes whatever comes. -/
theorem exists_reached (p : Provider) (haccepts : ∀ c, p.accepts c = true) (head : RequestHead)
    {time host : Text}
    (htime : Signature.timestamp head.headers = .ok time) (hhost : head.host? = some host)
    (transport : Transport) (gone : Bool) (id : Text) (body : Source) :
    ∃ v x, (serving p).reached transport gone id (claiming head v) body = .ok (p, x) := by
  obtain ⟨v, s, hauth⟩ := exists_taken head time htime hhost
  refine ⟨v, ?_⟩
  have hsame : (serving p).authenticate (claiming head v) =
      sample.authenticate (claiming head v) := rfl
  have hprovider : ∀ c, (serving p).provider c = (.ok p, []) := by
    intro c
    simp [provider, hint, serving, sample, Registry.resolve, haccepts]
  unfold reached
  rw [hsame]
  split
  · next h =>
    rw [h] at hauth
    cases hauth
  · simp only [hprovider]
    exact ⟨_, rfl⟩

end Engine

end Countersign
