import Countersign.Proofs.Engine.Forwarding
import Countersign.Proofs.Signature.Tolerance
/-! What one attempt to forward a call comes to. It is refused and leaves no trace, or it is
sent with its body, or there is no time to sign it for: then nothing is sent, and yet the call
is addressed to the target. -/

namespace Countersign

open Countersign.Http
open Countersign.Signature

/-- Credentials that were read from a value, but for the signature. -/
def Credentials.AreRead (c : Credentials) : Prop :=
  ∃ t a, Authorization.ofText t = .ok a ∧ Header.IsText t ∧
    c.authorization = { a with signature := c.authorization.signature }

theorem Engine.areRead_of_taken {e : Engine} {head : RequestHead} {taken c : Credentials}
    (h : (e.authenticate head).1 = .ok taken) (hc : c.unsigned = taken.unsigned) : c.AreRead := by
  obtain ⟨claim, hclaim, -, -, htaken⟩ := authenticate_eq_ok.1 h
  obtain ⟨v, t, -, ht, ha⟩ := hclaim.authorization
  refine ⟨t, claim.authorization, ha, Header.isText_of_text? ht, ?_⟩
  have hsame : c.unsigned.authorization = taken.unsigned.authorization := congrArg _ hc
  rw [htaken] at hsame
  have hcredential := congrArg Authorization.credential hsame
  have hnames := congrArg Authorization.signedHeaders hsame
  exact Authorization.mk.injEq .. ▸ ⟨hcredential, hnames, rfl⟩

namespace Call

variable {c : Call} {target s time : Text} {body : Body}

/-- The call as it is signed for a target. -/
def readdressed (c : Call) (target : Text) : Call :=
  c.addressed (.absolute c.route.scheme.name target (c.head.uri.pathQuery?.getD .root))
    (Text.Utf8.encode target)

/-- Whatever has become of the headers, there is a value for a new signature. -/
theorem exists_resignedValue (hc : c.credentials.AreRead) (hs : Header.IsText s) :
    ∃ v, c.resignedValue s = .ok v := by
  obtain ⟨t, a, ha, ht, hauth⟩ := hc
  have htext : Header.IsText (((c.head.headers.text? "authorization").bind
      (swapSignature? s)).getD { c.credentials.authorization with signature := s }.render) := by
    cases hswap : (c.head.headers.text? "authorization").bind (swapSignature? s) with
    | none =>
      rw [hauth]
      exact isText_render (a := a) ha ht (fun _ => .rfl) hs
    | some t' =>
      obtain ⟨u, hu, hswap⟩ := Option.bind_eq_some_iff.1 hswap
      obtain ⟨v, -, hv⟩ := Option.bind_eq_some_iff.1 hu
      exact isText_swapped hs (Header.isText_of_text? hv) hswap
  obtain ⟨v, hv, -⟩ := Header.value?_of_isText htext
  refine ⟨v, ?_⟩
  simp only [resignedValue, hv]

theorem prepare_consumed (hbody : c.body = none) :
    c.prepare target = (.error .bodyConsumed, c) := by
  rw [prepare, hbody]

theorem prepare_refused {e : UriFault} (hbody : c.body = some body)
    (hcheck : Authority.check target = .error e) :
    c.prepare target = (.error (.invalidTarget (target ++ ": " ++ e.message)), c) := by
  simp only [prepare, hbody, Target.uri, hcheck]

/-- Without a time the call is addressed, and not signed. -/
theorem prepare_untimed {e : Fault} (hbody : c.body = some body)
    (hcheck : Authority.check target = .ok ()) (htime : timestamp c.head.headers = .error e) :
    c.prepare target = (.error (.ofFault e), c.readdressed target) := by
  have huri : Target.uri c.route.scheme target c.head.uri.pathQuery? = .ok _ :=
    Target.uri_eq_ok.2 ⟨hcheck, rfl⟩
  have hresign : (c.readdressed target).resign target = .error (.ofFault e) := by
    rw [resign, signRequest, readdressed, timestamp_addressed, htime]
    rfl
  simp only [prepare, hbody, huri, Authority.value?_of_check hcheck]
  rw [← readdressed, hresign]

theorem prepare_timed (hc : c.credentials.AreRead) (hbody : c.body = some body)
    (hcheck : Authority.check target = .ok ()) (htime : timestamp c.head.headers = .ok time) :
    ∃ s v, signRequest (c.readdressed target).head c.credentials.authorization
        c.credentials.secret target = .ok s ∧
      (c.readdressed target).resignedValue s = .ok v ∧
      c.prepare target = (.ok (((c.readdressed target).resigned s v).depart body).1,
        (((c.readdressed target).resigned s v).depart body).2) := by
  obtain ⟨key, m, hs⟩ := signRequest_of_timestamp (r := (c.readdressed target).head)
    ((timestamp_addressed c _ _).trans htime)
  obtain ⟨v, hv⟩ := exists_resignedValue (c := c.readdressed target) hc (isText_hex _)
  exact ⟨_, v, hs, hv, prepare_of_signed hbody (Target.uri_eq_ok.2 ⟨hcheck, rfl⟩)
    (Authority.value?_of_check hcheck) hs hv⟩

/-- Nothing keeps the call from being sent to the target. -/
structure Sendable (c : Call) (target : Text) : Prop where
  body : c.body ≠ none
  target : Authority.check target = .ok ()
  time : ∃ t, timestamp c.head.headers = .ok t

end Call

namespace Exchange

variable {x : Exchange} {target : Text} {f : Failure} {o : Outbound} {c : Call}

theorem forward_of_unprepared (h : x.call.prepare target = (.error f, c)) (bs : List Body) :
    (x.forward target bs).1.1 = .error f ∧ (x.forward target bs).2.call = c ∧
      (x.forward target bs).2.events = x.events ∧ (x.forward target bs).2.sent = x.sent := by
  obtain ⟨plumbing, hread⟩ := readTogether_eq { x with call := c } bs
  unfold forward
  rw [h]
  dsimp only
  rw [hread]
  exact ⟨rfl, rfl, rfl, rfl⟩

theorem sent_of_prepare (h : x.call.prepare target = (.ok o, c)) (bs : List Body) :
    (x.forward target bs).2.sent = x.sent + 1 := by
  obtain ⟨plumbing, hdispatch⟩ :=
    dispatch_eq (({ x with call := c } : Exchange).record (.forwarded o)) o bs
  unfold forward
  rw [h]
  dsimp only
  rw [hdispatch]
  rfl

/-- One attempt to forward to a target, from `x` to `y`. -/
structure Attempted (x : Exchange) (target : Text) (result : Except Failure Response)
    (y : Exchange) : Prop where
  sent_iff : (∃ o, y.events = x.events ++ [.forwarded o]) ↔ x.call.Sendable target
  unsent_iff : y.events = x.events ↔ ¬ x.call.Sendable target
  /-- What is sent takes the body along, whatever comes of it. -/
  sent : ∀ o, y.events = x.events ++ [.forwarded o] →
    x.call.body = some o.body ∧ y.call.body = none ∧ y.sent = x.sent + 1
  /-- What is not sent fails, and loses neither its body nor its credentials. -/
  unsent : y.events = x.events →
    (∃ f, result = .error f) ∧ y.sent = x.sent ∧ y.call = { x.call with head := y.call.head }
  /-- Target and headers stay where the failure comes before the signing. -/
  spared : y.events = x.events → x.call.body = none ∨ Authority.check target ≠ .ok () →
    y.call = x.call
  /-- They do not where the signing itself fails, unless they were the target's before. -/
  moved : y.events = x.events → x.call.body ≠ none → Authority.check target = .ok () →
    y.call = x.call.readdressed target ∧
      ∃ e, timestamp x.call.head.headers = .error e ∧ result = .error (.ofFault e)

theorem attempted_of_unsendable {meanwhile : List Body} (hno : ¬ x.call.Sendable target)
    (h : x.call.prepare target = (.error f, c)) (hkept : c = { x.call with head := c.head })
    (hspared : x.call.body = none ∨ Authority.check target ≠ .ok () → c = x.call)
    (hmoved : x.call.body ≠ none → Authority.check target = .ok () →
      c = x.call.readdressed target ∧ ∃ e, timestamp x.call.head.headers = .error e ∧
        f = .ofFault e) :
    x.Attempted target (x.forward target meanwhile).1.1 (x.forward target meanwhile).2 := by
  obtain ⟨hresult, hcall, hevents, hsent⟩ := forward_of_unprepared h meanwhile
  have hnone : ∀ o, (x.forward target meanwhile).2.events ≠ x.events ++ [.forwarded o] := by
    intro o ho
    simp [hevents] at ho
  refine ⟨?_, ?_, fun o ho => absurd ho (hnone o), fun _ => ⟨⟨f, hresult⟩, hsent, ?_⟩, ?_, ?_⟩
  · exact iff_of_false (fun ⟨o, ho⟩ => hnone o ho) hno
  · exact iff_of_true hevents hno
  · rw [hcall]
    exact hkept
  · intro _ hrefused
    rw [hcall, hspared hrefused]
  · intro _ hbody hcheck
    obtain ⟨hsame, e, he, rfl⟩ := hmoved hbody hcheck
    exact ⟨hcall.trans hsame, e, he, hresult⟩

theorem attempted (hc : x.call.credentials.AreRead) (target : Text) (meanwhile : List Body) :
    x.Attempted target (x.forward target meanwhile).1.1 (x.forward target meanwhile).2 := by
  cases hbody : x.call.body with
  | none =>
    refine attempted_of_unsendable (fun h => h.body hbody) (Call.prepare_consumed hbody) rfl
      (fun _ => rfl) fun h => absurd hbody h
  | some body =>
    cases hcheck : Authority.check target with
    | error e =>
      refine attempted_of_unsendable (fun h => ?_) (Call.prepare_refused hbody hcheck) rfl
        (fun _ => rfl) fun _ h => ?_
      · exact nomatch hcheck.symm.trans h.target
      · exact nomatch hcheck.symm.trans h
    | ok =>
      cases htime : timestamp x.call.head.headers with
      | error e =>
        refine attempted_of_unsendable (fun ⟨_, _, t, ht⟩ => ?_)
          (Call.prepare_untimed hbody hcheck htime) rfl ?_ fun _ _ => ⟨rfl, e, htime, rfl⟩
        · exact nomatch htime.symm.trans ht
        · rintro (h | h)
          · exact nomatch hbody.symm.trans h
          · exact absurd hcheck h
      | ok time =>
        obtain ⟨s, v, -, -, hprepare⟩ := Call.prepare_timed hc hbody hcheck htime
        obtain ⟨-, hcall, hevents⟩ := forward_of_prepare hprepare meanwhile
        have hready : x.call.Sendable target :=
          ⟨fun h => (nomatch hbody.symm.trans h), hcheck, time, htime⟩
        have hsome : (x.forward target meanwhile).2.events ≠ x.events := by
          rw [hevents]
          simp
        refine ⟨iff_of_true ⟨_, hevents⟩ hready, iff_of_false hsome (not_not_intro hready), ?_,
          fun h => absurd h hsome, fun h => absurd h hsome, fun h => absurd h hsome⟩
        intro o ho
        obtain rfl : _ = o := by simpa [hevents] using ho
        exact ⟨hbody, by rw [hcall]; rfl, sent_of_prepare hprepare meanwhile⟩

/-- Whatever a handler has done to a request that was taken, its next attempt to forward it is
sent and spends the body once, or fails and spends neither body nor credentials. It leaves target
and headers alone too, unless the headers have lost their time: that is found out when the call
is addressed already. -/
theorem attempt_accounts_for_call {α : Type} (e : Engine) (head : RequestHead)
    (credentials : Credentials) (p : Program α) (x : Exchange) (target : Text)
    (meanwhile : List Body) (hauth : (e.authenticate head).1 = .ok credentials)
    (hx : x.call.credentials = credentials) :
    let y := (p.run x).2
    y.Attempted target (y.forward target meanwhile).1.1 (y.forward target meanwhile).2 := by
  intro y
  have hsame : y.call.credentials.unsigned = credentials.unsigned := by
    rw [Program.unsigned_run, hx]
  exact attempted (Engine.areRead_of_taken hauth hsame) target meanwhile

theorem attempt_accounts_for_call_after_detour : ∃ (v : Bytes) (credentials : Credentials),
    let head := Engine.claiming (Engine.dated "20240101T120000Z") v
    let y := (detour.run (Engine.opened head credentials)).2
    (Engine.sample.authenticate head).1 = .ok credentials ∧ y.call.Sendable "three.test" ∧
      ∃ o, (y.forward "three.test" []).2.events = y.events ++ [.forwarded o] ∧
        y.call.body = some o.body ∧ (y.forward "three.test" []).2.call.body = none := by
  obtain ⟨v, s, hauth⟩ := Engine.exists_taken (Engine.dated "20240101T120000Z")
    "20240101T120000Z" rfl rfl
  refine ⟨v, ⟨{ Signature.sample with signature := s }, "20240101T120000Z", "secret"⟩, ?_⟩
  intro head y
  have h : y.Attempted "three.test" (y.forward "three.test" []).1.1 (y.forward "three.test" []).2 :=
    attempt_accounts_for_call Engine.sample head _ detour (Engine.opened head _) _ [] hauth rfl
  have hready : y.call.Sendable "three.test" := ⟨nofun, rfl, _, rfl⟩
  obtain ⟨o, ho⟩ := h.sent_iff.2 hready
  obtain ⟨hbody, hnone, -⟩ := h.sent o ho
  exact ⟨hauth, hready, o, ho, hbody, hnone⟩

/-- A handler that takes the time from the headers. -/
def undate : Program Unit :=
  .act .look fun c => .act (.setHeaders (c.head.headers.erase "x-amz-date")) fun _ => .done ()

/-- The attempt after that fails unsent, and target and host are no longer what they were. -/
theorem unsigned_attempt_moves_call : ∃ (v : Bytes) (credentials : Credentials),
    let head := Engine.claiming (Engine.dated "20240101T120000Z") v
    let y := (undate.run (Engine.opened head credentials)).2
    let z := (y.forward "two.test" []).2
    (Engine.sample.authenticate head).1 = .ok credentials ∧ y.call.body ≠ none ∧
      Authority.check "two.test" = .ok () ∧ z.events = y.events ∧
      z.call.head.uri ≠ y.call.head.uri ∧ z.call.head.headers ≠ y.call.head.headers := by
  obtain ⟨v, s, hauth⟩ := Engine.exists_taken (Engine.dated "20240101T120000Z")
    "20240101T120000Z" rfl rfl
  refine ⟨v, ⟨{ Signature.sample with signature := s }, "20240101T120000Z", "secret"⟩, ?_⟩
  intro head y z
  have htime : timestamp y.call.head.headers =
      .error (.invalidTimestamp "missing x-amz-date header") := rfl
  have huri : y.call.head.uri.authority? = some "one.test" := rfl
  have hhost : y.call.head.headers.values "host" = [Text.Utf8.encode "one.test"] := rfl
  have h : y.Attempted "two.test" (y.forward "two.test" []).1.1 z :=
    attempted (Engine.areRead_of_taken hauth rfl) "two.test" []
  have hevents : z.events = y.events :=
    h.unsent_iff.2 fun hready => nomatch htime.symm.trans hready.time.choose_spec
  obtain ⟨hmoved, -⟩ := h.moved hevents nofun rfl
  refine ⟨hauth, nofun, rfl, hevents, fun hsame => ?_, fun hsame => ?_⟩
  · rw [← hsame, hmoved] at huri
    exact absurd (Option.some.inj huri) (by decide)
  · rw [← hsame, hmoved, Call.readdressed, Call.addressed, Headers.values_set, if_pos rfl] at hhost
    exact absurd (Text.Utf8.encode_inj.1 (List.head_eq_of_cons_eq hhost)) (by decide)

end Exchange

end Countersign
