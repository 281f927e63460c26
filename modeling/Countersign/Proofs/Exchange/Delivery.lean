import Countersign.Proofs.Engine.Authentication
import Countersign.Proofs.Exchange.Resigning
import Countersign.Proofs.Signature.Coverage
/-! What of a signed request arrives. A call is signed first and loses the headers of its
connection afterwards, so a signed header arrives unless it is one of these; and a client
may nominate any header to be one. -/

namespace Countersign

open Countersign.Http
open Countersign.Signature
open HopByHop (Stripped strip)

namespace Signature

variable {hs : Headers} {n host : Text} {a : Authorization} {r : RequestHead}

theorem counted_strip (hs : Headers) (n : Text) :
    counted (strip hs) n = if Stripped hs n then [] else counted hs n := by
  rw [counted, HopByHop.texts_strip]
  split <;> rfl

theorem payloadToken_strip (hs : Headers) : payloadToken (strip hs) =
    if Stripped hs "x-amz-content-sha256" then Canonical.unsignedPayload else payloadToken hs := by
  by_cases h : Stripped hs "x-amz-content-sha256"
  · rw [payloadToken, HopByHop.text?_strip, if_pos h, if_pos h]
  · rw [payloadToken, HopByHop.text?_strip, if_neg h, if_neg h, payloadToken]

/-- Where stripping leaves `lost`, nothing changes if that was there before. -/
theorem ite_eq_kept {α : Type} {p : Prop} [Decidable p] {lost kept : α} :
    (if p then lost else kept) = kept ↔ (p → kept = lost) := by
  rw [ite_eq_right_iff]
  exact forall_congr' fun _ => eq_comm

/-- Stripping is noticed when it takes a value that counts. -/
theorem canonicalOf_strip_iff (ha : a.Listed) :
    canonicalOf { r with headers := strip r.headers } a host = canonicalOf r a host ↔
      (∀ n ∈ a.signedHeaders, n ≠ "host" → Stripped r.headers n → counted r.headers n = []) ∧
        (Stripped r.headers "x-amz-content-sha256" →
          payloadToken r.headers = Canonical.unsignedPayload) := by
  have hmethod : RequestHead.method { r with headers := strip r.headers } = r.method := rfl
  rw [canonicalOf_eq_iff ha hmethod]
  constructor
  · intro h
    refine ⟨fun n hn hhost => ?_, ?_⟩
    · rw [← ite_eq_kept, ← counted_strip]
      exact h.values n hn hhost
    · rw [← ite_eq_kept, ← payloadToken_strip]
      exact h.payload
  · rintro ⟨hvalues, hpayload⟩
    refine ⟨rfl, rfl, fun n hn hhost => ?_, ?_⟩
    · rw [counted_strip, ite_eq_kept]
      exact hvalues n hn hhost
    · rw [payloadToken_strip, ite_eq_kept]
      exact hpayload

/-- The names whose headers a signature speaks for. -/
def covered (a : Authorization) : List Text := "authorization" :: "x-amz-date" :: a.signedHeaders

end Signature

namespace Call

variable {c c' : Call} {target : Text} {o : Outbound}

theorem signedHeaders_of_prepare (h : c.prepare target = (.ok o, c')) :
    c'.credentials.authorization.signedHeaders = c.credentials.authorization.signedHeaders := by
  have hsame := unsigned_prepare c target
  rw [h] at hsame
  rw [← Credentials.signedHeaders_unsigned, hsame, Credentials.signedHeaders_unsigned]

/-- Of the headers a preparation touches two only. -/
theorem headers_of_prepare (h : c.prepare target = (.ok o, c')) : ∃ host v,
    c'.head.headers = (c.head.headers.set "host" host).set "authorization" v := by
  obtain ⟨body, uri, host, s, v, -, -, -, -, -, hc⟩ := prepare_eq_ok h
  obtain ⟨-, rfl⟩ := Prod.mk.inj hc
  exact ⟨host, v, rfl⟩

theorem stripped_of_prepare (h : c.prepare target = (.ok o, c')) (n : Text) :
    Stripped c'.head.headers n ↔ Stripped c.head.headers n := by
  obtain ⟨host, v, hhs⟩ := headers_of_prepare h
  rw [hhs, HopByHop.stripped_set (by decide), HopByHop.stripped_set (by decide)]

end Call

namespace Engine

/-- The names of a request that was taken are those that were read. -/
theorem listed_of_taken {e : Engine} {head : RequestHead} {taken c : Credentials}
    (h : (e.authenticate head).1 = .ok taken) (hc : c.unsigned = taken.unsigned) :
    c.authorization.Listed := by
  obtain ⟨claim, hclaim, -, -, htaken⟩ := authenticate_eq_ok.1 h
  obtain ⟨v, t, -, -, ha⟩ := hclaim.authorization
  have hnames : c.authorization.signedHeaders = claim.authorization.signedHeaders := by
    rw [← Credentials.signedHeaders_unsigned, hc, Credentials.signedHeaders_unsigned, htaken]
  intro n hn
  exact Authorization.listed_of_ofText ha n (hnames ▸ hn)

end Engine

namespace Exchange

/-- Of a request that was taken, whatever a handler makes of it and wherever it goes, the
signed headers arrive exactly when none of them is stripped. An origin makes the same
canonical request exactly when none that counts is, and then takes the signature. -/
theorem signed_headers_arrive_iff {α : Type} (e : Engine) (head : RequestHead)
    (credentials : Credentials) (p : Program α) (x : Exchange) (target : Text)
    (meanwhile : List Body) (o : Outbound) (hauth : (e.authenticate head).1 = .ok credentials)
    (hx : x.call.credentials = credentials)
    (ho : ((p.run x).2.call.prepare target).1 = .ok o) :
    let c := ((p.run x).2.forward target meanwhile).2.call
    let a := c.credentials.authorization
    let received : RequestHead := ⟨o.method, o.uri, o.headers⟩
    ((∀ n ∈ covered a, o.headers.values n = c.head.headers.values n) ↔
      ∀ n ∈ covered a, Stripped c.head.headers n → c.head.headers.values n = []) ∧
    (canonicalOf received a target = canonicalOf c.head a target ↔
      (∀ n ∈ a.signedHeaders, n ≠ "host" → Stripped c.head.headers n →
        counted c.head.headers n = []) ∧
      (Stripped c.head.headers "x-amz-content-sha256" →
        payloadToken c.head.headers = Canonical.unsignedPayload)) ∧
    (("authorization" : Text) ∉ a.signedHeaders → ¬ Stripped c.head.headers "x-amz-date" →
      canonicalOf received a target = canonicalOf c.head a target →
      verifyRequest received a c.credentials.secret target = .ok ()) := by
  intro c a received
  have hcall : c = ((p.run x).2.call.prepare target).2 := call_forward _ _ _
  have hprepare : (p.run x).2.call.prepare target = (.ok o, c) := Prod.ext ho hcall.symm
  have hsame : c.credentials.unsigned = credentials.unsigned := by
    rw [hcall, Call.unsigned_prepare, Program.unsigned_run, hx]
  -- The names are those that the engine has read; no handler changes them.
  have hlisted : a.Listed := Engine.listed_of_taken hauth hsame
  obtain ⟨hmethod, huri, hheaders⟩ := Call.outbound_of_prepare hprepare
  have hreceived : received = { c.head with headers := strip c.head.headers } := by
    simp only [received, hmethod, huri, hheaders]
  refine ⟨?_, hreceived ▸ canonicalOf_strip_iff hlisted, fun hn hdate hform => ?_⟩
  · rw [hheaders]
    refine forall₂_congr fun n _ => ?_
    rw [HopByHop.values_strip, ite_eq_kept]
  · have htime : timestamp received.headers = timestamp c.head.headers := by
      rw [hreceived, timestamp, HopByHop.first?_strip, if_neg hdate, timestamp]
    have hverify := Call.verifyRequest_of_prepare (fun n hm hlower => ?_) hprepare
    · rw [verifyRequest_eq_ok] at hverify ⊢
      exact (signRequest_of_canonicalOf htime hform).trans hverify
    · rw [← Call.signedHeaders_of_prepare hprepare] at hm
      rw [(hlisted n hm).1] at hlower
      exact hn (hlower ▸ hm)

/-- A request with a `Connection` value, still to be signed. -/
def nominating (names : Text) : RequestHead :=
  ⟨"GET", .absolute "https" "one.test" ⟨"/key", none⟩,
    [⟨"host", Text.Utf8.encode "one.test"⟩,
     ⟨"x-amz-date", Text.Utf8.encode "20240101T120000Z"⟩,
     ⟨"connection", Text.Utf8.encode names⟩]⟩

/-- It can be signed, taken and sent on, and what it nominates is what is stripped. -/
theorem exists_nominating (names : Text) :
    ∃ (v : Bytes) (credentials : Credentials) (o : Outbound) (c : Call),
    (Engine.sample.authenticate (Engine.claiming (nominating names) v)).1 = .ok credentials ∧
    (Engine.opened (Engine.claiming (nominating names) v) credentials).call.prepare "two.test" =
      (.ok o, c) ∧
    c.credentials.authorization.signedHeaders = Signature.sample.signedHeaders ∧
    c.head.headers.values "x-amz-date" = [Text.Utf8.encode "20240101T120000Z"] ∧
    ∀ n, Stripped c.head.headers n ↔ Stripped (nominating names).headers n := by
  obtain ⟨v, s, hauth⟩ := Engine.exists_taken (nominating names) "20240101T120000Z" rfl rfl
  obtain ⟨o, c, hc⟩ := Engine.exists_prepared .none false "request" "two.test" (.stream .empty)
    hauth rfl rfl
  obtain ⟨host, w, hheaders⟩ := Call.headers_of_prepare hc
  refine ⟨v, _, o, c, hauth, hc, Call.signedHeaders_of_prepare hc, ?_, fun n => ?_⟩
  · rw [hheaders, Headers.values_set, if_neg (by decide), Headers.values_set, if_neg (by decide)]
    exact (Headers.values_set ..).trans rfl
  · rw [Call.stripped_of_prepare hc]
    exact HopByHop.stripped_set (by decide)

theorem signed_headers_arrive_after_close :
    ∃ (v : Bytes) (credentials : Credentials) (o : Outbound),
    let head := Engine.claiming (nominating "close") v
    let x := Engine.opened head credentials
    (Engine.sample.authenticate head).1 = .ok credentials ∧ x.call.credentials = credentials ∧
      (x.call.prepare "two.test").1 = .ok o ∧
      let c := (x.forward "two.test" []).2.call
      ∀ n ∈ covered c.credentials.authorization,
        o.headers.values n = c.head.headers.values n := by
  obtain ⟨v, credentials, o, c, hauth, hc, hnames, -, hstripped⟩ := exists_nominating "close"
  generalize hx : Engine.opened _ credentials = x at hc
  have hcredentials : x.call.credentials = credentials := hx ▸ rfl
  have ho : (x.call.prepare "two.test").1 = .ok o := by rw [hc]
  have hcall : (x.forward "two.test" []).2.call = c := by rw [call_forward, hc]
  obtain ⟨harrive, -⟩ :=
    signed_headers_arrive_iff Engine.sample _ _ (.done ()) x "two.test" [] o hauth hcredentials ho
  have hkept : ∀ n ∈ covered Signature.sample, ¬ Stripped (nominating "close").headers n := by
    decide +kernel
  refine ⟨v, credentials, o, hauth, ?_⟩
  simp only [hx]
  refine ⟨hcredentials, ho, harrive.2 fun n hn hs => absurd hs ?_⟩
  change n ∈ covered (x.forward "two.test" []).2.call.credentials.authorization at hn
  change ¬ Stripped (x.forward "two.test" []).2.call.head.headers n
  rw [hcall, covered, hnames] at hn
  rw [hcall, hstripped]
  exact hkept n hn

/-- A client that nominates the date gets a signature sent on without it. -/
theorem signed_date_lost_when_nominated :
    ∃ (v : Bytes) (credentials : Credentials) (o : Outbound) (c : Call),
    let head := Engine.claiming (nominating "x-amz-date") v
    (Engine.sample.authenticate head).1 = .ok credentials ∧
      (Engine.opened head credentials).call.prepare "two.test" = (.ok o, c) ∧
      ("x-amz-date" : Text) ∈ c.credentials.authorization.signedHeaders ∧
      c.head.headers.values "x-amz-date" = [Text.Utf8.encode "20240101T120000Z"] ∧
      o.headers.values "x-amz-date" = [] := by
  obtain ⟨v, credentials, o, c, hauth, hc, hnames, hdate, hstripped⟩ :=
    exists_nominating "x-amz-date"
  refine ⟨v, credentials, o, c, hauth, hc, hnames ▸ by decide, hdate, ?_⟩
  have hlost : Stripped (nominating "x-amz-date").headers "x-amz-date" := by decide +kernel
  rw [(Call.outbound_of_prepare hc).2.2, HopByHop.values_strip, if_pos ((hstripped _).2 hlost)]

end Exchange

end Countersign
