import Countersign.Engine
import Countersign.Proofs.Call.Rewriting
/-! Which requests the engine takes: those whose claim can be read and whose signature is
the one that the secret of the claimed key gives. Every request that can be signed can
also be given such a claim. -/

namespace Countersign

open Countersign.Http
open Countersign.Signature

namespace Engine

variable {e : Engine} {head : RequestHead} {claim : Claim} {credentials : Credentials}

/-- Where a claim is read from. -/
structure Claims (head : RequestHead) (claim : Claim) : Prop where
  authorization : ∃ v t, head.headers.first? "authorization" = some v ∧
    Header.text? v = some t ∧ Authorization.ofText t = .ok claim.authorization
  timestamp : timestamp head.headers = .ok claim.timestamp
  host : head.host? = some claim.host

theorem claimOf_eq_ok : claimOf head = .ok claim ↔ Claims head claim := by
  unfold claimOf
  constructor
  · intro h
    split at h
    · cases h
    next v hv =>
    replace h := mapError_eq_ok.1 h
    cases ht : Header.text? v with
    | none =>
      rw [ht] at h
      cases h
    | some t =>
      rw [ht] at h
      obtain ⟨t, hread, h⟩ := bind_eq_ok.1 h
      obtain rfl := Except.ok.inj hread
      obtain ⟨a, ha, h⟩ := bind_eq_ok.1 h
      obtain ⟨time, htime, h⟩ := bind_eq_ok.1 h
      cases hhost : head.host? with
      | none =>
        rw [hhost] at h
        cases h
      | some host =>
        rw [hhost] at h
        obtain rfl := Except.ok.inj h
        exact ⟨⟨v, _, hv, ht, ha⟩, htime, hhost⟩
  · rintro ⟨⟨v, t, hv, ht, ha⟩, htime, hhost⟩
    rw [hv]
    refine mapError_eq_ok.2 ?_
    simp only [ht, ha, htime, hhost, bind, Except.bind]

/-- A request claims one thing. -/
theorem Claims.unique {claim' : Claim} (h : Claims head claim) (h' : Claims head claim') :
    claim = claim' :=
  Except.ok.inj ((claimOf_eq_ok.2 h).symm.trans (claimOf_eq_ok.2 h'))

/-- A request is taken when the secret of its key gives the signature that it claims. -/
theorem authenticate_eq_ok : (e.authenticate head).1 = .ok credentials ↔
    ∃ claim, Claims head claim ∧
      e.keys claim.authorization.credential.keyId = .ok (some credentials.secret) ∧
      verifyRequest head claim.authorization credentials.secret claim.host = .ok () ∧
      credentials = ⟨claim.authorization, claim.timestamp, credentials.secret⟩ := by
  unfold authenticate
  constructor
  · intro h
    split at h
    · cases h
    next claim hclaim =>
    refine ⟨claim, claimOf_eq_ok.1 hclaim, ?_⟩
    dsimp only at h
    split at h
    · cases h
    · cases h
    next secret hkey =>
    unfold verify at h
    split at h
    · next hverify =>
      obtain rfl := Except.ok.inj h
      exact ⟨hkey, hverify, rfl⟩
    · cases h
  · rintro ⟨claim, hclaim, hkey, hverify, hc⟩
    rw [claimOf_eq_ok.2 hclaim, hc]
    simp only [hkey, verify, hverify]

/-- A request with an `Authorization` value. -/
def claiming (head : RequestHead) (v : Bytes) : RequestHead :=
  { head with headers := head.headers.set "authorization" v }

/-- Whoever knows the secret of a key can put a signature into an `Authorization` value
with which the request is taken. -/
theorem exists_authenticated {t secret host time : Text} {a : Authorization}
    (ha : Authorization.ofText t = .ok a) (ht : Header.IsText t) (hfirst : FirstIsRead t)
    (hn : ∀ n ∈ a.signedHeaders, Text.lower n ≠ "authorization")
    (htime : timestamp head.headers = .ok time) (hhost : head.host? = some host)
    (hkey : e.keys a.credential.keyId = .ok (some secret)) :
    ∃ v s, (e.authenticate (claiming head v)).1 =
      .ok ⟨{ a with signature := s }, time, secret⟩ := by
  obtain ⟨s, hs⟩ : ∃ s, signRequest head a secret host = .ok s :=
    ⟨_, bind_eq_ok.2 ⟨time, htime, rfl⟩⟩
  obtain ⟨key, m, rfl⟩ := signRequest_eq_ok hs
  obtain ⟨t', _, _, _, _, hswap, -⟩ := exists_swapped (isToken_sign key m).2 ha
  obtain ⟨v, -, hv⟩ := Header.value?_of_isText (isText_swapped (isText_hex _) ht hswap)
  have hdate : (head.headers.set "authorization" v).first? "x-amz-date" =
      head.headers.first? "x-amz-date" := Headers.first?_set_other (by decide)
  have hclaim : Claims (claiming head v) ⟨{ a with signature := sign key m }, time, host⟩ := by
    refine ⟨⟨v, t', Headers.first?_set_self, hv,
      ofText_swapped ha (isToken_sign key m) hswap hfirst⟩, ?_, ?_⟩
    · rw [← htime, claiming, timestamp, timestamp, hdate]
    · rw [← hhost, claiming, RequestHead.host?, RequestHead.host?,
        Headers.text?_set_other (by decide)]
  -- What is signed is the request without the value, and the value makes no difference.
  have hsame : signRequest (claiming head v) { a with signature := sign key m } secret host =
      .ok (sign key m) :=
    (signRequest_congr (agreeOn_set head.headers v (by decide) (by decide) hn)).trans hs
  exact ⟨v, _, authenticate_eq_ok.2 ⟨_, hclaim, hkey, verifyRequest_of_sign hsame rfl, rfl⟩⟩

/-- A request that was taken can be sent to every host that may be a target. -/
theorem exists_prepared {uri : Uri} {host : Bytes} (transport : Transport) (gone : Bool)
    (id target : Text) (body : Body) (hauth : (e.authenticate head).1 = .ok credentials)
    (huri : Target.uri e.route.scheme target head.uri.pathQuery? = .ok uri)
    (hhost : Header.value? target = some host) :
    ∃ o c, (e.openExchange transport gone id head body credentials).call.prepare target =
      (.ok o, c) := by
  obtain ⟨claim, hclaim, -⟩ := authenticate_eq_ok.1 hauth
  obtain ⟨v, t, hv, ht, ha⟩ := hclaim.authorization
  have htext : head.headers.text? "authorization" = some t := by
    rw [Headers.text?, hv, Option.bind_some, ht]
  have hready := Call.exists_prepared (c := (e.openExchange transport gone id head body
    credentials).call) rfl huri hhost hclaim.timestamp htext ha
  obtain ⟨o, ho⟩ := hready
  exact ⟨o, _, Prod.ext ho rfl⟩

/-- An engine that knows one key. -/
def sample : Engine where
  registry := {}
  keys := (Table.ofPairs [("AKID", "secret")]).lookup

theorem exists_taken (head : RequestHead) (time : Text) {host : Text}
    (htime : timestamp head.headers = .ok time) (hhost : head.host? = some host) :
    ∃ v s, (sample.authenticate (claiming head v)).1 =
      .ok ⟨{ Signature.sample with signature := s }, time, "secret"⟩ := by
  have ha : Authorization.ofText (sampleWith []) = .ok Signature.sample := rfl
  have hfirst : FirstIsRead (sampleWith []) :=
    (resigns_iff (s := "ff") ha (by decide) (by decide)).1 ⟨_, rfl, rfl⟩
  exact exists_authenticated ha (by decide) hfirst (by decide) htime hhost rfl

/-- The exchange in which it serves a request without a body. -/
def opened (head : RequestHead) (credentials : Credentials) : Exchange :=
  sample.openExchange .none false "request" head (.stream .empty) credentials

end Engine

end Countersign
