import Countersign.Proofs.Engine.Authentication
import Countersign.Proofs.Exchange.Resigning
/-! Two scopes of one request: the one that its credential declares, and the one that its
signature is made for, whose day is the day of the request's time. Nothing compares the two
days; they agree when the client wrote the same day twice. -/

namespace Countersign

open Countersign.Http
open Countersign.Signature
open Text (join)

namespace Signature

variable {r : RequestHead} {a : Authorization} {c : Credential} {secret host time s : Text}

/-- The signature of a canonical request at a time: its scope line and its key are of the
day of that time. -/
def SignedAt (c : Credential) (secret time canonical s : Text) : Prop :=
  s = sign (signingKey secret (dateOf time) c.region c.service)
    (join "\n" [algorithm, time, scopeLine time c.region c.service,
      hexDigest (Text.Utf8.encode canonical)])

theorem signRequest_eq_ok_iff : signRequest r a secret host = .ok s ↔
    ∃ time, timestamp r.headers = .ok time ∧
      SignedAt a.credential secret time (canonicalOf r a host) s := by
  rw [signRequest, bind_eq_ok]
  refine exists_congr fun time => and_congr_right fun _ => ?_
  rw [Except.ok.injEq, eq_comm]
  rfl

/-- Of the scope only the region and the service are read. -/
theorem signRequest_date (date : Text) :
    signRequest r { a with credential := { a.credential with date } } secret host =
      signRequest r a secret host := rfl

theorem scope_eq_iff (c : Credential) (time : Text) :
    c.scope = scopeLine time c.region c.service ↔ c.date = dateOf time := by
  have hday : ∀ day, join "/" [day, c.region, c.service, scopeEnd] =
      day ++ ("/" ++ join "/" [c.region, c.service, scopeEnd]) := fun day => by
    rw [Text.join_cons _ _ (by simp), List.append_assoc]
  rw [Credential.scope, scopeLine, hday, hday]
  exact List.append_left_inj _

end Signature

/-- Credentials that differ in the signature only are of one key and one scope. -/
theorem Credentials.same_key {c c' : Credentials} (h : c.unsigned = c'.unsigned) :
    c.authorization.credential = c'.authorization.credential ∧ c.secret = c'.secret := by
  have hcredential := congrArg (·.authorization.credential) h
  have hsecret := congrArg (·.secret) h
  exact ⟨hcredential, hsecret⟩

namespace Call

variable {c c' : Call} {target : Text} {o : Outbound}

/-- A call is signed for its target in the scope that it came with, at the time that its
headers tell. -/
theorem signedAt_of_prepare (h : c.prepare target = (.ok o, c')) :
    ∃ time canonical, timestamp c'.head.headers = .ok time ∧
      SignedAt c.credentials.authorization.credential c.credentials.secret time canonical
        c'.credentials.authorization.signature := by
  obtain ⟨body, uri, host, s, v, -, -, -, hs, -, hc⟩ := prepare_eq_ok h
  obtain ⟨-, rfl⟩ := Prod.mk.inj hc
  obtain ⟨time, htime, hsigned⟩ := signRequest_eq_ok_iff.1 hs
  exact ⟨time, _, (timestamp_resigned _ s v).trans htime, hsigned⟩

end Call

/-- Of a request that was taken the signed scope is the one of its time, here and on every
way on. It is the declared one exactly when the declared day is the day of that time; the
declared day itself is not looked at. -/
theorem Engine.declared_scope_is_signed_iff (e : Engine) (head : RequestHead)
    (credentials : Credentials) (hauth : (e.authenticate head).1 = .ok credentials) :
    let a := credentials.authorization
    let c := a.credential
    let time := credentials.timestamp
    (∃ host, head.host? = some host ∧ timestamp head.headers = .ok time ∧
      SignedAt c credentials.secret time (canonicalOf head a host) (Text.lower a.signature) ∧
      ∀ date, verifyRequest head { a with credential := { c with date } } credentials.secret host =
        .ok ()) ∧
    (c.scope = scopeLine time c.region c.service ↔ c.date = dateOf time) ∧
    ∀ {α : Type} (p : Program α) (x : Exchange) (target : Text) (meanwhile : List Body)
      (o : Outbound), x.call.credentials = credentials →
      ((p.run x).2.call.prepare target).1 = .ok o →
      let d := ((p.run x).2.forward target meanwhile).2.call
      d.credentials.authorization.credential = c ∧
        ∃ time canonical, timestamp d.head.headers = .ok time ∧
          SignedAt c credentials.secret time canonical d.credentials.authorization.signature ∧
          (c.scope = scopeLine time c.region c.service ↔ c.date = dateOf time) := by
  obtain ⟨claim, hclaim, -, hverify, htaken⟩ := authenticate_eq_ok.1 hauth
  obtain ⟨_, _, secret⟩ := credentials
  obtain ⟨rfl, rfl, -⟩ := Credentials.mk.inj htaken
  refine ⟨⟨claim.host, hclaim.host, hclaim.timestamp, ?_, fun date => ?_⟩, scope_eq_iff _ _, ?_⟩
  · obtain ⟨time, htime, hsigned⟩ := signRequest_eq_ok_iff.1 (verifyRequest_eq_ok.1 hverify)
    obtain rfl := Except.ok.inj (htime.symm.trans hclaim.timestamp)
    exact hsigned
  · rw [verifyRequest_eq_ok, signRequest_date]
    exact verifyRequest_eq_ok.1 hverify
  · intro α p x target meanwhile o hx ho d
    have hd : (p.run x).2.call.prepare target = (.ok o, d) :=
      Prod.ext ho (Exchange.call_forward ..).symm
    obtain ⟨time, canonical, htime, hsigned⟩ := Call.signedAt_of_prepare hd
    have hrun := Credentials.same_key (Program.unsigned_run p x)
    have hprepare := Credentials.same_key (Call.unsigned_prepare (p.run x).2.call target)
    rw [hx] at hrun
    rw [hd, hrun.1] at hprepare
    rw [hrun.1, hrun.2] at hsigned
    exact ⟨hprepare.1, time, canonical, htime, hsigned, scope_eq_iff _ _⟩

namespace Engine

/-- A request of some time, still to be signed. -/
def dated (time : Text) : RequestHead :=
  ⟨"GET", .absolute "https" "one.test" ⟨"/key", none⟩,
    [⟨"host", Text.Utf8.encode "one.test"⟩, ⟨"x-amz-date", Text.Utf8.encode time⟩]⟩

theorem declared_scope_is_signed_on_its_day : ∃ (v : Bytes) (credentials : Credentials),
    (sample.authenticate (claiming (dated "20240101T120000Z") v)).1 = .ok credentials ∧
    let c := credentials.authorization.credential
    c.scope = scopeLine credentials.timestamp c.region c.service := by
  obtain ⟨v, s, hauth⟩ := exists_taken (dated "20240101T120000Z") "20240101T120000Z" rfl rfl
  obtain ⟨-, hscope, -⟩ := declared_scope_is_signed_iff sample _ _ hauth
  have hday : Signature.sample.credential.date = dateOf "20240101T120000Z" := by decide +kernel
  exact ⟨v, _, hauth, hscope.2 hday⟩

/-- A request of the next day is taken under a credential of the day before, and sent on. -/
theorem declared_scope_is_not_signed_a_day_late :
    ∃ (v : Bytes) (credentials : Credentials) (o : Outbound) (c : Call),
    let head := claiming (dated "20240102T120000Z") v
    (sample.authenticate head).1 = .ok credentials ∧
      (opened head credentials).call.prepare "two.test" = (.ok o, c) ∧
      credentials.authorization.credential.scope = "20240101/us-east-1/s3/aws4_request" ∧
      scopeLine credentials.timestamp "us-east-1" "s3" = "20240102/us-east-1/s3/aws4_request" := by
  obtain ⟨v, s, hauth⟩ := exists_taken (dated "20240102T120000Z") "20240102T120000Z" rfl rfl
  obtain ⟨o, c, hc⟩ :=
    exists_prepared .none false "request" "two.test" (.stream .empty) hauth rfl rfl
  have hdeclared : Signature.sample.credential.scope = "20240101/us-east-1/s3/aws4_request" := rfl
  have hsigned : scopeLine "20240102T120000Z" "us-east-1" "s3" =
      "20240102/us-east-1/s3/aws4_request" := by decide +kernel
  exact ⟨v, _, o, c, hauth, hc, hdeclared, hsigned⟩

end Engine

end Countersign
