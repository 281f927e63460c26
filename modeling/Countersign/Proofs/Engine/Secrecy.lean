import Countersign.Proofs.Engine.Gate
/-! What a request that is turned down shows of a secret: nothing. Two engines that differ in
the secret of its key, in other keys and in whatever stands behind the gate answer it with the
same bytes and ask the same questions. -/

namespace Countersign.Engine

open Countersign.Http
open Countersign.Signature

variable {e e' : Engine} {head : RequestHead} {claim : Claim} {secret : Text}

/-- Of one key two tables know the same, or each a secret of its own. -/
def SameButSecret (keyId : Text) (keys keys' : Lookup) : Prop :=
  keys keyId = keys' keyId ∨
    ∃ secret secret', keys keyId = .ok (some secret) ∧ keys' keyId = .ok (some secret')

/-- A request is turned down, for whatever reason. -/
def Rejects (e : Engine) (head : RequestHead) : Prop :=
  ∀ credentials, (e.authenticate head).1 ≠ .ok credentials

theorem exists_rejection (h : Rejects e head) :
    ∃ f asked, e.authenticate head = (.error f, asked) := by
  obtain ⟨result, asked, hauth⟩ : ∃ result asked, e.authenticate head = (result, asked) :=
    ⟨_, _, rfl⟩
  cases result with
  | error f => exact ⟨f, asked, hauth⟩
  | ok credentials => exact absurd (congrArg Prod.fst hauth) (h credentials)

/-- Of a table of keys a request depends on the entry for its own key alone. -/
theorem authenticate_congr (h : ∀ claim, Claims head claim →
    e.keys claim.authorization.credential.keyId = e'.keys claim.authorization.credential.keyId) :
    e.authenticate head = e'.authenticate head := by
  unfold authenticate
  cases hclaim : claimOf head with
  | error f => rfl
  | ok claim => simp only [h claim (claimOf_eq_ok.1 hclaim)]

/-- Whatever the secret, a request with another signature is told that and no more. -/
theorem authenticate_of_secret (hclaim : Claims head claim)
    (hkey : e.keys claim.authorization.credential.keyId = .ok (some secret)) (h : Rejects e head) :
    e.authenticate head =
      (.error .invalidSignature, [.keyAsked claim.authorization.credential.keyId]) := by
  cases hverify : verifyRequest head claim.authorization secret claim.host with
  | ok _ =>
    have hadmits : Admits e head claim secret := ⟨hclaim, hkey, hverify⟩
    exact absurd (congrArg Prod.fst (authenticate_of_admits hadmits)) (h _)
  | error f =>
    obtain rfl := eq_mismatch_of_verifyRequest hclaim.timestamp hverify
    simp only [authenticate, claimOf_eq_ok.2 hclaim, hkey, verify, hverify]
    rfl

/-- Two tables that differ in the secret of its key turn a request down alike. -/
theorem authenticate_eq_of_rejects
    (hkeys : ∀ claim, Claims head claim →
      SameButSecret claim.authorization.credential.keyId e.keys e'.keys)
    (h : Rejects e head) (h' : Rejects e' head) : e.authenticate head = e'.authenticate head := by
  cases hread : claimOf head with
  | error f => simp only [authenticate, hread]
  | ok claim =>
    have hclaim := claimOf_eq_ok.1 hread
    rcases hkeys claim hclaim with hsame | ⟨secret, secret', hkey, hkey'⟩
    · refine authenticate_congr ?_
      intro other hother
      rw [hother.unique hclaim]
      exact hsame
    · rw [authenticate_of_secret hclaim hkey h, authenticate_of_secret hclaim hkey' h']

/-- A signature with a character that is no hex digit is never right. -/
theorem rejects_of_signature {c : Char} (hclaim : Claims head claim)
    (hc : c ∈ Text.lower claim.authorization.signature) (hnot : c ∉ hexDigits) (e : Engine) :
    Rejects e head := by
  intro credentials hauth
  obtain ⟨claim', hclaim', -, hverify, -⟩ := authenticate_eq_ok.1 hauth
  obtain rfl := hclaim.unique hclaim'
  obtain ⟨key, t, hsign⟩ := signRequest_eq_ok (verifyRequest_eq_ok.1 hverify)
  rw [hsign] at hc
  exact hnot (mem_hex hc)

/-- Two engines that nobody can tell apart by a request: neither by what they answer nor by
what they ask, whatever the origins do and whatever the body is. -/
structure Indistinguishable (e e' : Engine) (head : RequestHead) : Prop where
  handle : ∀ transport transport' gone gone' id body body',
    e.handle transport gone id head body = e'.handle transport' gone' id head body'
  respond : ∀ transport transport' id body body',
    Front.respond ⟨e, transport⟩ id head body = Front.respond ⟨e', transport'⟩ id head body'
  /-- The report of a failure and the question for the key are all that happens. -/
  unserved : ∃ f asked,
    (asked = [] ∨ ∃ claim, Claims head claim ∧
      asked = [.keyAsked claim.authorization.credential.keyId]) ∧
    ∀ transport gone id body, e.handle transport gone id head body =
      ⟨.failed f.status, asked ++ [.handed .engine (.ofFailure id f)], []⟩
  /-- Where there is a secret to be held against, the report is the same for every secret and
  every signature that would have been right. -/
  fixed : ∀ claim secret, Claims head claim →
    e.keys claim.authorization.credential.keyId = .ok (some secret) →
      ∀ transport gone id body, e.handle transport gone id head body =
        ⟨.failed 403, [.keyAsked claim.authorization.credential.keyId,
          .handed .engine (.ofFailure id .invalidSignature)], []⟩

/-- A request that is turned down cannot tell secrets apart: all that it brings about is the
same for any two secrets under which it is turned down. -/
theorem rejection_reveals_no_secret (e e' : Engine) (head : RequestHead)
    (hkeys : ∀ claim, Claims head claim →
      SameButSecret claim.authorization.credential.keyId e.keys e'.keys)
    (h : Rejects e head) (h' : Rejects e' head) : Indistinguishable e e' head := by
  obtain ⟨f, asked, hauth⟩ := exists_rejection h
  have hauth' : e'.authenticate head = (.error f, asked) :=
    (authenticate_eq_of_rejects hkeys h h').symm.trans hauth
  have hhandle : ∀ transport transport' gone gone' id body body',
      e.handle transport gone id head body = e'.handle transport' gone' id head body' := by
    intro transport transport' gone gone' id body body'
    rw [handle_of_rejected hauth, handle_of_rejected hauth']
  refine ⟨hhandle, ?_, ?_, ?_⟩
  · intro transport transport' id body body'
    unfold Front.respond
    rw [hhandle transport transport' false false id body body']
  · have hasked := asked_of_authenticate e head
    rw [hauth] at hasked
    exact ⟨f, asked, hasked, handle_of_rejected hauth⟩
  · intro claim secret hclaim hkey transport gone id body
    exact handle_of_rejected (authenticate_of_secret hclaim hkey h) transport gone id body

/-- An engine that knows one key with a given secret. -/
def knowing (secret : Text) : Engine :=
  { sample with keys := (Table.ofPairs [("AKID", secret)]).lookup }

/-- A value with a signature that nobody can have made. -/
def forged : Authorization := { Signature.sample with signature := "zz" }

theorem claims_forged :
    Claims (claiming (dated "20240101T120000Z") (Text.Utf8.encode forged.render))
      ⟨forged, "20240101T120000Z", "one.test"⟩ := by
  refine ⟨⟨_, forged.render, Headers.first?_set_self, ?_, ?_⟩, ?_, ?_⟩
  all_goals decide +kernel

/-- Two secrets, and a signature that neither gives. -/
theorem rejection_reveals_no_secret_of_forged :
    let head := claiming (dated "20240101T120000Z") (Text.Utf8.encode forged.render)
    Rejects (knowing "one") head ∧ Rejects (knowing "two") head ∧
      Indistinguishable (knowing "one") (knowing "two") head := by
  intro head
  have hrejects (e : Engine) : Rejects e head :=
    rejects_of_signature (c := 'z') claims_forged (by decide) (by decide) e
  have hkeys : ∀ claim, Claims head claim →
      SameButSecret claim.authorization.credential.keyId (knowing "one").keys (knowing "two").keys := by
    intro claim hclaim
    obtain rfl := claims_forged.unique hclaim
    exact .inr ⟨"one", "two", rfl, rfl⟩
  exact ⟨hrejects _, hrejects _,
    rejection_reveals_no_secret _ _ head hkeys (hrejects _) (hrejects _)⟩

end Countersign.Engine
