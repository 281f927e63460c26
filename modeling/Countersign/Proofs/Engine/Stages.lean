import Mathlib.Order.WellFounded
import Countersign.Proofs.Engine.Authentication
/-! The checks that a request has to pass, in their order. Each can fail for itself, and
the first one that does is what the request is told. -/

namespace Countersign

open Countersign.Http
open Countersign.Signature

/-! ## Faults of each check -/

namespace Signature

variable {f : Fault} {r : RequestHead} {a : Authorization} {secret host time t : Text}

theorem isMalformed_of_error {α : Type} {g : Fault} (hg : g.isMalformed = true)
    (h : (.error g : Except Fault α) = .error f) : f.isMalformed = true := by
  obtain rfl := Except.error.inj h
  exact hg

theorem isMalformed_of_timestamp {hs : Headers} (h : timestamp hs = .error f) :
    f.isMalformed = true := by
  unfold timestamp at h
  split at h
  · exact isMalformed_of_error rfl h
  · split at h
    · exact isMalformed_of_error rfl h
    · split at h
      · cases h
      · exact isMalformed_of_error rfl h

theorem isMalformed_of_credential (h : Credential.ofText t = .error f) : f.isMalformed = true := by
  unfold Credential.ofText at h
  split at h
  · split at h
    · exact isMalformed_of_error rfl h
    · split at h
      · exact isMalformed_of_error rfl h
      · cases h
  · exact isMalformed_of_error rfl h

theorem isMalformed_of_authorization (h : Authorization.ofText t = .error f) :
    f.isMalformed = true := by
  unfold Authorization.ofText at h
  split at h
  · exact isMalformed_of_error rfl h
  · split at h
    · exact isMalformed_of_error rfl h
    · split at h
      · exact isMalformed_of_error rfl h
      · next credential _ =>
        cases hc : Credential.ofText credential with
        | error g =>
          rw [hc] at h
          obtain rfl := Except.error.inj h
          exact isMalformed_of_credential hc
        | ok c =>
          rw [hc] at h
          simp only [bind, Except.bind] at h
          split at h
          · exact isMalformed_of_error rfl h
          · split at h
            · exact isMalformed_of_error rfl h
            · split at h
              · cases h
              · exact isMalformed_of_error rfl h

/-- Where the time can be read, a request that does not verify carries another signature. -/
theorem eq_mismatch_of_verifyRequest (htime : timestamp r.headers = .ok time)
    (h : verifyRequest r a secret host = .error f) : f = .mismatch := by
  simp only [verifyRequest, signRequest, htime, bind, Except.bind] at h
  split at h
  · cases h
  · exact (Except.error.inj h).symm

end Signature

namespace Engine

variable {e : Engine} {head : RequestHead} {claim : Claim} {secret : Text}

/-! ## Stages -/

/-- The checks of a request, in their order. -/
inductive Stage
  | missing
  | text
  | form
  | time
  | host
  | lookup
  | key
  | signature
deriving DecidableEq

namespace Stage

def rank : Stage → Nat
  | missing => 0
  | text => 1
  | form => 2
  | time => 3
  | host => 4
  | lookup => 5
  | key => 6
  | signature => 7

/-- The status and the code that a failure of the stage is reported with. -/
def status : Stage → Nat
  | missing | text | form | time | host => 400
  | lookup => 500
  | key | signature => 403

def code : Stage → Text
  | missing => "MissingSecurityHeader"
  | text | form | time | host => "AuthorizationHeaderMalformed"
  | lookup => "InternalError"
  | key => "InvalidAccessKeyId"
  | signature => "SignatureDoesNotMatch"

end Stage

/-- What the `Authorization` value of a request says. -/
def Declares (head : RequestHead) (a : Authorization) : Prop :=
  ∃ v t, head.headers.first? "authorization" = some v ∧ Header.text? v = some t ∧
    Authorization.ofText t = .ok a

/-- The faults of a request, each for itself. -/
inductive Fails (e : Engine) (head : RequestHead) : Stage → Prop
  | missing (h : head.headers.first? "authorization" = none) : Fails e head .missing
  | text {v : Bytes} (hv : head.headers.first? "authorization" = some v)
      (h : Header.text? v = none) : Fails e head .text
  | form {v : Bytes} {t : Text} {f : Fault} (hv : head.headers.first? "authorization" = some v)
      (ht : Header.text? v = some t) (h : Authorization.ofText t = .error f) : Fails e head .form
  | time {f : Fault} (h : timestamp head.headers = .error f) : Fails e head .time
  | host (h : head.host? = none) : Fails e head .host
  | lookup {a : Authorization} {detail : Text} (ha : Declares head a)
      (h : e.keys a.credential.keyId = .error detail) : Fails e head .lookup
  | key {a : Authorization} (ha : Declares head a)
      (h : e.keys a.credential.keyId = .ok none) : Fails e head .key
  | signature {a : Authorization} {secret host : Text} {f : Fault} (ha : Declares head a)
      (hkey : e.keys a.credential.keyId = .ok (some secret)) (hhost : head.host? = some host)
      (h : verifyRequest head a secret host = .error f) : Fails e head .signature

structure FirstFails (e : Engine) (head : RequestHead) (s : Stage) : Prop where
  fails : Fails e head s
  first : ∀ t : Stage, t.rank < s.rank → ¬ Fails e head t

/-- The request passes every check, with this claim and this secret. -/
structure Admits (e : Engine) (head : RequestHead) (claim : Claim) (secret : Text) : Prop where
  claims : Claims head claim
  key : e.keys claim.authorization.credential.keyId = .ok (some secret)
  verified : verifyRequest head claim.authorization secret claim.host = .ok ()

theorem authenticate_of_admits (h : Admits e head claim secret) :
    e.authenticate head = (.ok ⟨claim.authorization, claim.timestamp, secret⟩,
      [.keyAsked claim.authorization.credential.keyId]) := by
  simp only [authenticate, claimOf_eq_ok.2 h.claims, h.key, verify, h.verified]

theorem Declares.unique {a b : Authorization} (ha : Declares head a) (hb : Declares head b) :
    a = b := by
  obtain ⟨v, t, hv, ht, ha⟩ := ha
  obtain ⟨w, u, hw, hu, hb⟩ := hb
  obtain rfl := Option.some.inj (hv.symm.trans hw)
  obtain rfl := Option.some.inj (ht.symm.trans hu)
  exact Except.ok.inj (ha.symm.trans hb)

/-! ## Requests that pass the first checks -/

theorem declares_of_passed (h : ∀ t : Stage, t.rank < 3 → ¬ Fails e head t) :
    ∃ a, Declares head a := by
  cases hv : head.headers.first? "authorization" with
  | none => exact absurd (.missing hv) (h .missing (by decide))
  | some v =>
    cases ht : Header.text? v with
    | none => exact absurd (.text hv ht) (h .text (by decide))
    | some t =>
      cases ha : Authorization.ofText t with
      | error f => exact absurd (.form hv ht ha) (h .form (by decide))
      | ok a => exact ⟨a, v, t, hv, ht, ha⟩

theorem claims_of_passed (h : ∀ t : Stage, t.rank < 5 → ¬ Fails e head t) :
    ∃ claim, Claims head claim := by
  obtain ⟨a, ha⟩ := declares_of_passed fun t ht => h t (by omega)
  cases htime : timestamp head.headers with
  | error f => exact absurd (.time htime) (h .time (by decide))
  | ok time =>
    cases hhost : head.host? with
    | none => exact absurd (.host hhost) (h .host (by decide))
    | some host => exact ⟨⟨a, time, host⟩, ha, htime, hhost⟩

theorem admits_of_passed (h : ∀ t : Stage, ¬ Fails e head t) :
    ∃ claim secret, Admits e head claim secret := by
  obtain ⟨claim, hclaim⟩ := claims_of_passed fun t _ => h t
  cases hkey : e.keys claim.authorization.credential.keyId with
  | error detail => exact absurd (.lookup hclaim.authorization hkey) (h .lookup)
  | ok found =>
    cases found with
    | none => exact absurd (.key hclaim.authorization hkey) (h .key)
    | some secret =>
      cases hverify : verifyRequest head claim.authorization secret claim.host with
      | error f =>
        exact absurd (.signature hclaim.authorization hkey hclaim.host hverify) (h .signature)
      | ok _ => exact ⟨claim, secret, hclaim, hkey, hverify⟩

theorem not_fails_of_admits (h : Admits e head claim secret) (s : Stage) : ¬ Fails e head s := by
  obtain ⟨v, t, hv, ht, ha⟩ := h.claims.authorization
  have hdeclares : Declares head claim.authorization := ⟨v, t, hv, ht, ha⟩
  intro hfails
  cases hfails with
  | missing hnone =>
    rw [hv] at hnone
    cases hnone
  | text hw hnone =>
    obtain rfl := Option.some.inj (hv.symm.trans hw)
    rw [ht] at hnone
    cases hnone
  | form hw hu herror =>
    obtain rfl := Option.some.inj (hv.symm.trans hw)
    obtain rfl := Option.some.inj (ht.symm.trans hu)
    rw [ha] at herror
    cases herror
  | time herror =>
    rw [h.claims.timestamp] at herror
    cases herror
  | host hnone =>
    rw [h.claims.host] at hnone
    cases hnone
  | lookup hb herror =>
    obtain rfl := hdeclares.unique hb
    rw [h.key] at herror
    cases herror
  | key hb hnone =>
    obtain rfl := hdeclares.unique hb
    rw [h.key] at hnone
    cases hnone
  | signature hb hkey hhost herror =>
    obtain rfl := hdeclares.unique hb
    rw [h.key] at hkey
    cases hkey
    rw [h.claims.host] at hhost
    cases hhost
    rw [h.verified] at herror
    cases herror

/-- A request passes every check, or one of them is the first to fail. -/
theorem firstFails_iff :
    (∃ s, FirstFails e head s) ↔ ¬ ∃ claim secret, Admits e head claim secret := by
  constructor
  · rintro ⟨s, hfirst⟩ ⟨claim, secret, hadmits⟩
    exact not_fails_of_admits hadmits s hfirst.fails
  · intro hnot
    by_cases hsome : ∃ s, Fails e head s
    · obtain ⟨s, hs, hmin⟩ := (measure Stage.rank).wf.has_min {s | Fails e head s} hsome
      exact ⟨s, hs, fun t hlt ht => hmin t ht hlt⟩
    · exact absurd (admits_of_passed fun s hs => hsome ⟨s, hs⟩) hnot

theorem FirstFails.unique {s t : Stage} (hs : FirstFails e head s) (ht : FirstFails e head t) :
    s = t := by
  rcases Nat.lt_trichotomy s.rank t.rank with hlt | hrank | hlt
  · exact absurd hs.fails (ht.first s hlt)
  · revert hrank
    cases s <;> cases t <;> simp [Stage.rank]
  · exact absurd ht.fails (hs.first t hlt)

/-! ## What a failed check is answered with -/

/-- A request is turned down with the status and the code of a stage, and the key is asked
for only where the claim could be read. -/
structure Refuses (e : Engine) (head : RequestHead) (s : Stage) (f : Failure)
    (asked : List Event) : Prop where
  result : e.authenticate head = (.error f, asked)
  status : f.status = s.status
  code : f.code = s.code
  early : s.rank < 5 → asked = []
  late : 5 ≤ s.rank → ∃ claim, Claims head claim ∧
    asked = [.keyAsked claim.authorization.credential.keyId]

theorem refuses_of_claimOf {s : Stage} {f : Failure} (h : claimOf head = .error f)
    (hearly : s.rank < 5) (hstatus : f.status = s.status) (hcode : f.code = s.code) :
    Refuses e head s f [] where
  result := by simp only [authenticate, h]
  status := hstatus
  code := hcode
  early := fun _ => rfl
  late := fun hlate => absurd hearly (Nat.not_lt.2 hlate)

theorem refuses_of_claims {s : Stage} {f : Failure} (hclaim : Claims head claim)
    (h : e.authenticate head = (.error f, [.keyAsked claim.authorization.credential.keyId]))
    (hlate : 5 ≤ s.rank) (hstatus : f.status = s.status) (hcode : f.code = s.code) :
    Refuses e head s f [.keyAsked claim.authorization.credential.keyId] where
  result := h
  status := hstatus
  code := hcode
  early := fun hearly => absurd hearly (Nat.not_lt.2 hlate)
  late := fun _ => ⟨claim, hclaim, rfl⟩

theorem ofFault_of_isMalformed {f : Fault} (h : f.isMalformed = true) :
    Failure.ofFault f = .malformedHeader f := if_pos h

theorem refuses_of_firstFails {s : Stage} (h : FirstFails e head s) :
    ∃ f asked, Refuses e head s f asked := by
  obtain ⟨hfails, hpassed⟩ := h
  cases hfails with
  | missing hv =>
    have hclaim : claimOf head = .error .missingAuthorization := by rw [claimOf, hv]
    exact ⟨_, _, refuses_of_claimOf hclaim (by decide) rfl rfl⟩
  | text hv ht =>
    have hclaim : claimOf head = .error (.ofFault (.malformedHeader
        "Authorization is not visible ASCII")) := by
      simp only [claimOf, hv, ht]
      rfl
    exact ⟨_, _, refuses_of_claimOf hclaim (by decide) rfl rfl⟩
  | @form v t f hv ht ha =>
    have hclaim : claimOf head = .error (.malformedHeader f) := by
      rw [← ofFault_of_isMalformed (isMalformed_of_authorization ha)]
      simp only [claimOf, hv, ht, bind, Except.bind, ha, Except.mapError]
    exact ⟨_, _, refuses_of_claimOf hclaim (by decide) rfl rfl⟩
  | @time f htime =>
    obtain ⟨a, v, t, hv, ht, ha⟩ := declares_of_passed hpassed
    have hclaim : claimOf head = .error (.malformedHeader f) := by
      rw [← ofFault_of_isMalformed (isMalformed_of_timestamp htime)]
      simp only [claimOf, hv, ht, bind, Except.bind, ha, htime, Except.mapError]
    exact ⟨_, _, refuses_of_claimOf hclaim (by decide) rfl rfl⟩
  | host hhost =>
    obtain ⟨a, v, t, hv, ht, ha⟩ := declares_of_passed fun t (ht : t.rank < 3) =>
      hpassed t (Nat.lt_succ_of_lt ht)
    cases htime : timestamp head.headers with
    | error f => exact absurd (.time htime) (hpassed .time (by decide))
    | ok time =>
      have hclaim : claimOf head = .error (.ofFault (.malformedHeader "missing Host")) := by
        simp only [claimOf, hv, ht, bind, Except.bind, ha, htime, hhost, Except.mapError]
      exact ⟨_, _, refuses_of_claimOf hclaim (by decide) rfl rfl⟩
  | @lookup a detail ha hkey =>
    obtain ⟨claim, hclaim⟩ := claims_of_passed hpassed
    obtain rfl := ha.unique hclaim.authorization
    have hresult : e.authenticate head = (.error (.lookup detail),
        [.keyAsked claim.authorization.credential.keyId]) := by
      simp only [authenticate, claimOf_eq_ok.2 hclaim, hkey]
    exact ⟨_, _, refuses_of_claims hclaim hresult (by decide) rfl rfl⟩
  | @key a ha hkey =>
    obtain ⟨claim, hclaim⟩ := claims_of_passed fun t (ht : t.rank < 5) =>
      hpassed t (Nat.lt_succ_of_lt ht)
    obtain rfl := ha.unique hclaim.authorization
    have hresult : e.authenticate head =
        (.error (.keyNotFound claim.authorization.credential.keyId),
          [.keyAsked claim.authorization.credential.keyId]) := by
      simp only [authenticate, claimOf_eq_ok.2 hclaim, hkey]
    exact ⟨_, _, refuses_of_claims hclaim hresult (by decide) rfl rfl⟩
  | @signature a secret host f ha hkey hhost hverify =>
    obtain ⟨claim, hclaim⟩ := claims_of_passed fun t (ht : t.rank < 5) =>
      hpassed t (Nat.lt_trans ht (by decide))
    obtain rfl := ha.unique hclaim.authorization
    obtain rfl := Option.some.inj (hhost.symm.trans hclaim.host)
    obtain rfl := eq_mismatch_of_verifyRequest hclaim.timestamp hverify
    have hresult : e.authenticate head = (.error .invalidSignature,
        [.keyAsked claim.authorization.credential.keyId]) := by
      simp only [authenticate, claimOf_eq_ok.2 hclaim, hkey, verify, hverify]
      rfl
    exact ⟨_, _, refuses_of_claims hclaim hresult (by decide) rfl rfl⟩

end Engine

end Countersign
