import Countersign.Proofs.Engine.Authentication
import Countersign.Proofs.Signature.Addressing
/-! Which requests can be sent to another host with the `Authorization` value that they have. -/

namespace Countersign.Engine

open Countersign.Http
open Countersign.Signature

variable {e : Engine} {head : RequestHead} {credentials : Credentials} {host : Text} {v : Bytes}

/-- A request that is sent to the host of another `Host` value. -/
def readdressed (head : RequestHead) (v : Bytes) : RequestHead :=
  { head with headers := head.headers.set "host" v }

theorem host?_readdressed (hv : Header.text? v = some host) (hne : host ≠ []) :
    (readdressed head v).host? = some host := by
  have htext : (readdressed head v).headers.text? "host" = some host :=
    Headers.text?_set_self.trans hv
  obtain ⟨c, rest, rfl⟩ := List.exists_cons_of_ne_nil hne
  rw [RequestHead.host?, htext]

/-- A request in whose `Authorization` value the host is not signed is taken for every host,
once it is taken for one. -/
theorem authenticate_readdressed (h : (e.authenticate head).1 = .ok credentials)
    (hn : ¬ credentials.authorization.SignsHost) (hv : Header.text? v = some host)
    (hne : host ≠ []) : (e.authenticate (readdressed head v)).1 = .ok credentials := by
  obtain ⟨claim, hclaim, hkey, hverify, hcredentials⟩ := authenticate_eq_ok.1 h
  obtain ⟨w, t, hw, ht, ha⟩ := hclaim.authorization
  have hlisted := Authorization.listed_of_ofText ha
  have hn : ¬ claim.authorization.SignsHost := by rwa [hcredentials] at hn
  have hclaim' : Claims (readdressed head v) { claim with host } := by
    refine ⟨⟨w, t, ?_, ht, ha⟩, ?_, host?_readdressed hv hne⟩
    · rw [← hw]
      exact Headers.first?_set_other (by decide)
    · have hdate : (readdressed head v).headers.first? "x-amz-date" =
          head.headers.first? "x-amz-date" := Headers.first?_set_other (by decide)
      rw [← hclaim.timestamp, timestamp, timestamp, hdate]
  have hcanonical : canonicalOf head claim.authorization host =
      canonicalOf head claim.authorization claim.host :=
    (canonicalOf_hosts hlisted).2 fun hsigned => absurd hsigned hn
  have hsign : signRequest (readdressed head v) claim.authorization credentials.secret host =
      signRequest head claim.authorization credentials.secret claim.host := by
    rw [readdressed, signRequest_set_host hlisted hn, signRequest_of_hosts hcanonical]
  have hverify' : verifyRequest (readdressed head v) claim.authorization credentials.secret host =
      .ok () := by
    rw [verifyRequest_eq_ok, hsign, ← verifyRequest_eq_ok]
    exact hverify
  exact authenticate_eq_ok.2 ⟨_, hclaim', hkey, hverify', hcredentials⟩

/-- What an `Authorization` value has to do with the host that a request is sent to. -/
structure HostBinding (a : Authorization) : Prop where
  /-- The form of a request tells its host exactly where the host is signed. -/
  tells : ∀ (r : RequestHead) (host host' : Text), Text.FreeOf Text.isBlank host →
    Text.FreeOf Text.isBlank host' →
      (canonicalOf r a host = canonicalOf r a host' ↔ (a.SignsHost → host = host'))
  /-- No request has then one signature for two hosts, but for an accident of the digest. -/
  binds : a.SignsHost → ∀ (r : RequestHead) (secret host host' : Text),
    Text.FreeOf Text.isBlank host → Text.FreeOf Text.isBlank host' → host ≠ host' →
      verifyRequest r a secret host = .ok () → verifyRequest r a secret host' = .ok () →
        Clash r a secret host host'
  /-- Where the host is not signed, whoever gets hold of a request can send it to any other
  host, and it is taken there as it was. -/
  floats : ¬ a.SignsHost → ∀ (e : Engine) (head : RequestHead) (credentials : Credentials),
    credentials.authorization = a → (e.authenticate head).1 = .ok credentials →
      ∀ (v : Bytes) (host : Text), Header.text? v = some host → host ≠ [] →
        (readdressed head v).host? = some host ∧
          (e.authenticate (readdressed head v)).1 = .ok credentials

/-- A signature is bound to the host exactly where the host is among what is signed. -/
theorem signature_binds_host_iff (t : Text) (a : Authorization)
    (ha : Authorization.ofText t = .ok a) : HostBinding a where
  tells r host host' hfree hfree' :=
    canonicalOf_hosts_of_free (Authorization.listed_of_ofText ha) hfree hfree'
  binds hsigned r secret host host' hfree hfree' hne h h' := by
    refine clash_of_verifyRequest h h' ?_
    intro hsame
    have hlisted := Authorization.listed_of_ofText ha
    exact hne ((canonicalOf_hosts_of_free hlisted hfree hfree').1 hsame hsigned)
  floats hn e head credentials hsame hauth v host hv hne := by
    refine ⟨host?_readdressed hv hne, authenticate_readdressed hauth ?_ hv hne⟩
    rwa [hsame]

/-- An `Authorization` value under which only the time is signed. -/
def hostless : Authorization := ⟨Signature.sample.credential, ["x-amz-date"], "0a"⟩

theorem ofText_hostless : Authorization.ofText hostless.render = .ok hostless := by
  decide +kernel

/-- Whoever has a key can have a request taken under such a value. -/
theorem exists_hostless (head : RequestHead) (time : Text)
    (htime : timestamp head.headers = .ok time) (hhost : head.host? = some host) :
    ∃ v s, (sample.authenticate (claiming head v)).1 =
      .ok ⟨{ hostless with signature := s }, time, "secret"⟩ := by
  have hfirst : FirstIsRead hostless.render :=
    (resigns_iff (s := "ff") ofText_hostless (by decide) (by decide)).1 ⟨_, rfl, rfl⟩
  exact exists_authenticated ofText_hostless (by decide) hfirst (by decide) htime hhost rfl

/-- Two values, of which only the first has the host signed. -/
theorem signature_binds_host_of_tagged :
    (Authorization.ofText tagged.render = .ok tagged ∧ tagged.SignsHost ∧
      canonicalOf (taggedWith []) tagged "one.test" ≠
        canonicalOf (taggedWith []) tagged "two.test") ∧
    Authorization.ofText hostless.render = .ok hostless ∧ ¬ hostless.SignsHost ∧
      canonicalOf (taggedWith []) hostless "one.test" =
        canonicalOf (taggedWith []) hostless "two.test" := by
  have ha : Authorization.ofText tagged.render = .ok tagged := by decide +kernel
  have hbound := (signature_binds_host_iff _ _ ha).tells (taggedWith []) "one.test" "two.test"
    (by decide) (by decide)
  have hloose := (signature_binds_host_iff _ _ ofText_hostless).tells (taggedWith []) "one.test"
    "two.test" (by decide) (by decide)
  refine ⟨⟨ha, by decide, ?_⟩, ofText_hostless, by decide, ?_⟩
  · intro hsame
    exact absurd (hbound.1 hsame (by decide)) (by decide)
  · exact hloose.2 fun hsigned => absurd hsigned (by decide)

/-- A request for one host that is taken for another, with what was signed for the first. -/
theorem signature_loose_without_host :
    Authorization.ofText hostless.render = .ok hostless ∧
      ("one.test" : Text) ≠ "two.test" ∧
      canonicalOf (taggedWith []) hostless "one.test" =
        canonicalOf (taggedWith []) hostless "two.test" ∧
      ∃ v credentials,
        let head := claiming (taggedWith []) v
        let head' := readdressed head (Text.Utf8.encode "two.test")
        head.host? = some "one.test" ∧ (sample.authenticate head).1 = .ok credentials ∧
          head'.headers.first? "authorization" = head.headers.first? "authorization" ∧
          head'.host? = some "two.test" ∧ (sample.authenticate head').1 = .ok credentials := by
  have hunsigned : ¬ hostless.SignsHost := by decide
  have hcanonical : canonicalOf (taggedWith []) hostless "one.test" =
      canonicalOf (taggedWith []) hostless "two.test" :=
    (canonicalOf_hosts (Authorization.listed_of_ofText ofText_hostless)).2
      fun hsigned => absurd hsigned hunsigned
  have hv : Header.text? (Text.Utf8.encode "two.test") = some "two.test" := by decide +kernel
  have htime : timestamp (taggedWith []).headers = .ok "20240101T120000Z" := by decide +kernel
  have hhost : (taggedWith []).host? = some "one.test" := by decide +kernel
  obtain ⟨v, s, hauth⟩ := exists_hostless (taggedWith []) _ htime hhost
  refine ⟨ofText_hostless, by decide, hcanonical, v, _, ?_, hauth,
    Headers.first?_set_other (by decide), host?_readdressed hv (by decide),
    authenticate_readdressed hauth hunsigned hv (by decide)⟩
  rw [← hhost, claiming, RequestHead.host?, RequestHead.host?, Headers.text?_set_other (by decide)]

end Countersign.Engine
