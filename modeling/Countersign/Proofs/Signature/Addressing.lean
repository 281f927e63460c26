import Countersign.Proofs.Signature.Coverage
/-! How a signature is tied to the host that a request is sent to. The host stands in a
canonical request under the name `host` and nowhere else, so the form tells it exactly where
that name is signed; where it is not, one signature is good for every host. -/

namespace Countersign.Signature

open Countersign.Http
open Canonical (Parts)
open Text (join)

/-- The host is among what the client signs. -/
abbrev Authorization.SignsHost (a : Authorization) : Prop := ("host" : Text) ∈ a.signedHeaders

variable {a : Authorization} {r : RequestHead} {secret host host' : Text}

theorem value_of_free {v : Text} (h : Text.FreeOf Text.isBlank v) : Canonical.value v = v := by
  by_cases hnil : v = []
  · rw [hnil]
    rfl
  · rw [Canonical.value, Text.words, Text.tokensBy_of_free h hnil]
    rfl

/-! ## The host in a canonical request -/

theorem same_partsOf_hosts (ha : a.Listed) :
    (partsOf r a host).Same (partsOf r a host') ↔
      (a.SignsHost → Canonical.value host = Canonical.value host') := by
  constructor
  · intro h hn
    have hmem : ("host" : Text) ∈ a.sortedHeaders.map Text.lower :=
      List.mem_map.2 ⟨"host", List.mem_mergeSort.2 hn, (ha _ hn).1⟩
    have hvalue := h.values "host" hmem
    rwa [partsOf, partsOf, valueOf_signedPairs ha hn, valueOf_signedPairs ha hn, if_pos rfl,
      if_pos rfl] at hvalue
  · intro h
    refine ⟨rfl, rfl, rfl, fun _ => .rfl, ?_, rfl⟩
    intro n hn
    obtain ⟨m, hm, rfl⟩ := List.mem_map.1 hn
    have hm : m ∈ a.signedHeaders := List.mem_mergeSort.1 hm
    rw [(ha m hm).1, partsOf, partsOf, valueOf_signedPairs ha hm, valueOf_signedPairs ha hm]
    split
    · next hhost =>
      subst hhost
      exact h hm
    · rfl

/-- The form of a request tells two hosts apart exactly where the name is signed and they
differ in more than blanks. -/
theorem canonicalOf_hosts (ha : a.Listed) :
    canonicalOf r a host = canonicalOf r a host' ↔
      (a.SignsHost → Canonical.value host = Canonical.value host') := by
  rw [← same_partsOf_hosts (r := { r with method := [] }) ha]
  constructor
  · intro h
    have hclean (host : Text) : (partsOf { r with method := [] } a host).Clean :=
      clean_partsOf ha List.not_mem_nil
    -- The methods are equal and cancel, and the parts that are left are clean.
    rw [canonicalOf_method r a host, canonicalOf_method r a host'] at h
    exact Parts.same_of_text (hclean host) (hclean host') (List.append_cancel_left h)
  · intro h
    rw [canonicalOf_method r a host, canonicalOf_method r a host']
    exact congrArg (r.method ++ ·) (Parts.text_of_same h)

theorem canonicalOf_hosts_of_free (ha : a.Listed) (h : Text.FreeOf Text.isBlank host)
    (h' : Text.FreeOf Text.isBlank host') :
    canonicalOf r a host = canonicalOf r a host' ↔ (a.SignsHost → host = host') := by
  rw [canonicalOf_hosts ha, value_of_free h, value_of_free h']

theorem signRequest_of_hosts (h : canonicalOf r a host = canonicalOf r a host') :
    signRequest r a secret host = signRequest r a secret host' := by
  simp only [signRequest, h]

/-- The `Host` value of a request is not signed; what is signed is the host that it is sent to. -/
theorem signRequest_set_host (ha : a.Listed) (hn : ¬ a.SignsHost) (v : Bytes) :
    signRequest { r with headers := r.headers.set "host" v } a secret host =
      signRequest r a secret host := by
  refine signRequest_congr (agreeOn_set r.headers v (by decide) (by decide) ?_)
  intro n hm
  rw [(ha n hm).1]
  rintro rfl
  exact hn hm

/-! ## One signature for two hosts -/

/-- A digest does not tell two inputs apart though they differ. -/
def Confuses {α : Type} (digest : α → Text) (x y : α) : Prop := x ≠ y ∧ digest x = digest y

/-- The two canonical texts have one digest, or the two strings to sign one signature. -/
def Clash (r : RequestHead) (a : Authorization) (secret host host' : Text) : Prop :=
  ∃ time, timestamp r.headers = .ok time ∧
    let signed := stringToSign time a.credential.region a.credential.service
    let key := signingKey secret (dateOf time) a.credential.region a.credential.service
    Confuses hexDigest (Text.Utf8.encode (canonicalOf r a host))
        (Text.Utf8.encode (canonicalOf r a host')) ∨
      Confuses (sign key) (signed (canonicalOf r a host)) (signed (canonicalOf r a host'))

theorem hexDigest_of_stringToSign {t region service c c' : Text}
    (h : stringToSign t region service c = stringToSign t region service c') :
    hexDigest (Text.Utf8.encode c) = hexDigest (Text.Utf8.encode c') := by
  simp only [stringToSign, join] at h
  simpa using h

/-- A signature that is good for two hosts, which the form of the request tells apart, is an
accident of the digest. -/
theorem clash_of_verifyRequest (h : verifyRequest r a secret host = .ok ())
    (h' : verifyRequest r a secret host' = .ok ())
    (hne : canonicalOf r a host ≠ canonicalOf r a host') : Clash r a secret host host' := by
  obtain ⟨t, htime, hsign⟩ := bind_eq_ok.1 (verifyRequest_eq_ok.1 h)
  obtain ⟨t', htime', hsign'⟩ := bind_eq_ok.1 (verifyRequest_eq_ok.1 h')
  obtain rfl := Except.ok.inj (htime.symm.trans htime')
  refine ⟨t, htime, ?_⟩
  have hsame := Except.ok.inj (hsign.trans hsign'.symm)
  by_cases hstring :
      stringToSign t a.credential.region a.credential.service (canonicalOf r a host) =
        stringToSign t a.credential.region a.credential.service (canonicalOf r a host')
  · refine .inl ⟨?_, hexDigest_of_stringToSign hstring⟩
    exact fun hbytes => hne (Text.Utf8.encode_inj.1 hbytes)
  · exact .inr ⟨hstring, hsame⟩

end Countersign.Signature
