import Countersign.Proofs.Fallible
import Countersign.Proofs.Http.HeaderText
import Countersign.Proofs.Signature.Swap
import Countersign.Proofs.Text.Ordering
import Countersign.Signature.Signing
/-! What a signature looks like and what it depends on: it is a row of small hex
digits, and of the headers only the signed ones and two fixed ones count. -/

namespace Countersign.Signature

open Countersign.Http

/-! ## The form of a signature -/

def hexDigits : Text := "0123456789abcdef"

theorem mem_hex {bs : Bytes} {c : Char} (h : c ∈ Text.Hex.encode bs) : c ∈ hexDigits := by
  have hdigit : ∀ n < 16, Text.Hex.digit n ∈ hexDigits := by decide
  obtain ⟨b, -, hc⟩ := List.mem_flatMap.1 h
  have hb := b.toNat_lt
  rcases List.mem_cons.1 hc with rfl | hc
  · exact hdigit _ (by omega)
  · rw [List.mem_singleton] at hc
    exact hc ▸ hdigit _ (by omega)

theorem lower_hex (bs : Bytes) : Text.lower (Text.Hex.encode bs) = Text.Hex.encode bs := by
  have hsmall : hexDigits.all (fun c => c.toLower == c) = true := by decide
  refine (List.map_congr_left fun c hc => ?_).trans (List.map_id _)
  exact beq_iff_eq.1 (List.all_eq_true.1 hsmall c (mem_hex hc))

theorem isText_hex (bs : Bytes) : Header.IsText (Text.Hex.encode bs) := fun c hc => by
  have htext : Header.IsText hexDigits := by decide
  exact htext c (mem_hex hc)

theorem digest_ne_nil (m : Bytes) : Digest.Sha256.digest m ≠ [] := by
  simp [Digest.Sha256.digest, Digest.Sha256.bigEndian]

theorem isToken_sign (key : Bytes) (t : Text) : IsToken (sign key t) := by
  have hfree : Text.FreeOf Authorization.isSeparator hexDigits := by decide
  refine ⟨?_, fun c hc => hfree c (mem_hex hc)⟩
  have hne : Digest.hmac key (Text.Utf8.encode t) ≠ [] := digest_ne_nil _
  obtain ⟨b, bs, h⟩ := List.exists_cons_of_ne_nil hne
  simp [sign, h, Text.Hex.encode]

theorem isText_swapped {s t t' : Text} (hs : Header.IsText s) (ht : Header.IsText t)
    (h : swapSignature? s t = some t') : Header.IsText t' := by
  have hlabel : Header.IsText label := by decide
  induction t generalizing t' with
  | nil => cases h
  | cons c t ih =>
    rcases swap_cons s c t with ⟨x, hx, -, hswap⟩ | ⟨-, hswap⟩
    · obtain rfl := Option.some.inj (h.symm.trans hswap)
      rw [hx, Header.isText_append] at ht
      refine Header.isText_append.2 ⟨Header.isText_append.2 ⟨hlabel, hs⟩, ?_⟩
      intro d hd
      exact ht.2 d ((List.dropWhile_sublist _).mem hd)
    · obtain ⟨hc, ht'⟩ := List.forall_mem_cons.1 ht
      obtain ⟨u, hu, rfl⟩ := Option.map_eq_some_iff.1 (hswap.symm.trans h)
      exact List.forall_mem_cons.2 ⟨hc, ih ht' hu⟩

variable {r : RequestHead} {a : Authorization} {secret host s : Text}

/-- A signature that is made is the hex text of some bytes. -/
theorem signRequest_eq_ok (h : signRequest r a secret host = .ok s) :
    ∃ key t, s = sign key t := by
  obtain ⟨time, -, h⟩ := bind_eq_ok.1 h
  exact ⟨_, _, (Except.ok.inj h).symm⟩

/-- All that it takes is a time. -/
theorem signRequest_of_timestamp {time : Text} (h : timestamp r.headers = .ok time) :
    ∃ key t, signRequest r a secret host = .ok (sign key t) :=
  ⟨_, _, bind_eq_ok.2 ⟨time, h, rfl⟩⟩

/-- A declared signature is accepted when, in small letters, it is the one that is made. -/
theorem verifyRequest_eq_ok : verifyRequest r a secret host = .ok () ↔
    signRequest r a secret host = .ok (Text.lower a.signature) := by
  rw [verifyRequest, bind_eq_ok]
  constructor
  · rintro ⟨s, hs, h⟩
    split at h
    · next hsame => rw [hs, hsame]
    · cases h
  · exact fun h => ⟨_, h, if_pos rfl⟩

/-! ## What a signature depends on -/

/-- The headers that a signature looks at have the same values. -/
def AgreeOn (a : Authorization) (hs hs' : Headers) : Prop :=
  hs.values "x-amz-date" = hs'.values "x-amz-date" ∧
    hs.values "x-amz-content-sha256" = hs'.values "x-amz-content-sha256" ∧
    ∀ n ∈ a.signedHeaders, hs.values (Text.lower n) = hs'.values (Text.lower n)

theorem signedPairs_congr {hs hs' : Headers} (h : AgreeOn a hs hs') (host : Text) :
    signedPairs hs host a.sortedHeaders = signedPairs hs' host a.sortedHeaders := by
  rw [signedPairs, signedPairs, List.flatMap_def, List.flatMap_def]
  refine congrArg _ (List.map_congr_left ?_)
  intro n hn
  have hmem : n ∈ a.signedHeaders := List.mem_mergeSort.1 (Text.mem_squeeze.1 hn)
  split
  · rfl
  · rw [Headers.texts, Headers.texts, h.2.2 n hmem]

theorem timestamp_congr {hs hs' : Headers}
    (h : hs.values "x-amz-date" = hs'.values "x-amz-date") : timestamp hs = timestamp hs' := by
  rw [timestamp, timestamp, Headers.first?, Headers.first?, h]

theorem payloadToken_congr {hs hs' : Headers}
    (h : hs.values "x-amz-content-sha256" = hs'.values "x-amz-content-sha256") :
    payloadToken hs = payloadToken hs' := by
  rw [payloadToken, payloadToken, Headers.text?, Headers.text?, Headers.first?, Headers.first?, h]

theorem signRequest_congr {hs hs' : Headers} (h : AgreeOn a hs hs') :
    signRequest { r with headers := hs } a secret host =
      signRequest { r with headers := hs' } a secret host := by
  simp only [signRequest, canonicalOf, timestamp_congr h.1, payloadToken_congr h.2.1,
    signedPairs_congr h]

/-- Beside its canonical form only the time of a request is signed. -/
theorem signRequest_of_canonicalOf {r' : RequestHead}
    (htime : timestamp r.headers = timestamp r'.headers)
    (h : canonicalOf r a host = canonicalOf r' a host) :
    signRequest r a secret host = signRequest r' a secret host := by
  simp only [signRequest, htime, h]

/-- A header that is not signed may be set without any effect on the signature. -/
theorem agreeOn_set (hs : Headers) {name : Text} (v : Bytes)
    (hdate : name ≠ "x-amz-date") (hhash : name ≠ "x-amz-content-sha256")
    (hn : ∀ n ∈ a.signedHeaders, Text.lower n ≠ name) : AgreeOn a (hs.set name v) hs := by
  refine ⟨?_, ?_, fun n hm => ?_⟩
  · rw [Headers.values_set, if_neg hdate]
  · rw [Headers.values_set, if_neg hhash]
  · rw [Headers.values_set, if_neg (Ne.symm (hn n hm))]

/-- The signature that is made for a host is accepted for it. -/
theorem verifyRequest_of_sign (h : signRequest r a secret host = .ok s) (hs : a.signature = s) :
    verifyRequest r a secret host = .ok () := by
  obtain ⟨key, t, rfl⟩ := signRequest_eq_ok h
  have hlower : Text.lower (sign key t) = sign key t := lower_hex _
  rw [verifyRequest_eq_ok, hs, hlower, h]

end Countersign.Signature
