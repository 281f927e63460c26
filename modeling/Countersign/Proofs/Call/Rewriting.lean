import Countersign.Proofs.Call.Preparation
import Countersign.Proofs.Http.HopByHop
import Countersign.Proofs.Signature.Signing
/-! The `Authorization` value that a call leaves with: the old text with the new
signature swapped in, and when an origin reads that signature from it. -/

namespace Countersign

open Countersign.Http
open Countersign.Signature

namespace Call

variable {c c' : Call} {target t s : Text} {a : Authorization} {o : Outbound}

/-- A text that can be read is rewritten by the swap, never written afresh. -/
theorem resignedValue_eq_ok (ht : c.head.headers.text? "authorization" = some t)
    (ha : Authorization.ofText t = .ok a) (hs : Header.IsText s)
    (hfree : Text.FreeOf Authorization.isSeparator s) :
    ∃ v t', c.resignedValue s = .ok v ∧ Header.text? v = some t' ∧
      swapSignature? s t = some t' := by
  obtain ⟨t', _, _, _, _, hswap, -⟩ := exists_swapped hfree ha
  have htext : Header.IsText t := by
    obtain ⟨v, -, hv⟩ := Option.bind_eq_some_iff.1 ht
    exact Header.isText_of_text? hv
  obtain ⟨v, hv, hread⟩ := Header.value?_of_isText (isText_swapped hs htext hswap)
  refine ⟨v, t', ?_, hread, hswap⟩
  simp only [resignedValue, ht, Option.bind_some, hswap, Option.getD_some, hv]

theorem text?_addressed (c : Call) (uri : Uri) (host : Bytes) :
    (c.addressed uri host).head.headers.text? "authorization" =
      c.head.headers.text? "authorization" :=
  Headers.text?_set_other (by decide)

theorem timestamp_addressed (c : Call) (uri : Uri) (host : Bytes) :
    timestamp (c.addressed uri host).head.headers = timestamp c.head.headers :=
  timestamp_congr ((Headers.values_set ..).trans (if_neg (by decide)))

theorem timestamp_resigned (c : Call) (s : Text) (v : Bytes) :
    timestamp (c.resigned s v).head.headers = timestamp c.head.headers :=
  timestamp_congr ((Headers.values_set ..).trans (if_neg (by decide)))

/-- What an origin gets of the `Authorization` value, if it gets one. -/
theorem exists_swapped_of_prepare (ht : c.head.headers.text? "authorization" = some t)
    (ha : Authorization.ofText t = .ok a) (h : c.prepare target = (.ok o, c')) {u : Text}
    (hu : o.headers.text? "authorization" = some u) :
    IsToken c'.credentials.authorization.signature ∧
      swapSignature? c'.credentials.authorization.signature t = some u := by
  obtain ⟨body, uri, host, s, v, -, -, -, hs, hv, hc⟩ := prepare_eq_ok h
  obtain ⟨rfl, rfl⟩ := Prod.mk.inj hc
  obtain ⟨key, m, rfl⟩ := signRequest_eq_ok hs
  have htoken := isToken_sign key m
  obtain ⟨v', t', hv', hread, hswap⟩ :=
    resignedValue_eq_ok ((text?_addressed c uri host).trans ht) ha (isText_hex _) htoken.2
  obtain rfl : v = v' := Except.ok.inj (hv.symm.trans hv')
  have hsent := HopByHop.text?_of_strip hu
  have hset : (((c.addressed uri host).resigned (sign key m) v).head.headers.text?
      "authorization") = Header.text? v := Headers.text?_set_self
  have hu' : some u = some t' := hsent.symm.trans (hset.trans hread)
  exact ⟨htoken, hu'.symm ▸ hswap⟩

/-- With a body, a target that may be a host, a time and a readable `Authorization`
value, nothing keeps a call from being sent. -/
theorem exists_prepared {body : Body} {uri : Uri} {host : Bytes} {time : Text}
    (hbody : c.body = some body)
    (huri : Target.uri c.route.scheme target c.head.uri.pathQuery? = .ok uri)
    (hhost : Header.value? target = some host) (htime : timestamp c.head.headers = .ok time)
    (ht : c.head.headers.text? "authorization" = some t) (ha : Authorization.ofText t = .ok a) :
    ∃ o, (c.prepare target).1 = .ok o := by
  obtain ⟨key, m, hs⟩ := signRequest_of_timestamp (r := (c.addressed uri host).head)
    ((timestamp_addressed c uri host).trans htime)
  obtain ⟨v, -, hv, -⟩ := resignedValue_eq_ok ((text?_addressed c uri host).trans ht) ha
    (isText_hex _) (isToken_sign key m).2
  exact ⟨_, congrArg Prod.fst (prepare_of_signed hbody huri hhost hs hv)⟩

end Call

namespace Signature

/-- Swapping keeps the meaning of an `Authorization` value, and an origin reads the
stored signature, exactly when the first token that declares one is the one read. -/
theorem swap_keeps_meaning_iff (t : Text) (a : Authorization)
    (ha : Authorization.ofText t = .ok a) :
    ((∀ s, IsToken s → Resigns t a s) ↔ FirstIsRead t) ∧
    (∀ s, IsToken s → s ≠ a.signature → (Resigns t a s ↔ FirstIsRead t)) ∧
    ∀ (c c' : Call) (target : Text) (o : Outbound) (u : Text),
      c.head.headers.text? "authorization" = some t →
      c.prepare target = (.ok o, c') →
      o.headers.text? "authorization" = some u →
      (FirstIsRead t → Authorization.ofText u =
        .ok { a with signature := c'.credentials.authorization.signature }) ∧
      (c'.credentials.authorization.signature ≠ a.signature →
        (Reads u c'.credentials.authorization.signature ↔ FirstIsRead t)) := by
  refine ⟨⟨?_, ?_⟩, fun s hs hne => resigns_iff ha hs hne, ?_⟩
  · intro hall
    obtain ⟨s, hs, hne⟩ := exists_isToken_ne a.signature
    exact (resigns_iff ha hs hne).1 (hall s hs)
  · intro hfirst s hs
    exact resigns_of_firstIsRead ha hs hfirst
  · intro c c' target o u ht h hu
    obtain ⟨htoken, hswap⟩ := Call.exists_swapped_of_prepare ht ha h hu
    exact ⟨ofText_swapped ha htoken hswap, fun hne => reads_swapped_iff ha htoken hne hswap⟩

def sample : Authorization :=
  ⟨⟨"AKID", "20240101", "us-east-1", "s3"⟩, ["host", "x-amz-date"], "0a"⟩

/-- A value that reads as the sample, with more between its names and its signature. -/
def sampleWith (extra : Text) : Text :=
  algorithm ++ " Credential=" ++ sample.credential.render ++ ", SignedHeaders="
    ++ Text.join ";" sample.signedHeaders ++ ", " ++ extra ++ "Signature=0a"

theorem swap_keeps_meaning_of_sample :
    Authorization.ofText (sampleWith []) = .ok sample ∧ Resigns (sampleWith []) sample "ff" ∧
      FirstIsRead (sampleWith []) :=
  have ha : Authorization.ofText (sampleWith []) = .ok sample := rfl
  have hs : IsToken "ff" := by decide
  have h : Resigns (sampleWith []) sample "ff" := ⟨_, rfl, rfl⟩
  ⟨ha, h, ((swap_keeps_meaning_iff _ sample ha).2.1 _ hs (by decide)).1 h⟩

/-- A field whose name only ends like the signature's is rewritten in its place, and
the old signature is read. -/
theorem swap_misses_after_longer_name :
    Authorization.ofText (sampleWith "XSignature=1, ") = .ok sample ∧ IsToken "ff" ∧
      swapSignature? "ff" (sampleWith "XSignature=1, ") = some (sampleWith "XSignature=ff, ") ∧
      Authorization.ofText (sampleWith "XSignature=ff, ") = .ok sample ∧
      ¬ Reads (sampleWith "XSignature=ff, ") "ff" := by
  have hold : Authorization.ofText (sampleWith "XSignature=1, ") = .ok sample := rfl
  have hs : IsToken "ff" := by decide
  have hread : Authorization.ofText (sampleWith "XSignature=ff, ") = .ok sample := rfl
  refine ⟨hold, hs, rfl, hread, ?_⟩
  rintro ⟨b, hb, hbs⟩
  obtain rfl : sample = b := Except.ok.inj (hread.symm.trans hb)
  exact absurd hbs (by decide)

end Signature

end Countersign
