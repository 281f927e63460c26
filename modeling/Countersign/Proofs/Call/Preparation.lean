import Countersign.Call.Forwarding
import Countersign.Proofs.Fallible
/-! What a call is after it was addressed to a host: one theorem that takes the whole
preparation apart, and what no preparation changes. -/

namespace Countersign

open Countersign.Http

/-- Credentials without the signature, which is all that a call changes of them. -/
def Credentials.unsigned (c : Credentials) : Credentials :=
  { c with authorization := { c.authorization with signature := [] } }

theorem Credentials.signedHeaders_unsigned (c : Credentials) :
    c.unsigned.authorization.signedHeaders = c.authorization.signedHeaders := rfl

namespace Call

variable {c c' : Call} {target s : Text} {o : Outbound} {body : Body} {uri : Uri} {host v : Bytes}

theorem resign_eq_ok (h : c.resign target = .ok c') :
    ∃ s v, Signature.signRequest c.head c.credentials.authorization c.credentials.secret target =
        .ok s ∧ c.resignedValue s = .ok v ∧ c' = c.resigned s v := by
  rw [resign, bind_eq_ok] at h
  obtain ⟨s, hs, h⟩ := h
  obtain ⟨v, hv, h⟩ := bind_eq_ok.1 h
  exact ⟨s, v, mapError_eq_ok.1 hs, hv, (Except.ok.inj h).symm⟩

/-- A preparation that succeeds: the call is addressed, signed for the target with
its old `Authorization` value still there, and rewritten. -/
theorem prepare_eq_ok (h : c.prepare target = (.ok o, c')) :
    ∃ body uri host s v, c.body = some body ∧
      Target.uri c.route.scheme target c.head.uri.pathQuery? = .ok uri ∧
      Header.value? target = some host ∧
      Signature.signRequest (c.addressed uri host).head c.credentials.authorization
        c.credentials.secret target = .ok s ∧
      (c.addressed uri host).resignedValue s = .ok v ∧
      (o, c') = ((c.addressed uri host).resigned s v).depart body := by
  unfold prepare at h
  split at h
  · cases h
  next body hbody =>
  split at h
  · cases h
  · cases h
  next uri host huri hhost =>
  dsimp only at h
  split at h
  · cases h
  next d hresign =>
  obtain ⟨s, v, hs, hv, rfl⟩ := resign_eq_ok hresign
  obtain ⟨ho, hc⟩ := Prod.mk.inj h
  rw [Except.ok.injEq] at ho
  exact ⟨body, uri, host, s, v, hbody, huri, hhost, hs, hv, Prod.ext ho.symm hc.symm⟩

/-- Where all that it takes is there, a preparation succeeds. -/
theorem prepare_of_signed (hbody : c.body = some body)
    (huri : Target.uri c.route.scheme target c.head.uri.pathQuery? = .ok uri)
    (hhost : Header.value? target = some host)
    (hs : Signature.signRequest (c.addressed uri host).head c.credentials.authorization
      c.credentials.secret target = .ok s)
    (hv : (c.addressed uri host).resignedValue s = .ok v) :
    c.prepare target = (.ok (((c.addressed uri host).resigned s v).depart body).1,
      (((c.addressed uri host).resigned s v).depart body).2) := by
  have hresign : (c.addressed uri host).resign target =
      .ok ((c.addressed uri host).resigned s v) :=
    bind_eq_ok.2 ⟨s, mapError_eq_ok.2 hs, bind_eq_ok.2 ⟨v, hv, rfl⟩⟩
  simp only [prepare, hbody, huri, hhost, hresign]

/-- All that a preparation changes. -/
theorem prepare_eq (c : Call) (target : Text) :
    ∃ head body credentials, (c.prepare target).2 = { c with head, body, credentials } ∧
      credentials.unsigned = c.credentials.unsigned := by
  unfold prepare
  split
  · exact ⟨_, _, _, rfl, rfl⟩
  · split
    · exact ⟨_, _, _, rfl, rfl⟩
    · exact ⟨_, _, _, rfl, rfl⟩
    · dsimp only
      split
      · exact ⟨_, _, _, rfl, rfl⟩
      · next d hd =>
        obtain ⟨s, v, -, -, rfl⟩ := resign_eq_ok hd
        exact ⟨_, _, _, rfl, rfl⟩

/-- Nothing that happens on the way to an origin changes more of the credentials than
the signature. -/
theorem unsigned_prepare (c : Call) (target : Text) :
    (c.prepare target).2.credentials.unsigned = c.credentials.unsigned := by
  obtain ⟨_, _, credentials, h, hsame⟩ := prepare_eq c target
  rw [h]
  exact hsame

theorem takeBody_eq (c : Call) : ∃ body, c.takeBody.2 = { c with body } := by
  unfold takeBody
  split
  · exact ⟨_, rfl⟩
  · exact ⟨_, rfl⟩

theorem hijack_eq (c : Call) :
    ∃ hasSink hijacked, c.hijack.2 = { c with hasSink, hijacked } := by
  unfold hijack
  split
  · exact ⟨_, _, rfl⟩
  · split
    · exact ⟨_, _, rfl⟩
    · exact ⟨_, _, rfl⟩

end Call

end Countersign
