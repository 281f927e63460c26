import Countersign.Proofs.Call.Rewriting
import Countersign.Proofs.Exchange.Frame
/-! A forwarded call carries the signature that its origin requires. The signature is
made while the headers still hold the old one; what is written afterwards is not
signed, so it makes no difference. -/

namespace Countersign

open Countersign.Http
open Countersign.Signature (Authorization agreeOn_set signRequest signRequest_congr verifyRequest
  verifyRequest_of_sign)

namespace Call

variable {c c' : Call} {target : Text} {o : Outbound}

/-- A call that was prepared for a target is one that the target accepts. -/
theorem verifyRequest_of_prepare
    (hn : ∀ n ∈ c.credentials.authorization.signedHeaders, Text.lower n ≠ "authorization")
    (h : c.prepare target = (.ok o, c')) :
    verifyRequest c'.head c'.credentials.authorization c'.credentials.secret target = .ok () := by
  obtain ⟨body, uri, host, s, v, -, -, -, hs, -, hc⟩ := prepare_eq_ok h
  obtain ⟨-, rfl⟩ := Prod.mk.inj hc
  -- The new signature is no part of what is signed, and neither is its header.
  have hagree := agreeOn_set (c.addressed uri host).head.headers v (by decide) (by decide) hn
  exact verifyRequest_of_sign ((signRequest_congr hagree).trans hs) rfl

theorem outbound_of_prepare (h : c.prepare target = (.ok o, c')) :
    o.method = c'.head.method ∧ o.uri = c'.head.uri ∧
      o.headers = HopByHop.strip c'.head.headers := by
  obtain ⟨body, uri, host, s, v, -, -, -, -, -, hc⟩ := prepare_eq_ok h
  obtain ⟨rfl, rfl⟩ := Prod.mk.inj hc
  exact ⟨rfl, rfl, rfl⟩

end Call

/-- Whatever a handler has done before, a call that it forwards is signed for the
target in the scope and with the names that the client declared. -/
theorem Exchange.forward_verifies {α : Type} (p : Program α) (x : Exchange) (target : Text)
    (meanwhile : List Body) (o : Outbound)
    (hn : ∀ n ∈ x.call.credentials.authorization.signedHeaders, Text.lower n ≠ "authorization")
    (ho : ((p.run x).2.call.prepare target).1 = .ok o) :
    let c := ((p.run x).2.forward target meanwhile).2.call
    verifyRequest c.head c.credentials.authorization c.credentials.secret target = .ok () ∧
      c.credentials.unsigned = x.call.credentials.unsigned ∧
      o.method = c.head.method ∧ o.uri = c.head.uri ∧
      o.headers = HopByHop.strip c.head.headers := by
  intro c
  have hcall : c = ((p.run x).2.call.prepare target).2 := call_forward _ _ _
  have hp : (p.run x).2.call.prepare target = (.ok o, c) := Prod.ext ho hcall.symm
  have hsame : (p.run x).2.call.credentials.unsigned = x.call.credentials.unsigned :=
    Program.unsigned_run p x
  rw [← Credentials.signedHeaders_unsigned, ← hsame, Credentials.signedHeaders_unsigned] at hn
  refine ⟨Call.verifyRequest_of_prepare hn hp, ?_, Call.outbound_of_prepare hp⟩
  rw [hcall, Call.unsigned_prepare, hsame]

namespace Exchange

/-- An exchange with a call that is to go to another host. -/
def sample : Exchange where
  call :=
    { id := "request"
      head := ⟨"PUT", .absolute "https" "one.test" ⟨"/key", none⟩,
        [⟨"host", Text.Utf8.encode "one.test"⟩,
         ⟨"x-amz-date", Text.Utf8.encode "20240101T120000Z"⟩,
         ⟨"authorization", Text.Utf8.encode (Signature.sampleWith [])⟩]⟩
      body := some (.stream .empty)
      inboundHost := "one.test"
      credentials := ⟨Signature.sample, "20240101T120000Z", "secret"⟩
      route := {} }
  context := { requestId := "request", hosts := none }
  transport := .none

/-- A handler that forwards in vain, having taken the body, and then edits the target
and puts a body in again. -/
def detour : Program Unit :=
  .act .takeBody fun _ => .act (.forward "two.test" []) fun _ =>
    .act (.setUri (.relative ⟨"/other key", some "part=1"⟩)) fun _ =>
      .act (.putBody (.stream .empty)) fun _ => .done ()

theorem forward_verifies_after_detour :
    (∀ n ∈ sample.call.credentials.authorization.signedHeaders, Text.lower n ≠ "authorization") ∧
      ∃ o, ((detour.run sample).2.call.prepare "three.test").1 = .ok o ∧
        let c := ((detour.run sample).2.forward "three.test" []).2.call
        verifyRequest c.head c.credentials.authorization c.credentials.secret "three.test" = .ok () ∧
          o.uri = c.head.uri := by
  have hn : ∀ n ∈ sample.call.credentials.authorization.signedHeaders,
      Text.lower n ≠ "authorization" := by decide
  obtain ⟨o, ho⟩ : ∃ o, ((detour.run sample).2.call.prepare "three.test").1 = .ok o :=
    Call.exists_prepared (t := Signature.sampleWith []) (a := Signature.sample) rfl rfl rfl rfl rfl rfl
  obtain ⟨hverify, -, -, huri, -⟩ := forward_verifies detour sample "three.test" [] o hn ho
  exact ⟨hn, o, ho, hverify, huri⟩

end Exchange

end Countersign
