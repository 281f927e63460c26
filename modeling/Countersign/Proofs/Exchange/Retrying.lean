import Countersign.Proofs.Exchange.Attempt
/-! Forwarding again. Each attempt starts from what the one before has made of the call: an
absolute target, another host and a signature that is already new. None of this is seen any
more in what the next one makes of it. -/

namespace Countersign

open Countersign.Http
open Countersign.Signature

/-- A new signature makes no difference to that. -/
theorem Credentials.AreRead.resigned {c : Credentials} (h : c.AreRead) (s : Text) :
    { c with authorization := { c.authorization with signature := s } : Credentials }.AreRead := by
  obtain ⟨t, a, ha, ht, hsame⟩ := h
  exact ⟨t, a, ha, ht, congrArg (fun b : Authorization => { b with signature := s }) hsame⟩

namespace Call

variable {c : Call} {target u s : Text} {body : Body} {v : Bytes}

def withBody (c : Call) (b : Body) : Call := { c with body := some b }

/-- What a call needs so that it can be forwarded again and again. -/
structure Steady (c : Call) : Prop where
  read : c.credentials.AreRead
  time : ∃ time, timestamp c.head.headers = .ok time
  value : ∃ t a, c.head.headers.text? "authorization" = some t ∧ Authorization.ofText t = .ok a
  unsigned : ∀ n ∈ c.credentials.authorization.signedHeaders, Text.lower n ≠ "authorization"

theorem Steady.withBody (h : c.Steady) (b : Body) : (c.withBody b).Steady :=
  ⟨h.read, h.time, h.value, h.unsigned⟩

/-- The call as an attempt for `target` leaves it, with a body put in again. -/
def reinstalled (c : Call) (target s : Text) (v : Bytes) (b : Body) : Call :=
  ((c.readdressed target).resigned s v).withBody b

/-- The next attempt replaces the host, and the `Authorization` value is all that is left of the
one before. -/
theorem headers_reinstalled (c : Call) (target u s : Text) (v : Bytes) (b : Body) :
    ((c.reinstalled target s v b).readdressed u).head.headers.erase "authorization" =
      ((c.withBody b).readdressed u).head.headers.erase "authorization" := by
  have hne : ("host" : Text) ≠ "authorization" := by decide
  let hs := c.head.headers
  let old := Text.Utf8.encode target
  let new := Text.Utf8.encode u
  calc (((hs.set "host" old).set "authorization" v).set "host" new).erase "authorization"
      = (((hs.set "host" old).set "authorization" v).erase "authorization").set "host" new :=
        Headers.erase_set_other hne
    _ = ((hs.set "host" old).erase "authorization").set "host" new := by
        rw [Headers.erase_set_self]
    _ = ((hs.erase "authorization").set "host" old).set "host" new := by
        rw [Headers.erase_set_other hne]
    _ = (hs.erase "authorization").set "host" new := Headers.set_of_erase Headers.erase_set_self
    _ = (hs.set "host" new).erase "authorization" := (Headers.erase_set_other hne).symm

/-- Neither the old signature nor its header is signed. -/
theorem signRequest_reinstalled
    (hn : ∀ n ∈ c.credentials.authorization.signedHeaders, Text.lower n ≠ "authorization")
    (b : Body) :
    signRequest ((c.reinstalled target s v b).readdressed u).head
        (c.reinstalled target s v b).credentials.authorization
        (c.reinstalled target s v b).credentials.secret u =
      signRequest ((c.withBody b).readdressed u).head c.credentials.authorization
        c.credentials.secret u := by
  have hheaders := headers_reinstalled c target u s v b
  have hagree : AgreeOn c.credentials.authorization
      ((c.reinstalled target s v b).readdressed u).head.headers
      ((c.withBody b).readdressed u).head.headers :=
    ⟨Headers.values_of_erase hheaders (by decide), Headers.values_of_erase hheaders (by decide),
      fun n hm => Headers.values_of_erase hheaders (hn n hm)⟩
  exact signRequest_congr (r := ((c.withBody b).readdressed u).head) hagree

/-- A signature goes where the one before it went. -/
theorem resignedValue_reinstalled {t : Text} {a : Authorization}
    (ht : c.head.headers.text? "authorization" = some t) (ha : Authorization.ofText t = .ok a)
    (hs : Header.IsText s) (htoken : IsToken s) (hv : (c.readdressed target).resignedValue s = .ok v)
    (b : Body) (s' : Text) :
    ((c.reinstalled target s v b).readdressed u).resignedValue s' =
      ((c.withBody b).readdressed u).resignedValue s' := by
  obtain ⟨v', t', hv', htext, hswap⟩ :=
    resignedValue_eq_ok ((text?_addressed c _ _).trans ht) ha hs htoken.2
  obtain rfl : v = v' := Except.ok.inj (hv.symm.trans hv')
  have hold : ((c.withBody b).readdressed u).head.headers.text? "authorization" = some t :=
    (text?_addressed _ _ _).trans ht
  have hnew : ((c.reinstalled target s v b).readdressed u).head.headers.text? "authorization" =
      some t' := (text?_addressed _ _ _).trans (Headers.text?_set_self.trans htext)
  simp only [resignedValue, hold, hnew, Option.bind_some, swap_swap htoken hswap]
  rfl

/-- To prepare `c` is to prepare `c'`, whatever the body and the target. -/
def Resumes (c c' : Call) : Prop :=
  ∀ (b : Body) (u : Text), Authority.check u = .ok () →
    (c.withBody b).prepare u = (c'.withBody b).prepare u

theorem resumes_of_prepare (hc : c.Steady) (hbody : c.body = some body)
    (hcheck : Authority.check target = .ok ()) :
    ∃ o c', c.prepare target = (.ok o, c') ∧ o.body = body ∧ c'.Resumes c := by
  obtain ⟨time, htime⟩ := hc.time
  obtain ⟨t, a, ht, ha⟩ := hc.value
  obtain ⟨s, v, hs, hv, hprepare⟩ := prepare_timed hc.read hbody hcheck htime
  refine ⟨_, _, hprepare, rfl, fun b u hu => ?_⟩
  change (c.reinstalled target s v b).prepare u = (c.withBody b).prepare u
  have hread : (c.reinstalled target s v b).credentials.AreRead := hc.read.resigned s
  have htime' : timestamp (c.reinstalled target s v b).head.headers = .ok time :=
    (timestamp_resigned _ s v).trans ((timestamp_addressed ..).trans htime)
  obtain ⟨s₁, v₁, hs₁, hv₁, h₁⟩ := prepare_timed hread rfl hu htime'
  obtain ⟨s₂, v₂, hs₂, hv₂, h₂⟩ := prepare_timed (c := c.withBody b) hc.read rfl hu htime
  obtain ⟨key, m, rfl⟩ := signRequest_eq_ok hs
  rw [signRequest_reinstalled hc.unsigned] at hs₁
  obtain rfl : s₁ = s₂ := Except.ok.inj (hs₁.symm.trans hs₂)
  have hvalue := resignedValue_reinstalled (u := u) ht ha (isText_hex _) (isToken_sign key m) hv b s₁
  obtain rfl : v₁ = v₂ := Except.ok.inj (hv₁.symm.trans (hvalue.trans hv₂))
  have hheaders := headers_reinstalled c target u (sign key m) v b
  have hsame : ((c.reinstalled target (sign key m) v b).readdressed u).resigned s₁ v₁ =
      ((c.withBody b).readdressed u).resigned s₁ v₁ := by
    rw [resigned, Headers.set_of_erase hheaders]
    rfl
  rw [h₁, h₂, hsame]

end Call

/-- One attempt: a body, the host it is sent to, and what is read meanwhile. -/
structure Attempt where
  body : Body
  target : Text
  meanwhile : List Body := []

namespace Exchange

variable {x y : Exchange}

/-- Put in the next body and forward it, as often as there is another attempt. -/
def retrying : List Attempt → Program Unit
  | [] => .done ()
  | a :: rest => .act (.putBody a.body) fun _ => .act (.forward a.target a.meanwhile) fun _ =>
      retrying rest

/-- Forward what is there, and try again. -/
def forwarding (first : Attempt) (rest : List Attempt) : Program Unit :=
  .act (.forward first.target first.meanwhile) fun _ => retrying rest

def withBody (x : Exchange) (b : Body) : Exchange := { x with call := x.call.withBody b }

/-- The attempt as the only one. -/
def alone (x : Exchange) (a : Attempt) : Exchange :=
  ((x.withBody a.body).forward a.target a.meanwhile).2

theorem call_putBody (x : Exchange) (b : Body) : (x.putBody b).call = x.call.withBody b := by
  unfold putBody
  split <;> rfl

theorem events_putBody (x : Exchange) (b : Body) : (x.putBody b).events = x.events := by
  unfold putBody
  split <;> rfl

/-- What `a` sends when it is the only attempt. -/
def Sends (x : Exchange) (a : Attempt) (o : Outbound) : Prop :=
  o.body = a.body ∧ (x.alone a).events = x.events ++ [.forwarded o]

theorem inboundHost_alone (x : Exchange) (a : Attempt) :
    (x.alone a).call.inboundHost = x.call.inboundHost := by
  obtain ⟨_, _, _, h, -⟩ := Call.prepare_eq (x.withBody a.body).call a.target
  rw [alone, call_forward, h]
  rfl

theorem alone_resumes (hx : x.call.Steady) {a : Attempt}
    (hcheck : Authority.check a.target = .ok ()) : (x.alone a).call.Resumes x.call := by
  obtain ⟨o, c, hprepare, -, hresumes⟩ :=
    Call.resumes_of_prepare (hx.withBody a.body) rfl hcheck
  obtain ⟨-, hcall, -⟩ := forward_of_prepare (x := x.withBody a.body) hprepare a.meanwhile
  rw [alone, hcall]
  exact hresumes

/-- Where a call is prepared as that of `x` would be, the attempt does what it does alone. -/
theorem forward_eq_alone (hx : x.call.Steady) {a : Attempt}
    (hcheck : Authority.check a.target = .ok ())
    (hy : y.call.prepare a.target = (x.call.withBody a.body).prepare a.target) :
    (y.forward a.target a.meanwhile).2.call = (x.alone a).call ∧
      ∃ o, x.Sends a o ∧ (y.forward a.target a.meanwhile).2.events = y.events ++ [.forwarded o] := by
  obtain ⟨o, c, hprepare, hbody, -⟩ := Call.resumes_of_prepare (hx.withBody a.body) rfl hcheck
  obtain ⟨-, hcall, hevents⟩ := forward_of_prepare (x := x.withBody a.body) hprepare a.meanwhile
  obtain ⟨-, hcall', hevents'⟩ := forward_of_prepare (hy.trans hprepare) a.meanwhile
  exact ⟨hcall'.trans hcall.symm, o, ⟨hbody, hevents⟩, hevents'⟩

/-- The induction is on the attempts that are left. Whatever the last one was, its call resumes
that of `x`, so the next one does from there what it does alone. -/
theorem run_retrying (hx : x.call.Steady) {rest : List Attempt} {last : Attempt}
    (hlast : Authority.check last.target = .ok ())
    (hrest : ∀ a ∈ rest, Authority.check a.target = .ok ())
    (hy : y.call = (x.alone last).call) :
    ((retrying rest).run y).2.call = (x.alone (rest.getLastD last)).call ∧
      ∃ os, ((retrying rest).run y).2.events = y.events ++ os.map .forwarded ∧
        List.Forall₂ x.Sends rest os := by
  induction rest generalizing y last with
  | nil => exact ⟨hy, [], (List.append_nil _).symm, .nil⟩
  | cons a rest ih =>
    obtain ⟨hcheck, hrest⟩ := List.forall_mem_cons.1 hrest
    have hprepare : (y.putBody a.body).call.prepare a.target =
        (x.call.withBody a.body).prepare a.target := by
      rw [call_putBody, hy]
      exact alone_resumes hx hlast a.body a.target hcheck
    obtain ⟨hcall, o, ho, hevents⟩ := forward_eq_alone hx hcheck hprepare
    obtain ⟨hfinal, os, hos, hsent⟩ := ih hcheck hrest hcall
    refine ⟨?_, o :: os, ?_, .cons ho hsent⟩
    · rw [List.getLastD_cons]
      exact hfinal
    · rw [events_putBody] at hevents
      refine hos.trans ?_
      rw [hevents, List.append_assoc]
      rfl

end Exchange

theorem Engine.steady_of_taken {e : Engine} {c : Call} {credentials : Credentials}
    (hauth : (e.authenticate c.head).1 = .ok credentials) (hc : c.credentials = credentials)
    (hn : ("authorization" : Text) ∉ credentials.authorization.signedHeaders) : c.Steady := by
  obtain ⟨claim, hclaim, -, -, -⟩ := authenticate_eq_ok.1 hauth
  obtain ⟨v, t, hv, ht, ha⟩ := hclaim.authorization
  have hlisted := listed_of_taken hauth rfl
  refine ⟨areRead_of_taken hauth (hc ▸ rfl), ⟨_, hclaim.timestamp⟩, ⟨t, _, ?_, ha⟩, ?_⟩
  · rw [Headers.text?, hv, Option.bind_some, ht]
  · intro n hm
    rw [hc] at hm
    rw [(hlisted n hm).1]
    rintro rfl
    exact hn hm

namespace Exchange

/-- A retry is as good as a first attempt. However often a request that was taken has been
forwarded, each attempt hands over what a single one would have with its body and its target,
and after the last one the call is what that one alone makes of it. Nothing in it changes the
host that the client addressed, or of the credentials more than the signature. -/
theorem retry_is_as_first_attempt (e : Engine) (credentials : Credentials) (x : Exchange)
    (first : Attempt) (rest : List Attempt)
    (hauth : (e.authenticate x.call.head).1 = .ok credentials)
    (hx : x.call.credentials = credentials) (hbody : x.call.body = some first.body)
    (hn : ("authorization" : Text) ∉ credentials.authorization.signedHeaders)
    (hcheck : ∀ a ∈ first :: rest, Authority.check a.target = .ok ()) :
    let y := ((forwarding first rest).run x).2
    y.call = (x.alone (rest.getLastD first)).call ∧
      (∃ os : List Outbound, y.events = x.events ++ os.map .forwarded ∧
        List.Forall₂ x.Sends (first :: rest) os) ∧
      y.call.inboundHost = x.call.inboundHost ∧
      y.call.credentials.unsigned = credentials.unsigned := by
  intro y
  have hsteady : x.call.Steady := Engine.steady_of_taken hauth hx hn
  obtain ⟨hfirst, hrest⟩ := List.forall_mem_cons.1 hcheck
  have hsame : x.call.withBody first.body = x.call := by
    rw [Call.withBody, ← hbody]
  obtain ⟨hcall, o, ho, hevents⟩ := forward_eq_alone hsteady hfirst (congrArg (Call.prepare · _) hsame.symm)
  obtain ⟨hfinal, os, hos, hsent⟩ := run_retrying hsteady hfirst hrest hcall
  refine ⟨hfinal, ⟨o :: os, ?_, .cons ho hsent⟩, ?_, ?_⟩
  · refine hos.trans ?_
    rw [hevents, List.append_assoc]
    rfl
  · exact (congrArg Call.inboundHost hfinal).trans (inboundHost_alone x _)
  · exact (Program.unsigned_run (forwarding first rest) x).trans (congrArg _ hx)

/-- Two hosts in turn, the second with a body of its own. -/
theorem retry_is_as_first_attempt_at_second_host :
    let first : Attempt := ⟨.stream .empty, "two.test", []⟩
    let second : Attempt := ⟨.stream (.full [1]), "three.test:80", []⟩
    ∃ (v : Bytes) (credentials : Credentials) (o o' : Outbound),
      let x := Engine.opened (Engine.claiming (Engine.dated "20240101T120000Z") v) credentials
      let y := ((forwarding first [second]).run x).2
      (Engine.sample.authenticate x.call.head).1 = .ok credentials ∧
        y.events = x.events ++ [.forwarded o, .forwarded o'] ∧ o'.body = second.body ∧
        (x.alone second).events = x.events ++ [.forwarded o'] ∧
        y.call = (x.alone second).call := by
  intro first second
  obtain ⟨v, s, hauth⟩ := Engine.exists_taken (Engine.dated "20240101T120000Z")
    "20240101T120000Z" rfl rfl
  generalize hc : Credentials.mk _ _ _ = credentials at hauth
  have hn : ("authorization" : Text) ∉ credentials.authorization.signedHeaders := by
    rw [← hc]
    change ("authorization" : Text) ∉ Signature.sample.signedHeaders
    decide
  have hcheck : ∀ a ∈ [first, second], Authority.check a.target = .ok () := by
    intro a ha
    simp only [List.mem_cons, List.not_mem_nil, or_false] at ha
    rcases ha with rfl | rfl <;> rfl
  obtain ⟨hcall, ⟨os, hos, hsent⟩, -⟩ := retry_is_as_first_attempt Engine.sample credentials
    (Engine.opened (Engine.claiming (Engine.dated "20240101T120000Z") v) credentials)
    first [second] hauth rfl rfl hn hcheck
  obtain _ | ⟨ho, hrest⟩ := hsent
  obtain _ | ⟨ho', hnil⟩ := hrest
  cases hnil
  exact ⟨v, credentials, _, _, hauth, hos, ho'.1, ho'.2, hcall⟩

end Exchange

end Countersign
