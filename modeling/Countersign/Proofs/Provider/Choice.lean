import Countersign.Proofs.Text.Characters
import Countersign.Proofs.Text.Cutting
import Countersign.Engine
/-! How a host is looked up and a provider found. A lookup is asked for one key after another
and may miss, name something of no use, answer or fail; what it comes to is said here as a
relation, which the searches compute. -/

namespace Countersign

open Text (lower)

/-! ## Keys -/

namespace Target

variable {host host' name : Text}

/-- A name and a port: something before the last colon, and only digits, or nothing, behind
it. -/
def Ported (host name : Text) : Prop :=
  name ≠ [] ∧ ∃ port, host = name ++ ':' :: port ∧ ∀ c ∈ port, Text.Decimal.isDigit c = true

theorem candidates_of_ported (h : Ported (lower host) name) :
    candidates host = [lower host, name] := by
  obtain ⟨hname, port, hhost, hport⟩ := h
  have hcolon : ':' ∉ port := fun hc => nomatch hport ':' hc
  obtain ⟨c, name, rfl⟩ := List.exists_cons_of_ne_nil hname
  unfold candidates
  dsimp only
  rw [Text.cutLast?_eq_some.2 ⟨hhost, hcolon⟩]
  exact if_pos (List.all_eq_true.2 hport)

theorem candidates_of_unported (h : ∀ name, ¬ Ported (lower host) name) :
    candidates host = [lower host] := by
  unfold candidates
  dsimp only
  split
  · next c name port hcut =>
    obtain ⟨hhost, -⟩ := Text.cutLast?_eq_some.1 hcut
    exact if_neg fun hport =>
      h _ ⟨List.cons_ne_nil c name, port, hhost, List.all_eq_true.1 hport⟩
  · rfl

theorem candidates_congr (h : lower host = lower host') : candidates host = candidates host' := by
  unfold candidates
  rw [h]

end Target

/-! ## Asking -/

section

variable {α : Type} {l : Lookup} {accept : Text → Option α} {keys asked : List Text}
  {found : Except Text (Option α)}

/-- The lookup answers, with nothing or with nothing of use. -/
def Lookup.Misses (l : Lookup) (accept : Text → Option α) (key : Text) : Prop :=
  ∃ answer, l key = .ok answer ∧ answer.bind accept = none

/-- What is found along the keys, and the keys that are asked for it: all up to the one that
decides. -/
inductive Lookup.Searched (l : Lookup) (accept : Text → Option α) (keys : List Text) :
    Except Text (Option α) → List Text → Prop
  | answered {before after : List Text} {key answer : Text} {a : α}
      (hkeys : keys = before ++ key :: after) (hbefore : ∀ k ∈ before, l.Misses accept k)
      (hanswer : l key = .ok (some answer)) (haccept : accept answer = some a) :
      Searched l accept keys (.ok (some a)) (before ++ [key])
  | failed {before after : List Text} {key detail : Text}
      (hkeys : keys = before ++ key :: after) (hbefore : ∀ k ∈ before, l.Misses accept k)
      (hfailure : l key = .error detail) :
      Searched l accept keys (.error detail) (before ++ [key])
  | missed (hkeys : ∀ k ∈ keys, l.Misses accept k) : Searched l accept keys (.ok none) keys

/-- Where there is no table nothing is asked and nothing found. -/
def Asking (table : Option Lookup) (accept : Text → Option α) (keys : List Text)
    (found : Except Text (Option α)) (asked : List Text) : Prop :=
  match table with
  | none => found = .ok none ∧ asked = []
  | some l => l.Searched accept keys found asked

namespace Lookup

theorem search_of_misses {before : List Text} (h : ∀ k ∈ before, l.Misses accept k)
    (keys : List Text) : l.search accept (before ++ keys) =
      ((l.search accept keys).1, before ++ (l.search accept keys).2) := by
  induction before with
  | nil => rfl
  | cons key before ih =>
    obtain ⟨⟨answer, hanswer, hmiss⟩, hbefore⟩ := List.forall_mem_cons.1 h
    rw [List.cons_append, search, hanswer]
    dsimp only
    rw [hmiss, ih hbefore]
    rfl

theorem Searched.search_eq (h : l.Searched accept keys found asked) :
    l.search accept keys = (found, asked) := by
  cases h with
  | answered hkeys hbefore hanswer haccept =>
    rw [hkeys, search_of_misses hbefore, search, hanswer]
    simp only [Option.bind_some, haccept]
  | failed hkeys hbefore hfailure => rw [hkeys, search_of_misses hbefore, search, hfailure]
  | missed hkeys =>
    have hall := search_of_misses hkeys []
    rwa [List.append_nil, search, List.append_nil] at hall

theorem exists_searched (l : Lookup) (accept : Text → Option α) (keys : List Text) :
    ∃ found asked, l.Searched accept keys found asked := by
  induction keys with
  | nil => exact ⟨_, _, .missed nofun⟩
  | cons key keys ih =>
    cases hkey : l key with
    | error detail => exact ⟨_, _, .failed (List.nil_append _).symm nofun hkey⟩
    | ok answer =>
      cases haccept : answer.bind accept with
      | some a =>
        obtain ⟨text, rfl, htext⟩ := Option.bind_eq_some_iff.1 haccept
        exact ⟨_, _, .answered (List.nil_append _).symm nofun hkey htext⟩
      | none =>
        have hmiss : l.Misses accept key := ⟨answer, hkey, haccept⟩
        obtain ⟨found, asked, h⟩ := ih
        cases h with
        | answered hkeys hbefore hanswer haccept =>
          exact ⟨_, _, .answered (congrArg _ hkeys) (List.forall_mem_cons.2 ⟨hmiss, hbefore⟩)
            hanswer haccept⟩
        | failed hkeys hbefore hfailure =>
          exact ⟨_, _, .failed (congrArg _ hkeys) (List.forall_mem_cons.2 ⟨hmiss, hbefore⟩)
            hfailure⟩
        | missed hkeys => exact ⟨_, _, .missed (List.forall_mem_cons.2 ⟨hmiss, hkeys⟩)⟩

end Lookup

theorem exists_asking (table : Option Lookup) (accept : Text → Option α) (keys : List Text) :
    ∃ found asked, Asking table accept keys found asked := by
  cases table with
  | none => exact ⟨_, _, rfl, rfl⟩
  | some l => exact l.exists_searched accept keys

end

theorem Asking.unique {α : Type} {table : Option Lookup} {accept : Text → Option α}
    {keys asked asked' : List Text} {found found' : Except Text (Option α)}
    (h : Asking table accept keys found asked) (h' : Asking table accept keys found' asked') :
    found = found' ∧ asked = asked' := by
  cases table with
  | none => exact ⟨h.1.trans h'.1.symm, h.2.trans h'.2.symm⟩
  | some l => exact Prod.mk.inj (h.search_eq.symm.trans h'.search_eq)

/-- The origin for a host: the first answer along its keys, or else the one to fall back on. -/
theorem Context.resolve_eq {c : Context} {host : Text} {found : Except Text (Option Text)}
    {asked : List Text} (h : Asking c.hosts some (Target.candidates host) found asked)
    (fallback : Text) :
    c.resolve host fallback = ((found.mapError .lookup).map (·.getD fallback), asked) := by
  unfold resolve
  cases hhosts : c.hosts with
  | none =>
    rw [hhosts] at h
    obtain ⟨rfl, rfl⟩ := h
    rfl
  | some l =>
    rw [hhosts] at h
    dsimp only
    rw [Lookup.Searched.search_eq h]
    cases found <;> rfl

/-! ## Providers -/

/-- The first of the providers in their order that something is true of. -/
def Registry.First (r : Registry) (P : Provider → Prop) (p : Provider) : Prop :=
  ∃ before after, r.providers = before ++ p :: after ∧ P p ∧ ∀ q ∈ before, ¬ P q

theorem Registry.First.congr {r : Registry} {P Q : Provider → Prop} {p : Provider}
    (h : r.First P p) (hsame : ∀ q ∈ r.providers, P q ↔ Q q) : r.First Q p := by
  obtain ⟨before, after, hproviders, hp, hbefore⟩ := h
  rw [hproviders] at hsame
  refine ⟨before, after, hproviders, (hsame p (by simp)).1 hp, fun q hq hQ => ?_⟩
  exact hbefore q hq ((hsame q (by simp [hq])).2 hQ)

theorem Registry.find?_eq_some {r : Registry} {P : Provider → Bool} {p : Provider} :
    r.providers.find? P = some p ↔ r.First (P · = true) p := by
  rw [List.find?_eq_some_iff_append]
  simp only [First, Bool.not_eq_true, Bool.not_eq_true']
  exact ⟨fun ⟨hp, before, after, h, hbefore⟩ => ⟨before, after, h, hp, hbefore⟩,
    fun ⟨before, after, h, hp, hbefore⟩ => ⟨hp, before, after, h, hbefore⟩⟩

/-- A name names the first provider that has it. -/
theorem Registry.get?_eq_some {r : Registry} {name : Text} {p : Provider} :
    r.get? name = some p ↔ r.First (·.name = name) p := by
  rw [get?, find?_eq_some]
  simp only [decide_eq_true_eq]

namespace Engine

/-- The provider for a call and the keys that the service table was asked for: the provider
that an answer names, or else the first that accepts the call. -/
inductive Chosen (e : Engine) (c : Call) : Except Failure Provider → List Text → Prop
  | named {p : Provider} {asked : List Text}
      (h : Asking e.services e.registry.get? (Target.candidates c.inboundHost) (.ok (some p)) asked) :
      Chosen e c (.ok p) asked
  | accepting {p : Provider} {asked : List Text}
      (h : Asking e.services e.registry.get? (Target.candidates c.inboundHost) (.ok none) asked)
      (hfirst : e.registry.First (·.accepts c = true) p) : Chosen e c (.ok p) asked
  | nowhere {asked : List Text}
      (h : Asking e.services e.registry.get? (Target.candidates c.inboundHost) (.ok none) asked)
      (hnone : ∀ p ∈ e.registry.providers, p.accepts c = false) :
      Chosen e c (.error (.providerNotFound c.inboundHost)) asked
  | failed {detail : Text} {asked : List Text}
      (h : Asking e.services e.registry.get? (Target.candidates c.inboundHost) (.error detail) asked) :
      Chosen e c (.error (.lookup detail)) asked

variable {e : Engine} {c : Call} {asked : List Text} {result : Except Failure Provider}

theorem hint_eq {host : Text} {found : Except Text (Option Provider)}
    (h : Asking e.services e.registry.get? (Target.candidates host) found asked) :
    e.hint host = (found.mapError .lookup, asked.map .serviceAsked) := by
  unfold hint
  cases hservices : e.services with
  | none =>
    rw [hservices] at h
    obtain ⟨rfl, rfl⟩ := h
    rfl
  | some l =>
    rw [hservices] at h
    dsimp only
    rw [Lookup.Searched.search_eq h]

theorem Chosen.provider_eq (h : e.Chosen c result asked) :
    e.provider c = (result, asked.map .serviceAsked) := by
  unfold provider
  cases h with
  | named h => rw [hint_eq h]; rfl
  | accepting h hfirst =>
    have hresolve : e.registry.resolve c = some _ := Registry.find?_eq_some.2 hfirst
    rw [hint_eq h, hresolve]
    rfl
  | nowhere h hnone =>
    have hresolve : e.registry.resolve c = none := by
      refine List.find?_eq_none.2 fun p hp => ?_
      rw [hnone p hp]
      exact Bool.false_ne_true
    rw [hint_eq h, hresolve]
    rfl
  | failed h => rw [hint_eq h]; rfl

theorem exists_chosen (e : Engine) (c : Call) : ∃ result asked, e.Chosen c result asked := by
  obtain ⟨found, asked, h⟩ :=
    exists_asking e.services e.registry.get? (Target.candidates c.inboundHost)
  match found, h with
  | .error detail, h => exact ⟨_, _, .failed h⟩
  | .ok (some p), h => exact ⟨_, _, .named h⟩
  | .ok none, h =>
    cases hresolve : e.registry.resolve c with
    | some p => exact ⟨_, _, .accepting h (Registry.find?_eq_some.1 hresolve)⟩
    | none =>
      refine ⟨_, _, .nowhere h fun p hp => ?_⟩
      exact Bool.eq_false_iff.2 (List.find?_eq_none.1 hresolve p hp)

end Engine

/-! ## Capitals -/

/-- A provider that goes by its name in the host. -/
def Provider.ByName (p : Provider) : Prop := ∀ c, p.accepts c = acceptsHost p.name c.inboundHost

theorem Provider.ByName.congr {p : Provider} {c c' : Call} (hp : p.ByName)
    (h : lower c.inboundHost = lower c'.inboundHost) : p.accepts c = p.accepts c' := by
  rw [hp, hp, acceptsHost, acceptsHost, h]

/-- The same failure for another host. -/
def Failure.atHost (host : Text) : Failure → Failure
  | .providerNotFound _ => .providerNotFound host
  | f => f

/-- Providers that go by name are found for a host in capitals as for one in small letters. -/
theorem Engine.Chosen.congr {e : Engine} {c c' : Call} {asked : List Text}
    {result : Except Failure Provider} (h : e.Chosen c result asked)
    (hall : ∀ p ∈ e.registry.providers, p.ByName)
    (hhost : lower c.inboundHost = lower c'.inboundHost) :
    e.Chosen c' (result.mapError (.atHost c'.inboundHost)) asked := by
  have hkeys := Target.candidates_congr hhost
  cases h with
  | named h => exact .named (hkeys ▸ h)
  | accepting h hfirst =>
    refine .accepting (hkeys ▸ h) (hfirst.congr fun q hq => ?_)
    rw [(hall q hq).congr hhost]
  | nowhere h hnone =>
    refine .nowhere (hkeys ▸ h) fun p hp => ?_
    rw [← (hall p hp).congr hhost]
    exact hnone p hp
  | failed h => exact .failed (hkeys ▸ h)

end Countersign
