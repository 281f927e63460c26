import Countersign.Forward.Url
import Countersign.Proofs.Call.Preparation
import Countersign.Proofs.Http.UriText
/-! The address that a request is sent to, in the text in which it is handed on. Nothing marks
where the authority in it ends but the slash of the path, so it reads back as what was signed
unless the path has none. -/

namespace Countersign

open Countersign.Http

/-- An address is read part by part. -/
theorem Http.Uri.ofText_absolute {scheme : Scheme} {tail a rest : Text} {pq : PathQuery}
    (hlength : (Text.Utf8.encode (scheme.name ++ "://" ++ tail)).length ≤ maxBytes)
    (hsplit : Authority.split {} tail = .ok (a, rest)) (ha : a ≠ [])
    (hread : PathQuery.ofTail? rest = some pq) :
    ofText (scheme.name ++ "://" ++ tail) = .ok (.absolute scheme.name a pq) := by
  have hscheme : scheme? (scheme.name ++ "://" ++ tail) = some (scheme.name, tail) := by
    cases scheme <;> rfl
  have hshort : ¬ 64 < scheme.name.length := by
    cases scheme <;> decide
  unfold ofText
  rw [if_neg (Nat.not_lt.2 hlength)]
  split
  · next h => cases scheme <;> cases h
  · next h => cases scheme <;> cases h
  · next h => cases scheme <;> cases h
  · rw [hscheme]
    dsimp only
    rw [if_neg hshort, hsplit]
    change (if a = [] then _ else _) = _
    rw [if_neg ha, hread]

namespace Target

/-- Path and query as they come in: those of a request target, or read on their own. -/
inductive Inbound (pq : Option PathQuery) : Prop
  | target (t : Text) (v : Uri) (h : Uri.ofText t = .ok v) (hv : v.pathQuery? = pq) : Inbound pq
  | alone (t : Text) (p : PathQuery) (h : PathQuery.ofText? t = some p) (hp : some p = pq) :
    Inbound pq

variable {scheme : Scheme} {host : Text} {pq : Option PathQuery} {u : Uri}

theorem Inbound.whole (h : Inbound pq) (hstar : pq ≠ some .star) : (pq.getD .root).Whole := by
  cases pq with
  | none => exact PathQuery.whole_root
  | some p =>
    have hread : p.Whole ∨ p = .star := by
      cases h with
      | target t v h hv => exact Uri.whole_of_ofText h hv
      | alone t p' h hp =>
        obtain rfl := Option.some.inj hp
        exact PathQuery.whole_of_ofText? h
    exact hread.resolve_right fun h => hstar (congrArg some h)

theorem uri_eq_ok : Target.uri scheme host pq = .ok u ↔
    Authority.check host = .ok () ∧ u = .absolute scheme.name host (pq.getD .root) := by
  unfold Target.uri
  cases hcheck : Authority.check host with
  | error e => exact iff_of_false nofun fun h => nomatch h.1
  | ok => exact ⟨fun h => ⟨rfl, (Except.ok.inj h).symm⟩, fun h => congrArg _ h.2.symm⟩

theorem ofText_render_of_whole (hcheck : Authority.check host = .ok ()) {p : PathQuery}
    (hp : p.Whole)
    (hlength : (Text.Utf8.encode (Uri.absolute scheme.name host p).render).length ≤ Uri.maxBytes) :
    Uri.ofText (Uri.absolute scheme.name host p).render = .ok (.absolute scheme.name host p) := by
  obtain ⟨hne, hsplit⟩ := Authority.split_of_check hcheck
  obtain ⟨r, hr⟩ := hp.rooted
  have hslash : ∃ r', p.render = '/' :: r' := by
    rw [PathQuery.render, hr]
    exact ⟨_, rfl⟩
  obtain ⟨r', hr'⟩ := hslash
  have hread := hp.ofTail?_render
  rw [hr'] at hread
  rw [Uri.render, List.append_assoc] at hlength ⊢
  rw [hr'] at hlength ⊢
  exact Uri.ofText_absolute hlength (Authority.split_append_end hsplit rfl r') hne hread

/-- Without a slash the asterisk goes to the host. -/
theorem ofText_render_star (hcheck : Authority.check host = .ok ())
    (hlength : (Text.Utf8.encode (Uri.absolute scheme.name host .star).render).length ≤
      Uri.maxBytes) :
    Uri.ofText (Uri.absolute scheme.name host .star).render =
      .ok (.absolute scheme.name (host ++ "*") .root) := by
  obtain ⟨-, hsplit⟩ := Authority.split_of_check hcheck
  rw [Uri.render, List.append_assoc] at hlength ⊢
  exact Uri.ofText_absolute hlength (Authority.split_append_star hsplit) (by simp) rfl

/-- What is read of the address of `host`, once it is written. -/
structure ReadBack (scheme : Scheme) (host : Text) (pq : Option PathQuery) (u : Uri) : Prop where
  whole : u = .absolute scheme.name host (pq.getD .root)
  /-- It reads as itself, unless it has no slash or is too long to be read. -/
  same_iff : Uri.ofText u.render = .ok u ↔
    pq ≠ some .star ∧ (Text.Utf8.encode u.render).length ≤ Uri.maxBytes
  star : pq = some .star → (Text.Utf8.encode u.render).length ≤ Uri.maxBytes →
    Uri.ofText u.render = .ok (.absolute scheme.name (host ++ "*") .root)
  oversized : Uri.maxBytes < (Text.Utf8.encode u.render).length →
    Uri.ofText u.render = .error .tooLong
  /-- It is what is signed when a call is prepared for `host`, and what is sent. -/
  signed : ∀ (c c' : Call) (o : Outbound), c.route.scheme = scheme → c.head.uri.pathQuery? = pq →
    c.prepare host = (.ok o, c') → o.uri = u ∧ ∃ headers,
      Signature.signRequest ⟨c.head.method, u, headers⟩ c.credentials.authorization
        c.credentials.secret host = .ok c'.credentials.authorization.signature

theorem address_reads_back_iff (scheme : Scheme) (host : Text) (pq : Option PathQuery) (u : Uri)
    (hpq : Inbound pq) (hu : Target.uri scheme host pq = .ok u) : ReadBack scheme host pq u := by
  obtain ⟨hcheck, hwhole⟩ := uri_eq_ok.1 hu
  have hstar : pq = some .star → (Text.Utf8.encode u.render).length ≤ Uri.maxBytes →
      Uri.ofText u.render = .ok (.absolute scheme.name (host ++ "*") .root) := by
    rintro rfl hlength
    rw [hwhole] at hlength ⊢
    exact ofText_render_star hcheck hlength
  refine ⟨hwhole, ⟨fun h => ?_, fun ⟨hne, hlength⟩ => ?_⟩, hstar,
    Uri.ofText_of_oversized, ?_⟩
  · have hlength := Uri.length_of_ofText h
    refine ⟨fun hpq => ?_, hlength⟩
    have hread := Except.ok.inj (h.symm.trans (hstar hpq hlength))
    rw [hwhole, hpq] at hread
    obtain ⟨-, -, hsame⟩ := Uri.absolute.inj hread
    exact absurd hsame (by decide)
  · rw [hwhole] at hlength ⊢
    exact ofText_render_of_whole hcheck (hpq.whole hne) hlength
  · rintro c c' o rfl rfl hprepare
    obtain ⟨body, v, b, s, w, -, hv, -, hs, -, hc⟩ := Call.prepare_eq_ok hprepare
    obtain rfl : u = v := Except.ok.inj (hu.symm.trans hv)
    obtain ⟨rfl, rfl⟩ := Prod.mk.inj hc
    exact ⟨rfl, _, hs⟩

/-- A query that follows the authority at once gets the slash that it lacks. -/
theorem address_reads_back_after_bare_query :
    let pq : PathQuery := ⟨"/", some "x=1"⟩
    let u : Uri := .absolute "http" "o.test:8080" pq
    Uri.ofText "http://one.test?x=1" = .ok (.absolute "http" "one.test" pq) ∧
      Target.uri .http "o.test:8080" (some pq) = .ok u ∧ Uri.ofText u.render = .ok u := by
  intro pq u
  have hread : Uri.ofText "http://one.test?x=1" = .ok (.absolute "http" "one.test" pq) := rfl
  have hu : Target.uri .http "o.test:8080" (some pq) = .ok u := rfl
  have h := address_reads_back_iff .http _ _ u (.target _ _ hread rfl) hu
  exact ⟨hread, hu, h.same_iff.2 ⟨by decide, by decide +kernel⟩⟩

/-- The asterisk is signed as the path, and asked for as a part of the host. -/
theorem asterisk_is_read_into_host :
    let u : Uri := .absolute "https" "o.test" .star
    Uri.ofText "*" = .ok (.relative .star) ∧
      Target.uri .https "o.test" (some .star) = .ok u ∧ u.path = "*" ∧
      u.render = "https://o.test*" ∧
      Uri.ofText u.render = .ok (.absolute "https" "o.test*" .root) ∧
      ∃ url, Url.ofUri? u = some url ∧ url.host = "o.test*" ∧ url.path = "/" :=
  ⟨rfl, rfl, rfl, rfl, rfl, _, rfl, by decide +kernel⟩

end Target

end Countersign
