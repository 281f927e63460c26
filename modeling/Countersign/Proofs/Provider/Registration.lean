import Mathlib.Data.List.Induction
import Mathlib.Data.List.Nodup
import Countersign.Proofs.Provider.Choice
import Countersign.Proofs.Settings.Services
/-! What a registry answers after any number of registrations, told by the registrations
alone: under each name the last provider counts, and the names keep the order in which they
first came. -/

namespace Countersign.Registry

open Text (Firsts)

variable {r : Registry} {ps : List Provider} {p q : Provider} {name : Text}

/-- Registered last under its name. -/
def Latest (ps : List Provider) (p : Provider) : Prop :=
  ∃ before after, ps = before ++ p :: after ∧ ∀ q ∈ after, q.name ≠ p.name

/-- The name of `q` came before that of `p`. -/
def Precedes (ps : List Provider) (q p : Provider) : Prop :=
  (ps.map (·.name)).idxOf q.name < (ps.map (·.name)).idxOf p.name

/-- What a registry answers, for the registrations that led to it. -/
structure Reflects (r : Registry) (ps : List Provider) : Prop where
  distinct : (r.providers.map (·.name)).Nodup
  names : Firsts (ps.map (·.name)) r.names
  get : ∀ name p, r.get? name = some p ↔ Latest ps p ∧ p.name = name
  unknown : ∀ name, r.get? name = none ↔ ∀ p ∈ ps, p.name ≠ name
  resolve : ∀ c p, r.resolve c = some p ↔ Latest ps p ∧ p.accepts c = true ∧
    ∀ q, Latest ps q → Precedes ps q p → q.accepts c = false
  unresolved : ∀ c, r.resolve c = none ↔ ∀ p, Latest ps p → p.accepts c = false

/-- The provider of a service: that of object storage for its name, else one that only
forwards. -/
def ofService (service : Text) : Provider :=
  if service = Provider.storageName then .objectStorage none {} else .passthrough service

/-- A registry that has one provider for each service, in their order. -/
structure Serves (r : Registry) (services : List Text) : Prop where
  names : r.names = services
  provider : ∀ s ∈ services, r.get? s = some (ofService s)

/-! ## One registration -/

theorem latest_concat : Latest (ps ++ [q]) p ↔ p = q ∨ Latest ps p ∧ p.name ≠ q.name := by
  constructor
  · rintro ⟨before, after, h, hafter⟩
    rcases List.eq_nil_or_concat' after with rfl | ⟨after, last, rfl⟩
    · exact .inl (List.singleton_inj.1 (List.append_inj_right' h rfl)).symm
    · rw [← List.cons_append, ← List.append_assoc] at h
      obtain ⟨hps, hlast⟩ := List.append_inj' h rfl
      obtain rfl := List.singleton_inj.1 hlast
      obtain ⟨hafter, hq⟩ := List.forall_mem_append.1 hafter
      exact .inr ⟨⟨before, after, hps, hafter⟩, Ne.symm (hq q List.mem_cons_self)⟩
  · rintro (rfl | ⟨⟨before, after, rfl, hafter⟩, hname⟩)
    · exact ⟨ps, [], rfl, nofun⟩
    · refine ⟨before, after ++ [q], by simp, List.forall_mem_append.2 ⟨hafter, ?_⟩⟩
      simpa using Ne.symm hname

/-- Where no name stands twice, the one that is replaced is the only one of its name. -/
theorem mem_register (h : r.names.Nodup) :
    q ∈ (r.register p).providers ↔ q = p ∨ q ∈ r.providers ∧ q.name ≠ p.name := by
  rcases r.register_cases p with ⟨before, old, after, hproviders, hname, hbefore, hr⟩ | ⟨hnew, hr⟩
  · have hafter : ∀ a ∈ after, a.name ≠ p.name := by
      intro a ha hsame
      rw [names, hproviders, List.map_append, List.map_cons] at h
      have hold := (List.nodup_cons.1 (List.nodup_append.1 h).2.1).1
      exact hold (hname.trans hsame.symm ▸ List.mem_map_of_mem ha)
    rw [hr, hproviders]
    simp only [List.mem_append, List.mem_cons]
    constructor
    · rintro (hq | rfl | hq)
      · exact .inr ⟨.inl hq, hbefore q hq⟩
      · exact .inl rfl
      · exact .inr ⟨.inr (.inr hq), hafter q hq⟩
    · rintro (rfl | ⟨hq | rfl | hq, hne⟩)
      · exact .inr (.inl rfl)
      · exact .inl hq
      · exact absurd hname hne
      · exact .inr (.inr hq)
  · rw [hr, List.mem_append, List.mem_singleton]
    constructor
    · rintro (hq | rfl)
      · exact .inr ⟨hq, fun hsame => hnew (hsame ▸ List.mem_map_of_mem hq)⟩
      · exact .inl rfl
    · rintro (rfl | ⟨hq, -⟩)
      · exact .inr rfl
      · exact .inl hq

/-! ## All registrations -/

/-- What a registry holds: the last provider of each name, the names in their order. -/
structure Holds (r : Registry) (ps : List Provider) : Prop where
  names : Firsts (ps.map (·.name)) r.names
  mem_iff : ∀ p, p ∈ r.providers ↔ Latest ps p

theorem Holds.register (h : r.Holds ps) (p : Provider) : (r.register p).Holds (ps ++ [p]) where
  names := by
    rw [names_register, List.map_append, List.map_singleton]
    exact h.names.concat p.name
  mem_iff q := by rw [mem_register h.names.nodup, h.mem_iff, latest_concat]

theorem ofList_concat (ps : List Provider) (p : Provider) :
    ofList (ps ++ [p]) = (ofList ps).register p :=
  List.foldl_concat ..

theorem holds_ofList (ps : List Provider) : (ofList ps).Holds ps := by
  induction ps using List.reverseRecOn with
  | nil =>
    refine ⟨Text.firsts_nil, fun p => ⟨nofun, fun ⟨_, _, h, _⟩ => ?_⟩⟩
    cases (List.append_eq_nil_iff.1 h.symm).2
  | append_singleton ps p ih =>
    rw [ofList_concat]
    exact ih.register p

/-! ## Answers -/

theorem Holds.first_iff (h : r.Holds ps) {P : Provider → Prop} : r.First P p ↔
    Latest ps p ∧ P p ∧ ∀ q, Latest ps q → Precedes ps q p → ¬ P q := by
  have hordered : r.providers.Pairwise (Precedes ps) := by
    have hnames := h.names.ordered
    rwa [Registry.names, List.pairwise_map] at hnames
  constructor
  · rintro ⟨before, after, hproviders, hp, hbefore⟩
    rw [hproviders] at hordered
    obtain ⟨-, hfrom, -⟩ := List.pairwise_append.1 hordered
    refine ⟨(h.mem_iff p).1 (by simp [hproviders]), hp, fun q hq hprecedes => ?_⟩
    have hmem := (h.mem_iff q).2 hq
    rw [hproviders, List.mem_append, List.mem_cons] at hmem
    -- what stands behind `p` has its name behind too, so it cannot precede `p`
    rcases hmem with hmem | rfl | hmem
    · exact hbefore q hmem
    · exact absurd hprecedes (Nat.lt_irrefl _)
    · exact absurd hprecedes (Nat.lt_asymm ((List.pairwise_cons.1 hfrom).1 q hmem))
  · rintro ⟨hlatest, hp, hothers⟩
    obtain ⟨before, after, hproviders⟩ := List.append_of_mem ((h.mem_iff p).2 hlatest)
    refine ⟨before, after, hproviders, hp, fun q hq => ?_⟩
    rw [hproviders] at hordered
    refine hothers q ((h.mem_iff q).1 (by simp [hproviders, hq])) ?_
    exact (List.pairwise_append.1 hordered).2.2 q hq p List.mem_cons_self

theorem Holds.reflects (h : r.Holds ps) : r.Reflects ps where
  distinct := h.names.nodup
  names := h.names
  get name p := by
    rw [get?_eq_some, h.first_iff]
    refine and_congr_right fun _ => and_iff_left_of_imp fun hname q _ hprecedes hq => ?_
    rw [Precedes, hq, hname] at hprecedes
    exact Nat.lt_irrefl _ hprecedes
  unknown name := by
    have hmem : (r.get? name).isSome = true ↔ name ∈ r.names := by
      simp [get?, Registry.names, List.find?_isSome]
    rw [← Option.not_isSome_iff_eq_none, hmem, h.names.mem_iff]
    simp only [List.mem_map, not_exists, not_and, ne_eq]
  resolve c p := by
    rw [Registry.resolve, find?_eq_some, h.first_iff]
    simp only [Bool.not_eq_true]
  unresolved c := by
    rw [Registry.resolve, List.find?_eq_none]
    simp only [h.mem_iff, Bool.not_eq_true]

/-! ## Services -/

/-- Providers of different names are registered as they come. -/
theorem providers_ofList (h : (ps.map (·.name)).Nodup) : (ofList ps).providers = ps := by
  induction ps using List.reverseRecOn with
  | nil => rfl
  | append_singleton ps p ih =>
    rw [List.map_append] at h
    obtain ⟨hps, -, hnew⟩ := List.nodup_append.1 h
    rcases (ofList ps).register_cases p with ⟨before, old, after, hold, hname, -⟩ | ⟨-, h⟩
    · have hmem : old ∈ ps := by rw [← ih hps, hold]; simp
      exact absurd hname (hnew _ (List.mem_map_of_mem hmem) _ (by simp))
    · rw [ofList_concat, h, ih hps]

theorem serves_ofServices {services : List Text} (h : services.Nodup) :
    (ofServices services).Serves services := by
  have hname : ∀ s, (ofService s).name = s := by
    intro s
    unfold ofService
    split
    · next hs => exact hs.symm
    · rfl
  have hnames : (services.map ofService).map (·.name) = services := by
    rw [List.map_map]
    exact (List.map_congr_left fun s _ => hname s).trans (List.map_id services)
  have hproviders : (ofServices services).providers = services.map ofService :=
    providers_ofList (hnames.symm ▸ h)
  have hall : (ofServices services).names = services := by rw [names, hproviders, hnames]
  refine ⟨hall, fun s hs => ?_⟩
  obtain ⟨before, after, rfl⟩ := List.append_of_mem hs
  refine get?_eq_some.2 ⟨before.map ofService, after.map ofService, ?_, hname s, ?_⟩
  · rw [hproviders, List.map_append, List.map_cons]
  · intro q hq hsame
    obtain ⟨t, ht, rfl⟩ := List.mem_map.1 hq
    rw [hname] at hsame
    exact (List.nodup_append.1 h).2.2 t ht s List.mem_cons_self hsame

/-- A registry answers by its registrations alone. It never holds two providers of one name;
its names are in the order of their first registration, each stands for the provider that was
registered last under it, and of these the first that accepts a call is taken for it. The
names of a value that lists services are registered in their order. -/
theorem answers_by_registrations (ps : List Provider) (raw : Text) :
    (ofList ps).Reflects ps ∧
      (ofServices (Settings.readServices raw)).Serves (Settings.readServices raw) :=
  ⟨(holds_ofList ps).reflects, serves_ofServices (Settings.listedBy_readServices raw).nodup⟩

/-- The first one accepts all calls, until another of its name comes last. -/
def replaced : List Provider :=
  [{ Provider.passthrough "a" with accepts := fun _ => true }, .passthrough "s3", .passthrough "a"]

/-- What came last stands in the first place. -/
theorem answers_by_registrations_of_replaced :
    (ofList replaced).names = ["a".toList, "s3".toList] ∧
      (ofList replaced).get? "a" = some (.passthrough "a") ∧
      (ofServices (Settings.readServices " S3 ,x,s3")).names = ["s3".toList, "x".toList] := by
  have h := answers_by_registrations replaced " S3 ,x,s3"
  have hlatest : Latest replaced (.passthrough "a") := ⟨replaced.dropLast, [], rfl, nofun⟩
  exact ⟨by decide, (h.1.get _ _).2 ⟨hlatest, rfl⟩, h.2.names.trans (by decide)⟩

end Countersign.Registry
