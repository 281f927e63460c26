import Countersign.Proofs.Cascade.Run
import Countersign.Proofs.Duplication.Fidelity
/-! What every reader of a cascade is told of the source. One stage conveys its source, what
the first reader of a stage was told is the source of the next one, and so the stages
together convey the first source. -/

namespace Countersign

open Plumbing

/-- What a reader may have been told of a source; `cut` says that it may have been cut off. -/
inductive Conveys (source : Source) (cut : Prop) : List Poll → Prop
  /-- The data so far. -/
  | part (bs : List Bytes) (h : bs <+: source.chunks) : Conveys source cut (bs.map .data)
  /-- All data of a source that ended, and the end. -/
  | whole (k : Nat) (hfault : source.fault? = none) (hend : source.endless = false) :
      Conveys source cut (source.chunks.map .data ++ List.replicate k .done)
  /-- All data before the fault of the source, and the fault. -/
  | broken (e : IoFault) (k : Nat) (hfault : source.fault? = some e) :
      Conveys source cut (source.chunks.map .data ++ .fault e :: List.replicate k .done)
  /-- The data up to an abort, and the fault that tells of it. -/
  | cancelled (bs : List Bytes) (k : Nat) (h : bs <+: source.chunks) (hcut : cut) :
      Conveys source cut
        (bs.map .data ++ .fault Duplication.cancelled :: List.replicate k .done)

/-- The beginning of some data and more is a beginning of the data, or the data and a
beginning of what follows. -/
theorem prefix_data {ps rest : List Poll} {bs : List Bytes} (h : ps <+: bs.map .data ++ rest) :
    (∃ cs, cs <+: bs ∧ ps = cs.map .data) ∨
      ∃ more, more <+: rest ∧ ps = bs.map .data ++ more := by
  rcases List.prefix_or_prefix_of_prefix h (List.prefix_append ..) with hp | ⟨more, rfl⟩
  · obtain ⟨cs, hcs, rfl⟩ := List.prefix_map_iff.1 hp
    exact .inl ⟨cs, hcs, rfl⟩
  · exact .inr ⟨more, (List.prefix_append_right_inj _).1 h, rfl⟩

namespace Conveys

variable {source : Source} {cut cut' : Prop} {told given : List Poll}

theorem mono (h : Conveys source cut told) (hcut : cut → cut') : Conveys source cut' told := by
  cases h with
  | part bs h => exact .part bs h
  | whole k hfault hend => exact .whole k hfault hend
  | broken e k hfault => exact .broken e k hfault
  | cancelled bs k h hc => exact .cancelled bs k h (hcut hc)

/-- Whoever is not cut off and gets to the end has been told all that there was to tell. -/
theorem complete (h : Conveys source False told) (hd : .done ∈ told) :
    ∃ k, told = source.telling ++ List.replicate (k + 1) .done := by
  have later {bs : List Bytes} {more : List Poll} (hd : .done ∈ bs.map Poll.data ++ more) :
      .done ∈ more := (List.mem_append.1 hd).resolve_left (by simp)
  cases h with
  | part bs => simp at hd
  | whole k hfault =>
    obtain ⟨j, rfl⟩ := Nat.exists_eq_succ_of_ne_zero (List.mem_replicate.1 (later hd)).1
    exact ⟨j, by simp [Source.telling, hfault]⟩
  | broken e k hfault =>
    have hdones : .done ∈ List.replicate k Poll.done :=
      (List.mem_cons.1 (later hd)).resolve_left (by simp)
    obtain ⟨j, rfl⟩ := Nat.exists_eq_succ_of_ne_zero (List.mem_replicate.1 hdones).1
    exact ⟨j, by simp [Source.telling, hfault]⟩
  | cancelled _ _ _ hcut => exact hcut.elim

/-- Nobody is told of the end, and of no fault, before all data of a source that ended. -/
theorem clean (h : Conveys source cut told) (hd : .done ∈ told) (hf : ∀ e, .fault e ∉ told) :
    source.fault? = none ∧ source.endless = false ∧
      ∃ k, told = source.chunks.map .data ++ List.replicate k .done := by
  cases h with
  | part bs => simp at hd
  | whole k hfault hend => exact ⟨hfault, hend, k, rfl⟩
  | broken e k => exact absurd (by simp) (hf e)
  | cancelled bs k => exact absurd (by simp) (hf Duplication.cancelled)

end Conveys

/-- Data and a fault, and the beginning of that. -/
theorem prefix_fault {ps : List Poll} {bs : List Bytes} {e : IoFault} {k : Nat}
    (h : ps <+: bs.map .data ++ .fault e :: List.replicate k .done) :
    (∃ cs, cs <+: bs ∧ ps = cs.map .data) ∨
      ∃ j, ps = bs.map .data ++ .fault e :: List.replicate j .done := by
  rcases prefix_data h with hdata | ⟨more, hmore, rfl⟩
  · exact .inl hdata
  · rcases List.prefix_cons_iff.1 hmore with rfl | ⟨dones, rfl, hdones⟩
    · exact .inl ⟨bs, List.prefix_rfl, List.append_nil _⟩
    · rw [(List.prefix_replicate_iff.1 hdones).2]
      exact .inr ⟨_, rfl⟩

/-- A reader of one stage is told of its source. -/
theorem conveys_of_run {source : Source} {capacity : Nat} {es : List Replay.Event} {r : Replay}
    {log : Replay.Log} (h : (Replay.start source capacity).run es = some (r, log)) (s : Side) :
    Conveys source (.abort ∈ es) (Replay.heard s log) := by
  by_cases hcut : ∃ log₁ q, Replay.CutOff (.start source capacity) es s log₁ q
  · obtain ⟨log₁, q, hc⟩ := hcut
    have habort : .abort ∈ es := by
      obtain ⟨before, after, rfl, -⟩ := hc
      simp
    obtain ⟨bs, -, hbs, k, hk⟩ := Replay.heard_cut h hc
    rcases prefix_fault hk with ⟨cs, hcs, hp⟩ | ⟨j, hp⟩
    · exact hp ▸ .part cs (hcs.trans hbs)
    · exact hp ▸ .cancelled bs j hbs habort
  · have hnew : ((Replay.start source capacity).state.reader s).dropped = false ∧
        ((Replay.start source capacity).state.reader s).ended = false := by
      cases s <;> exact ⟨rfl, rfl⟩
    obtain ⟨⟨k, hk⟩, hdone⟩ := Replay.heard_uncut h (Replay.sound_start source capacity)
      (Replay.follows_start source capacity) hnew.1 hnew.2 nofun
      fun log₁ q hc => hcut ⟨log₁, q, hc⟩
    rw [Replay.outstanding_start] at hk hdone
    rw [Source.map_script, Source.telling, List.append_assoc] at hk
    cases hf : source.fault? with
    | some e =>
      rw [hf] at hk
      rcases prefix_fault hk with ⟨cs, hcs, hp⟩ | ⟨j, hp⟩
      · exact hp ▸ .part cs hcs
      · exact hp ▸ .broken e j hf
    | none =>
      rw [hf] at hk
      rcases prefix_data hk with ⟨cs, hcs, hp⟩ | ⟨dones, hdones, hp⟩
      · exact hp ▸ .part cs hcs
      · rw [Option.toList_none, List.map_nil, List.nil_append] at hdones
        rw [(List.prefix_replicate_iff.1 hdones).2] at hp
        cases hj : dones.length with
        | zero =>
          rw [hj, List.replicate_zero, List.append_nil] at hp
          exact hp ▸ .part _ List.prefix_rfl
        | succ j =>
          rw [hj] at hp
          have hends : source.Ends := by
            refine (hdone (by simp [hp, List.replicate_succ])).resolve_right ?_
            rintro ⟨x, hx⟩
            rw [Source.script_eq, show Source.faultOf source.items = none from hf] at hx
            simp at hx
          exact hp ▸ .whole _ hf (hends.resolve_right fun h => h hf)

namespace Source

/-- What a source holds that begins with data. -/
theorem chunksOf_data (bs : List Bytes) (items : List Item) :
    chunksOf (bs.map (fun b => .ok (.data b)) ++ items) = bs ++ chunksOf items := by
  induction bs with
  | nil => rfl
  | cons b bs ih => simp [chunksOf, ih]

theorem faultOf_data (bs : List Bytes) (items : List Item) :
    faultOf (bs.map (fun b => .ok (.data b)) ++ items) = faultOf items := by
  induction bs with
  | nil => rfl
  | cons b bs ih => simpa [faultOf] using ih

/-- A source of what somebody was told. -/
theorem items_before (bs : List Bytes) (more : List Poll) (rest : Source) :
    (rest.before (bs.map .data ++ more)).items =
      bs.map (fun b => .ok (.data b)) ++ (rest.before more).items := by
  simp [before, List.filterMap_map, Function.comp_def, Poll.item?]

/-- Its data and its fault, if nothing follows but an end or a fault. -/
theorem before_eq (bs : List Bytes) (more : List Poll) (rest : Source)
    (h : (rest.before more).chunks = []) :
    (rest.before (bs.map .data ++ more)).chunks = bs ∧
      (rest.before (bs.map .data ++ more)).fault? = (rest.before more).fault? := by
  rw [chunks, fault?, items_before, chunksOf_data, faultOf_data, show chunksOf _ = [] from h,
    List.append_nil]
  exact ⟨rfl, rfl⟩

theorem before_dones (k : Nat) (rest : Source) : rest.before (List.replicate k .done) = rest := by
  have hnone : (List.replicate k Poll.done).filterMap Poll.item? = [] := by
    rw [List.filterMap_replicate_of_none rfl]
  rw [before, hnone, List.nil_append]

end Source

/-- What was told of a source, taken for a source itself: it holds no more, and it ends
or fails only as the first one does, or because of a cut. -/
structure Echoes (source : Source) (cut : Prop) (echo : Source) : Prop where
  chunks : echo.chunks <+: source.chunks
  whole : echo.fault? = none → echo.endless = false →
    source.fault? = none ∧ source.endless = false ∧ echo.chunks = source.chunks
  broken : ∀ e, echo.fault? = some e →
    source.fault? = some e ∧ echo.chunks = source.chunks ∨ e = Duplication.cancelled ∧ cut

section Echoes

variable {source echo rest : Source} {cut cut' : Prop} {told given : List Poll}

/-- Whoever is told of an echo is told of the source. -/
theorem Echoes.conveys (h : Echoes source cut echo) (h' : Conveys echo cut' told) :
    Conveys source (cut ∨ cut') told := by
  cases h' with
  | part bs hbs => exact .part bs (hbs.trans h.chunks)
  | whole k hfault hend =>
    obtain ⟨hf, he, hc⟩ := h.whole hfault hend
    exact hc ▸ .whole k hf he
  | broken e k hfault =>
    rcases h.broken e hfault with ⟨hf, hc⟩ | ⟨rfl, hcut⟩
    · exact hc ▸ .broken e k hf
    · exact .cancelled _ k h.chunks (.inl hcut)
  | cancelled bs k hbs hcut => exact .cancelled bs k (hbs.trans h.chunks) (.inr hcut)

/-- What was told is an echo, if it ends only where its end was told. -/
theorem Conveys.echoes (h : Conveys source cut given) (hrest : rest.items = [])
    (hend : rest.endless = false → .done ∈ given) : Echoes source cut (rest.before given) := by
  have nothing : rest.chunks = [] ∧ rest.fault? = none := by
    rw [Source.chunks, Source.fault?, hrest]
    exact ⟨rfl, rfl⟩
  cases h with
  | part bs hbs =>
    rw [← List.append_nil (bs.map Poll.data)] at hend ⊢
    obtain ⟨hchunks, hfault⟩ := Source.before_eq bs [] rest nothing.1
    refine ⟨by rwa [hchunks], fun _ he => ?_, fun e he => ?_⟩
    · simpa using hend he
    · rw [hfault, Source.before_nil, nothing.2] at he
      cases he
  | whole k hf he =>
    have hdones := Source.before_dones k rest
    obtain ⟨hchunks, hfault⟩ := Source.before_eq source.chunks (List.replicate k .done) rest
      (by rw [hdones, nothing.1])
    refine ⟨⟨[], by rw [hchunks, List.append_nil]⟩, fun _ _ => ⟨hf, he, hchunks⟩, fun e he => ?_⟩
    rw [hfault, hdones, nothing.2] at he
    cases he
  | broken e k hf =>
    obtain ⟨hchunks, hfault⟩ := Source.before_eq source.chunks (.fault e :: List.replicate k .done)
      rest rfl
    refine ⟨⟨[], by rw [hchunks, List.append_nil]⟩, fun hn => ?_, fun e' he => ?_⟩
    · cases hfault.symm.trans hn
    · exact .inl ⟨hf.trans (hfault.symm.trans he), hchunks⟩
  | cancelled bs k hbs hcut =>
    obtain ⟨hchunks, hfault⟩ := Source.before_eq bs
      (.fault Duplication.cancelled :: List.replicate k .done) rest rfl
    refine ⟨by rwa [hchunks], fun hn => ?_, fun e he => ?_⟩
    · cases hfault.symm.trans hn
    · exact .inr ⟨(Option.some.inj (hfault.symm.trans he)).symm, hcut⟩

end Echoes

namespace Cascade

variable {c c' t : Cascade} {e : Event} {es : List Event} {log : Answers}

theorem step_stages (hs : c.step e = some (c', log)) :
    c'.plumbing.length = c.plumbing.length + [e].count .split := by
  cases e with
  | split =>
    obtain ⟨b, -, h⟩ := Option.map_eq_some_iff.1 hs
    cases h
    simp [addStage]
  | take =>
    obtain ⟨b, -, h⟩ := Option.map_eq_some_iff.1 hs
    cases h
    rfl
  | task i m =>
    obtain ⟨p, hp, h⟩ := Option.map_eq_some_iff.1 hs
    cases h
    exact (spares_move hp).length_eq
  | poll i s =>
    simp only [step] at hs
    split at hs
    · cases hs
      exact length_poll c.plumbing (.reader i s)
    · cases hs
  | drop i s =>
    simp only [step] at hs
    split at hs
    · cases hs
      exact length_release c.plumbing (.reader i s)
    · cases hs
  | abort i =>
    cases hs
    exact length_abort c.plumbing i

/-- There is a stage for every time the body was split. -/
theorem run_stages (h : c.run es = some (t, log)) :
    t.plumbing.length = c.plumbing.length + es.count .split := by
  induction es generalizing c log with
  | nil =>
    cases h
    rfl
  | cons e es ih =>
    obtain ⟨q, first, rest, hs, hq, -⟩ := run_cons h
    have hcount : (e :: es).count .split = [e].count .split + es.count .split := by
      rw [← List.count_append]
      rfl
    rw [ih hq, step_stages hs, hcount, Nat.add_assoc]

/-- Whose answers there can have been: of tasks that there are, and of readers that
somebody holds. -/
def MayAsk (c : Cascade) : Asker → Prop
  | .task i => i < c.plumbing.length
  | .holder i s => c.handedOut i s = true

/-- Once the body is taken it does not come back, and nothing is split any more. -/
theorem step_none (hs : c.step e = some (c', log)) (hb : c.body = none) :
    c'.body = none ∧ e ≠ .split := by
  cases e with
  | split | take => simp [step, hb] at hs
  | task i m =>
    obtain ⟨p, -, h⟩ := Option.map_eq_some_iff.1 hs
    cases h
    exact ⟨hb, by simp⟩
  | poll i s =>
    simp only [step] at hs
    split at hs
    · cases hs
      exact ⟨hb, by simp⟩
    · cases hs
  | drop i s =>
    simp only [step] at hs
    split at hs
    · cases hs
      exact ⟨hb, by simp⟩
    · cases hs
  | abort i =>
    cases hs
    exact ⟨hb, by simp⟩

/-- Whoever may ask may go on to. -/
theorem mayAsk_step {w : Asker} (hs : c.step e = some (c', log)) (h : c.MayAsk w) :
    c'.MayAsk w := by
  have hlen := step_stages hs
  match w with
  | .task i =>
    simp only [MayAsk] at h ⊢
    omega
  | .holder i .second =>
    simp only [MayAsk, handedOut, decide_eq_true_eq] at h ⊢
    omega
  | .holder i .first =>
    simp only [MayAsk, handedOut, Bool.and_eq_true, Option.isNone_iff_eq_none,
      decide_eq_true_eq] at h ⊢
    obtain ⟨hb, hi⟩ := h
    obtain ⟨hb', he⟩ := step_none hs hb
    rw [List.count_singleton, if_neg (by simpa using he)] at hlen
    exact ⟨hb', by omega⟩

theorem mayAsk_of_step (hs : c.step e = some (c', log)) : ∀ a ∈ log, c.MayAsk a.1 := by
  cases e with
  | split | take =>
    obtain ⟨b, -, h⟩ := Option.map_eq_some_iff.1 hs
    cases h
    nofun
  | abort i =>
    cases hs
    nofun
  | task i m =>
    obtain ⟨p, -, h⟩ := Option.map_eq_some_iff.1 hs
    cases h
    intro a ha
    cases m with
    | quit | deliver => cases ha
    | pull =>
      simp only [asked, List.mem_map, Option.mem_toList] at ha
      obtain ⟨g, hg, rfl⟩ := ha
      exact (List.getElem?_eq_some_iff.1 hg).1
  | poll i s =>
    simp only [step] at hs
    split at hs
    · next hi =>
      cases hs
      intro a ha
      rw [List.mem_singleton.1 ha]
      exact (Bool.and_eq_true_iff.1 hi).1
    · cases hs
  | drop i s =>
    simp only [step] at hs
    split at hs
    · cases hs
      nofun
    · cases hs

theorem run_mayAsk (h : c.run es = some (t, log)) :
    (∀ a ∈ log, t.MayAsk a.1) ∧ ∀ w, c.MayAsk w → t.MayAsk w := by
  induction es generalizing c log with
  | nil =>
    cases h
    exact ⟨nofun, fun _ => id⟩
  | cons e es ih =>
    obtain ⟨q, first, rest, hs, hq, rfl⟩ := run_cons h
    obtain ⟨hrest, hon⟩ := ih hq
    refine ⟨?_, fun w hw => hon w (mayAsk_step hs hw)⟩
    intro a ha
    rcases List.mem_append.1 ha with ha | ha
    · exact hon _ (mayAsk_step hs (mayAsk_of_step hs a ha))
    · exact hrest a ha

/-- Where only one asks for what a reader has, that one is told what the reader tells. -/
theorem heard_ofStage {i : Nat} {s : Side} {w : Asker}
    (h : ∀ a ∈ log, a.1.sideAt i = some s ↔ a.1 = w) :
    Replay.heard s (log.ofStage i) = log.heard w := by
  induction log with
  | nil => rfl
  | cons a log ih =>
    have hrest := ih fun b hb => h b (List.mem_cons_of_mem _ hb)
    have hside := h a List.mem_cons_self
    rw [← List.singleton_append, Answers.ofStage_append, Answers.heard_append,
      Replay.heard_append, hrest]
    congr 1
    have hone : Answers.ofStage i [a] = ((a.1.sideAt i).map fun u => (u, a.2)).toList := by
      rw [Answers.ofStage, List.filterMap_cons, List.filterMap_nil]
      cases (a.1.sideAt i).map fun u => (u, a.2) <;> rfl
    rw [hone]
    by_cases hw : a.1 = w
    · rw [hside.2 hw]
      cases hp : a.2.isPending <;> simp [Answers.heard, Replay.heard, hw, hp]
    · have hs : a.1.sideAt i ≠ some s := fun hs => hw (hside.1 hs)
      cases hi : a.1.sideAt i with
      | none => simp [Answers.heard, Replay.heard, hw]
      | some u =>
        have hu : u ≠ s := fun hu => hs (hi.trans (congrArg some hu))
        simp [Answers.heard, Replay.heard, hw, hu]

/-- The first reader of a stage is asked by the task of the next one, -/
theorem heard_next {i : Nat} (h : ∀ a ∈ log, c.MayAsk a.1) (hi : i + 1 < c.plumbing.length) :
    Replay.heard .first (log.ofStage i) = log.heard (.task (i + 1)) := by
  refine heard_ofStage fun a ha => ?_
  have hmay := h a ha
  match hw : a.1 with
  | .task j => by_cases hj : j = i + 1 <;> simp [Asker.sideAt, hj]
  | .holder j .first =>
    rw [hw] at hmay
    simp only [MayAsk, handedOut, Bool.and_eq_true, decide_eq_true_eq] at hmay
    have hj : j ≠ i := by omega
    simp [Asker.sideAt, hj]
  | .holder j .second => simp [Asker.sideAt]

/-- Where the body of the request has got to, and what was handed out on the way: the
first reader of the last stage, and the second one of every stage. -/
def Outlet (c : Cascade) (i : Nat) : Side → Prop
  | .first => i + 1 = c.plumbing.length
  | .second => i < c.plumbing.length

theorem lt_of_outlet {i : Nat} {s : Side} (hi : c.Outlet i s) : i < c.plumbing.length := by
  cases s with
  | first => exact hi ▸ Nat.lt_succ_self i
  | second => exact hi

/-- and an outlet by whoever holds it. -/
theorem heard_holder {i : Nat} {s : Side} (h : ∀ a ∈ log, c.MayAsk a.1) (hi : c.Outlet i s) :
    Replay.heard s (log.ofStage i) = log.heard (.holder i s) := by
  refine heard_ofStage fun a ha => ?_
  have hmay := h a ha
  match hw : a.1 with
  | .holder j u => by_cases hj : j = i <;> simp [Asker.sideAt, hj]
  | .task j =>
    rw [hw] at hmay
    cases s with
    | second => simp [Asker.sideAt]
    | first =>
      simp only [MayAsk, Outlet] at hmay hi
      have hj : j ≠ i + 1 := by omega
      simp [Asker.sideAt, hj]

/-- All readers of a stage are told of the source; an abort can have cut them off at the
stage or before it. -/
theorem conveys_stage {source : Source} {capacity : Nat}
    (h : (start source capacity).run es = some (c, log)) {i : Nat} (hi : i < c.plumbing.length)
    (s : Side) :
    Conveys source (∃ j ≤ i, .abort j ∈ es) (Replay.heard s (log.ofStage i)) := by
  obtain ⟨source', state, n, -, onward⟩ := (Linked.start source capacity).run h
  obtain ⟨asks, -⟩ := run_mayAsk h
  induction i generalizing s with
  | zero =>
    obtain ⟨es', habort, hrun⟩ := onward.share 0 source' onward.spent
    rw [← onward.supply] at hrun
    exact (conveys_of_run hrun s).mono fun ha => ⟨0, Nat.le_refl 0, habort ha⟩
  | succ i ih =>
    have hbefore := ih (by omega) .first
    rw [heard_next asks hi] at hbefore
    obtain ⟨rest, hitems, hend, hspent⟩ : ∃ rest : Source, rest.items = [] ∧
        (rest.endless = false → .done ∈ log.heard (.task (i + 1))) ∧
        (.done ∈ log.heard (.task (i + 1)) → rest = .empty) := by
      by_cases hd : .done ∈ log.heard (.task (i + 1))
      · exact ⟨.empty, rfl, fun _ => hd, fun _ => rfl⟩
      · exact ⟨⟨[], true⟩, rfl, nofun, fun h => absurd h hd⟩
    obtain ⟨es', habort, hrun⟩ := onward.share (i + 1) rest hspent
    refine ((hbefore.echoes hitems hend).conveys (conveys_of_run hrun s)).mono ?_
    rintro (⟨j, hj, ha⟩ | ha)
    · exact ⟨j, by omega, ha⟩
    · exact ⟨i + 1, Nat.le_refl _, habort ha⟩

end Cascade

end Countersign
