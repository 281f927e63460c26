import Countersign.Proofs.Duplication.Progress
/-! What a reader is told in a whole run, in whatever order things happen: what its
source holds, up to the end or the fault, and nothing else; or, if an abort cuts it
off, what had reached it and then one fault that says so. -/

namespace Countersign

/-- How a reader is told of a chunk. -/
abbrev Poll.ofChunk (c : Chunk) : Poll := .item (Duplication.frameOf c)

@[simp] theorem Poll.map_ofChunk_ok (bs : List Bytes) :
    (bs.map .ok).map ofChunk = bs.map .data := by
  rw [List.map_map]
  rfl

namespace Source

/-- All that there is to tell a reader, the end apart. -/
def telling (s : Source) : List Poll :=
  s.chunks.map .data ++ s.fault?.toList.map .fault

theorem map_script (s : Source) : (script s.items).map .ofChunk = s.telling := by
  rw [script_eq, telling, List.map_append, List.map_map, List.map_map]
  rfl

end Source

namespace Replay

open Duplication

/-- What `s` finds in its queue. -/
def queued (r : Replay) (s : Side) : List Poll := (r.state.reader s).queue.map .ofChunk

/-- Reader `s` is there, and neither the end nor a fault has been passed on to it. -/
def Awaits (r : Replay) (s : Side) : Prop :=
  r.state.task.isOver = false ∧ (r.state.reader s).dropped = false ∧
    (r.state.reader s).ended = false ∧ ∀ x, .error x ∉ (r.state.reader s).queue

/-- One of the events is an abort that comes, in state `q` and after the answers
`log`, while `s` still awaits its end. -/
def CutOff (r : Replay) (events : List Event) (s : Side) (log : Log) (q : Replay) : Prop :=
  ∃ before after, events = before ++ .abort :: after ∧ r.run before = some (q, log) ∧ q.Awaits s

/-- Only a reader that is there and asks is told something. -/
theorem Effect.heard {r q : Replay} {e : Event} {a : Option Poll} (h : Effect r e q a) (s : Side) :
    heard s (entry e a) = [] ∨
      (r.state.reader s).dropped = false ∧
        ((r.state.reader s).ended = true → heard s (entry e a) = [.done]) := by
  cases h with
  | tell u _ _ hd he | fail u _ _ hd he | close u hd he | cancel u hd he =>
    by_cases hu : u = s
    · subst hu
      exact .inr ⟨hd, fun h => by simp [he] at h⟩
    · exact .inl (heard_other hu _)
  | again u hd he =>
    by_cases hu : u = s
    · subst hu
      exact .inr ⟨hd, fun _ => heard_own u rfl⟩
    · exact .inl (heard_other hu _)
  | wait u => exact .inl (heard_pending s u)
  | _ => exact .inl (heard_none s _)

/-- A reader that is gone is told nothing. -/
theorem heard_of_dropped {r t : Replay} {es : List Event} {log : Log} {s : Side}
    (h : r.run es = some (t, log)) (hd : (r.state.reader s).dropped = true) :
    heard s log = [] := by
  induction es generalizing r log with
  | nil => cases h; rfl
  | cons e es ih =>
    obtain ⟨q, a, rest, hs, hq, rfl⟩ := run_cons h
    have he := effect_of_step hs
    rw [heard_append, ih hq (he.dropped hd), List.append_nil]
    rcases he.heard s with hn | ⟨hf, -⟩
    · exact hn
    · simp [hd] at hf

/-- After its end or its fault a reader is only told that this was the end. -/
theorem heard_of_ended {r t : Replay} {es : List Event} {log : Log} {s : Side}
    (h : r.run es = some (t, log)) (he : (r.state.reader s).ended = true) :
    ∃ k, heard s log = List.replicate k .done := by
  induction es generalizing r log with
  | nil => cases h; exact ⟨0, rfl⟩
  | cons e es ih =>
    obtain ⟨q, a, rest, hs, hq, rfl⟩ := run_cons h
    have hf := effect_of_step hs
    obtain ⟨k, hk⟩ := ih hq (hf.ended he)
    rw [heard_append, hk]
    rcases hf.heard s with hn | ⟨-, hone⟩
    · exact ⟨k, by rw [hn, List.nil_append]⟩
    · exact ⟨k + 1, by rw [hone he, List.replicate_succ, List.singleton_append]⟩

/-- As long as nothing is given up, what a reader was told and what it has still to
be told make up what there was at first. -/
theorem conserved {r t : Replay} {es : List Event} {log : Log} {s : Side}
    (h : r.run es = some (t, log)) (hr : r.Sound) (ho : t.state.task.isOver = false)
    (hd : (t.state.reader s).dropped = false) (he : (t.state.reader s).ended = false) :
    ∃ bs : List Bytes, heard s log = bs.map .data ∧
      r.outstanding s = bs.map .ok ++ t.outstanding s := by
  induction es generalizing r log with
  | nil => cases h; exact ⟨[], rfl, rfl⟩
  | cons e es ih =>
    obtain ⟨q, a, rest, hs, hq, rfl⟩ := run_cons h
    have hf := effect_of_step hs
    obtain ⟨bs, hb, hout⟩ := ih hq (hf.sound hr)
    obtain ⟨lo, ld, le⟩ := run_lasting h
    obtain ⟨qo, qd, qe⟩ := run_lasting hq
    have hd' : (r.state.reader s).dropped = false := by
      cases hx : (r.state.reader s).dropped with
      | false => rfl
      | true => simp [ld s hx] at hd
    have he' : (r.state.reader s).ended = false := by
      cases hx : (r.state.reader s).ended with
      | false => rfl
      | true => simp [le s hx] at he
    have seen := hf.seen hr hd' he'
    rw [heard_append, hb]
    generalize heard s (entry e a) = told at seen
    cases seen with
    | told _ cs hcs => exact ⟨cs ++ bs, by simp, by simp [hcs, hout]⟩
    | failed _ _ _ hq' | finished _ _ _ _ hq' | cancelled _ _ _ _ hq' => simp [qe s hq'] at he
    | left _ hq' => simp [qd s hq'] at hd
    | aborted _ hq' =>
      subst hq'
      have := qo rfl
      simp [this, Task.isOver] at ho

/-- A reader that an abort cut off is told what is in its queue and then, once, that
the body was cut off. -/
theorem heard_of_aborted {r t : Replay} {es : List Event} {log : Log} {s : Side} {bs : List Bytes}
    (h : r.run es = some (t, log)) (hr : r.Sound) (ht : r.state.task = .aborted)
    (hd : (r.state.reader s).dropped = false) (he : (r.state.reader s).ended = false)
    (hq : (r.state.reader s).queue = bs.map .ok) :
    ∃ k, heard s log <+: bs.map .data ++ .fault cancelled :: List.replicate k .done := by
  induction es generalizing r log bs with
  | nil => cases h; exact ⟨0, List.nil_prefix⟩
  | cons e es ih =>
    obtain ⟨q, a, rest, hs, hrun, rfl⟩ := run_cons h
    have hf := effect_of_step hs
    have seen := hf.seen hr hd he
    rw [heard_append]
    generalize heard s (entry e a) = told at seen
    cases seen with
    | told _ cs ho hd' he' ht' =>
      have haq := ht'.2 ht
      rw [outstanding_of_isOver (by rw [ht]; rfl), outstanding_of_isOver (by rw [haq]; rfl), hq] at ho
      obtain ⟨cs', ds, rfl, hcs, hds⟩ := List.map_eq_append_iff.1 ho
      obtain rfl : cs' = cs := (List.map_inj_right fun _ _ => Except.ok.inj).1 hcs
      obtain ⟨k, hk⟩ := ih hrun (hf.sound hr) haq hd' he' hds.symm
      exact ⟨k, by simpa [List.prefix_append_right_inj] using hk⟩
    | failed _ x ho =>
      rw [outstanding_of_isOver (by rw [ht]; rfl), hq] at ho
      cases bs <;> simp at ho
    | finished _ _ _ ht' => simp [ht] at ht'
    | cancelled _ hnil _ _ hend =>
      obtain ⟨k, hk⟩ := heard_of_ended hrun hend
      rw [outstanding_of_isOver (by rw [ht]; rfl), hq] at hnil
      have : bs = [] := by simpa using hnil
      exact ⟨k, by simp [this, hk]⟩
    | left _ hgone =>
      rw [heard_of_dropped hrun hgone]
      exact ⟨0, List.nil_prefix⟩
    | aborted hover => simp [ht, Task.isOver] at hover

theorem CutOff.cons {r q w : Replay} {e : Event} {a : Option Poll} {es : List Event} {s : Side}
    {log : Log} (hs : r.step e = some (q, a)) (h : CutOff q es s log w) :
    CutOff r (e :: es) s (entry e a ++ log) w := by
  obtain ⟨before, after, rfl, hr, hw⟩ := h
  exact ⟨e :: before, after, rfl, run_of_step hs hr, hw⟩

/-- A fault that is queued stays so while only data is told. -/
theorem fault_stays {r q : Replay} {s : Side} {bs : List Bytes}
    (ho : r.outstanding s = bs.map .ok ++ q.outstanding s) (hq : q.state.task = .aborted)
    (hr : ∃ x, .error x ∈ (r.state.reader s).queue) :
    ∃ x, .error x ∈ (q.state.reader s).queue := by
  obtain ⟨x, hx⟩ := hr
  have hx' : .error x ∈ r.outstanding s := by simp [outstanding, hx]
  rw [ho, outstanding_of_isOver (by rw [hq]; rfl)] at hx'
  exact ⟨x, by simpa using hx'⟩

/-- An abort takes nothing from a reader whose fault is queued already. -/
theorem outstanding_of_late_abort {r : Replay} {s : Side} (hr : r.Sound)
    (hd : (r.state.reader s).dropped = false)
    (hfault : ∃ x, .error x ∈ (r.state.reader s).queue) :
    ({ r with state := r.state.withTask .aborted } : Replay).outstanding s = r.outstanding s := by
  have hlast := hr.last s hd
  rw [outstanding, List.append_assoc] at hlast
  rw [outstanding_of_isOver rfl, outstanding, List.append_assoc, hlast.after_fault hfault]
  simp

/-- A reader that nothing cuts off is told what is outstanding, in order, and then
only that this was all. The induction is on the events; an abort that comes too late
to cut the reader off finds a fault in its queue, and that is the last chunk. -/
theorem heard_uncut {source : Source} {r t : Replay} {es : List Event} {log : Log} {s : Side}
    (h : r.run es = some (t, log)) (hr : r.Sound) (hf : Follows source r)
    (hd : (r.state.reader s).dropped = false)
    (he : (r.state.reader s).ended = false)
    (ha : r.state.task = .aborted → ∃ x, .error x ∈ (r.state.reader s).queue)
    (hcut : ∀ log w, ¬ CutOff r es s log w) :
    (∃ k, heard s log <+: (r.outstanding s).map .ofChunk ++ List.replicate k .done) ∧
      (.done ∈ heard s log → source.Ends ∨ ∃ x, .error x ∈ r.outstanding s) := by
  induction es generalizing r log with
  | nil => cases h; exact ⟨⟨0, List.nil_prefix⟩, fun h => by simp [heard] at h⟩
  | cons e es ih =>
    obtain ⟨q, a, rest, hs, hrun, rfl⟩ := run_cons h
    have hE := effect_of_step hs
    have hcut' : ∀ log w, ¬ CutOff q es s log w := fun log w hw => hcut _ w (hw.cons hs)
    have seen := hE.seen hr hd he
    rw [heard_append]
    generalize heard s (entry e a) = told at seen
    cases seen with
    | told _ bs ho hd' he' ht' =>
      have ha' : q.state.task = .aborted → ∃ x, .error x ∈ (q.state.reader s).queue := by
        intro hq
        exact fault_stays ho hq (ha (ht'.1 hq))
      obtain ⟨⟨k, hk⟩, hdone⟩ :=
        ih hrun (hE.sound hr) (hE.follows hr hf) hd' he' ha' hcut'
      refine ⟨⟨k, ?_⟩, fun h => ?_⟩
      · rw [ho, List.map_append, Poll.map_ofChunk_ok, List.append_assoc,
          List.prefix_append_right_inj]
        exact hk
      · simpa [ho] using hdone (by simpa using h)
    | failed _ x ho hend =>
      obtain ⟨k, hk⟩ := heard_of_ended hrun hend
      have hout : r.outstanding s = [.error x] := by
        have hlast := hr.last s hd
        rw [ho] at hlast ⊢
        exact congrArg _ hlast
      refine ⟨⟨k, ?_⟩, fun _ => .inr ⟨x, by simp [hout]⟩⟩
      simp [hout, hk, frameOf]
    | finished _ hout _ ht' hend =>
      obtain ⟨k, hk⟩ := heard_of_ended hrun hend
      refine ⟨⟨k + 1, ?_⟩, fun _ => .inl ?_⟩
      · simp [hout, hk, List.replicate_succ]
      · simp only [Follows, ht'] at hf
        exact hf.resolve_right fun h => by simp [h s] at hd
    | cancelled _ hout _ ht' =>
      obtain ⟨x, hx⟩ := ha ht'
      rw [outstanding_of_isOver (by rw [ht']; rfl)] at hout
      simp [hout] at hx
    | left _ hgone =>
      rw [heard_of_dropped hrun hgone]
      exact ⟨⟨0, List.nil_prefix⟩, fun h => by simp at h⟩
    | aborted hover hq' =>
      have hfault : ∃ x, .error x ∈ (r.state.reader s).queue := by
        apply Classical.byContradiction
        intro hno
        exact hcut [] r ⟨[], es, rfl, rfl, hover, hd, he, fun x hx => hno ⟨x, hx⟩⟩
      subst hq'
      rw [← outstanding_of_late_abort hr hd hfault]
      exact ih hrun (hE.sound hr) (hE.follows hr hf) (by simpa using hd) (by simpa using he)
        (fun _ => by simpa using hfault) hcut'

/-- What a reader that is cut off is told in all. -/
theorem heard_cut {source : Source} {capacity : Nat} {es : List Event} {t q : Replay}
    {log log₁ : Log} {s : Side} (h : (start source capacity).run es = some (t, log))
    (hc : CutOff (start source capacity) es s log₁ q) :
    ∃ bs : List Bytes, heard s log₁ ++ q.queued s = bs.map .data ∧ bs <+: source.chunks ∧
      ∃ k, heard s log <+: bs.map .data ++ .fault cancelled :: List.replicate k .done := by
  obtain ⟨before, after, rfl, hq, hover, hd, he, hno⟩ := hc
  obtain ⟨q', log₁', log₂, hq', hafter, rfl⟩ := run_split h
  obtain ⟨rfl, rfl⟩ : q = q' ∧ log₁ = log₁' := by simpa [hq] using hq'
  have hsound := run_sound hq (sound_start source capacity)
  obtain ⟨bs, hb, hout⟩ := conserved hq (sound_start source capacity) hover hd he
  obtain ⟨qs, hqs⟩ := exists_data hno
  obtain ⟨w, a, rest, hs, hrun, hrest⟩ := run_cons hafter
  have hlog : heard s log₂ = heard s rest := by rw [hrest]; rfl
  obtain ⟨k, hk⟩ : ∃ k, heard s rest <+: qs.map .data ++ .fault cancelled :: .replicate k .done := by
    have hE := effect_of_step hs
    have hsound' := hE.sound hsound
    cases hE with
    | late hl => simp [hover] at hl
    | abort _ =>
      exact heard_of_aborted hrun hsound' rfl (by simpa using hd) (by simpa using he)
        (by simpa using hqs)
  refine ⟨bs ++ qs, ?_, ?_, k, ?_⟩
  · simp [hb, queued, hqs, Function.comp_def, frameOf]
  · rw [outstanding_start, outstanding, hqs] at hout
    have hout' : Source.script source.items = (bs ++ qs).map .ok ++
        (q.state.task.held s ++ q.state.task.upcoming q.source.items) := by simpa using hout
    exact Source.prefix_chunks hout'
  · rw [heard_append, hlog, hb]
    simpa using hk

/-- What reader `s` has been told once `events` have happened to a fresh duplication. -/
structure Faithful (source : Source) (capacity : Nat) (events : List Event) (r : Replay) (log : Log)
    (s : Side) : Prop where
  /-- Not cut off: the data in order and whole, then the fault if there is one, then
  nothing more; and the end comes only where the source comes to one. -/
  uncut : (∀ log₁ q, ¬ CutOff (start source capacity) events s log₁ q) →
    (∃ k, heard s log <+: source.telling ++ List.replicate k .done) ∧
      (.done ∈ heard s log → source.Ends)
  /-- Cut off: what it had been told and what was queued, then one fault, then nothing. -/
  cut : ∀ log₁ q, CutOff (start source capacity) events s log₁ q →
    ∃ bs : List Bytes, heard s log₁ ++ q.queued s = bs.map .data ∧ bs <+: source.chunks ∧
      ∃ k, heard s log <+: bs.map .data ++ .fault cancelled :: List.replicate k .done
  /-- It can be read on until it has been told all that. -/
  complete : (r.state.reader s).dropped = false →
    (source.Ends ∨ ∃ log₁ q, CutOff (start source capacity) events s log₁ q) →
    ∃ more t log', (∀ e ∈ more, e.GoesOn) ∧
      (start source capacity).run (events ++ more) = some (t, log') ∧ .done ∈ heard s log'

/-- Once a run has cut a reader off its task is over. -/
theorem CutOff.over {r t q : Replay} {es : List Event} {s : Side} {log log₁ : Log}
    (hc : CutOff r es s log₁ q) (h : r.run es = some (t, log)) : t.state.task.isOver = true := by
  obtain ⟨before, after, rfl, hq, hover, -⟩ := hc
  obtain ⟨q', _, _, hq', hafter, -⟩ := run_split h
  obtain ⟨rfl, -⟩ : q = q' ∧ log₁ = _ := by simpa [hq] using hq'
  obtain ⟨w, a, rest, hs, hrun, -⟩ := run_cons hafter
  cases effect_of_step hs with
  | late hl => simp [hover] at hl
  | abort => rw [(run_lasting hrun).1 rfl]; rfl

end Replay

end Countersign
