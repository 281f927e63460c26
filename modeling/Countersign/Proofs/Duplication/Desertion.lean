import Countersign.Proofs.Duplication.Completion
/-! A duplication that both readers have left. The task learns of it when it next has a chunk to
pass on, and so it takes one chunk more at most; a source that has an end brings it to its end,
and a source that goes silent keeps it waiting. -/

namespace Countersign.Replay

open Duplication

/-- Nobody is left to read. -/
def Deserted (r : Replay) : Prop := ∀ s, (r.state.reader s).dropped = true

theorem Effect.deserted {r q : Replay} {e : Event} {a : Option Poll} (h : Effect r e q a)
    (hr : r.Deserted) : q.Deserted := fun s => h.dropped (hr s)

theorem run_deserted {r t : Replay} {es : List Event} {log : Log} (h : r.run es = some (t, log))
    (hr : r.Deserted) : t.Deserted := fun s => (run_lasting h).2.1 s (hr s)

/-! ## At most one chunk more -/

/-- Every side that the task still serves has the chunk at hand to come, or the task is over. -/
def Closing (r : Replay) : Prop :=
  r.state.task.isOver = true ∨ ∀ s, r.state.served s = true → ∃ c, r.state.task.held s = [c]

theorem Closing.not_pulling {r : Replay} (h : r.Closing) (ht : r.state.task = .pulling) (s : Side) :
    r.state.served s = false := by
  rcases h with hover | hheld
  · simp [ht, Task.isOver] at hover
  · cases hs : r.state.served s with
    | false => rfl
    | true =>
      obtain ⟨c, hc⟩ := hheld s hs
      simp [ht, Task.held] at hc

/-- A task that is closing takes nothing more from the source. -/
theorem Effect.closing {r q : Replay} {e : Event} {a : Option Poll} (h : Effect r e q a)
    (hd : r.Deserted) (hr : r.Closing) : q.source = r.source ∧ q.Closing := by
  cases h with
  | quit | abort => exact ⟨rfl, .inl rfl⟩
  | finish ht hs | skip _ _ ht hs | take _ _ ht hs =>
    obtain ⟨s, hs⟩ := hs
    simp [hr.not_pulling ht s] at hs
  | lose s c hc hgone =>
    refine ⟨rfl, .inr ?_⟩
    intro u hu
    have hne : u ≠ s := by
      rintro rfl
      simp at hu
    have hserved : r.state.served u = true := by simpa [hne] using hu
    have hover : r.state.task.isOver = false := Task.isOver_of_held hc
    obtain ⟨c', hc'⟩ := hr.resolve_left (by simp [hover]) u hserved
    exact ⟨c', by simp [Task.held_passed, hne, hc']⟩
  | pass s _ _ hthere | tell s _ _ hthere | fail s _ _ hthere | close s hthere
  | cancel s hthere | wait s hthere | again s hthere => simp [hd s] at hthere
  | drop s => exact ⟨rfl, by simpa [Closing] using hr⟩
  | late => exact ⟨rfl, hr⟩

theorem run_closing {r t : Replay} {es : List Event} {log : Log} (h : r.run es = some (t, log))
    (hd : r.Deserted) (hr : r.Closing) : t.source = r.source := by
  have keeps (e : Event) (_ : e ∈ es) (q p : Replay) (a : Option Poll) (he : Effect q e p a)
      (hq : q.Deserted ∧ q.Closing ∧ q.source = r.source) :
      p.Deserted ∧ p.Closing ∧ p.source = r.source := by
    obtain ⟨hgone, hclosing, hsame⟩ := hq
    obtain ⟨hsource, hclosing⟩ := he.closing hgone hclosing
    exact ⟨he.deserted hgone, hclosing, hsource.trans hsame⟩
  exact (run_keeps h keeps ⟨hd, hr, rfl⟩).2.2

theorem closing_of_take (r : Replay) (items : List Item) (c : Chunk) :
    Closing ⟨{ r.source with items := items },
      r.state.withTask (.delivering c (r.state.served .first) (r.state.served .second))⟩ := by
  refine .inr ?_
  intro s hs
  cases s <;> exact ⟨c, by simp_all [Task.held]⟩

theorem script_frameOf (c : Chunk) : (Source.script [frameOf c]).length = 1 := by
  cases c <;> rfl

/-- Whatever happens after both readers have gone, one chunk is taken at most. -/
theorem taken_of_deserted {r t : Replay} {es : List Event} {log : Log}
    (h : r.run es = some (t, log)) (hd : r.Deserted) :
    ∃ taken, r.source.items = taken ++ t.source.items ∧ (Source.script taken).length ≤ 1 := by
  induction es generalizing r log with
  | nil => cases h; exact ⟨[], rfl, Nat.zero_le 1⟩
  | cons e es ih =>
    obtain ⟨q, a, rest, hs, hq, -⟩ := run_cons h
    have he := effect_of_step hs
    have hlater := ih hq (he.deserted hd)
    cases he with
    | skip ts items _ _ hi =>
      obtain ⟨taken, happend, hle⟩ := hlater
      exact ⟨.ok (.trailers ts) :: taken, hi.trans (congrArg (.ok (.trailers ts) :: ·) happend), hle⟩
    | take c items _ _ hi =>
      have hsource := run_closing hq (fun s => by simpa using hd s) (closing_of_take r items c)
      refine ⟨[frameOf c], ?_, Nat.le_of_eq (script_frameOf c)⟩
      rw [hi, hsource, List.singleton_append]
    | _ => exact hlater

/-! ## A wait that does not end -/

theorem Effect.waitsForSource {r q : Replay} {e : Event} {a : Option Poll} (h : Effect r e q a)
    (he : e ≠ .abort) (hd : r.Deserted) (hr : r.WaitsForSource) : q.WaitsForSource := by
  cases e with
  | task m => exact absurd hr.standstill (taskStep_ne_none h)
  | poll s =>
    cases h with
    | tell _ _ _ hthere | fail _ _ _ hthere | close _ hthere | cancel _ hthere | wait _ hthere
    | again _ hthere => simp [hd s] at hthere
  | drop s =>
    cases h with
    | drop =>
      refine ⟨?_, hr.silent⟩
      rw [wantsItem_iff]
      simpa using (wantsItem_iff _).1 hr.wants
  | abort => exact absurd rfl he

theorem run_waitsForSource {r t : Replay} {es : List Event} {log : Log}
    (h : r.run es = some (t, log)) (hes : .abort ∉ es) (hd : r.Deserted)
    (hr : r.WaitsForSource) : t.WaitsForSource := by
  have keeps (e : Event) (hmem : e ∈ es) (q p : Replay) (a : Option Poll) (he : Effect q e p a)
      (hq : q.Deserted ∧ q.WaitsForSource) : p.Deserted ∧ p.WaitsForSource :=
    ⟨he.deserted hq.1, he.waitsForSource (fun heq => hes (heq ▸ hmem)) hq.1 hq.2⟩
  exact (run_keeps h keeps ⟨hd, hr⟩).2

theorem WaitsForSource.running {r : Replay} (h : r.WaitsForSource) : r.state.isOver = false := by
  rw [isOver_eq, ((wantsItem_iff _).1 h.wants).1]
  rfl

/-- Over a source that has an end no task waits for an item. -/
theorem not_waitsForSource {source : Source} {r : Replay} (hf : Follows source r)
    (hends : source.Ends) : ¬ r.WaitsForSource := by
  intro h
  obtain ⟨ht, s, hs⟩ := (wantsItem_iff _).1 h.wants
  obtain ⟨q, he⟩ := can_pull hf hends ht hs
  exact taskStep_ne_none he h.standstill

/-- Nobody who has gone holds a task up. -/
theorem Deserted.not_waitsForReaders {r : Replay} (h : r.Deserted) : ¬ r.WaitsForReaders := by
  intro hreaders
  obtain ⟨s, c, hc⟩ := hreaders.holds
  have hthere := (hreaders.blocked s c hc).there
  simp [h s] at hthere

/-- What becomes of a task that nobody reads from any more. -/
structure WindsUp (source : Source) (r : Replay) : Prop where
  /-- Having done what it can it is over, unless it waits for an item of a silent source. -/
  over_iff : r.taskStep = none → (r.state.isOver = true ↔ ¬ r.WaitsForSource)
  /-- Over a source that has an end it comes to its own. -/
  ends : source.Ends → r.settle.state.isOver = true
  /-- It takes no more than one chunk on the way, whatever happens. -/
  takes : ∀ es t log, r.run es = some (t, log) →
    ∃ taken, r.source.items = taken ++ t.source.items ∧ (Source.script taken).length ≤ 1
  /-- Once it waits for a silent source it does so until it is aborted. -/
  lingers : r.WaitsForSource → ∀ es t log, .abort ∉ es → r.run es = some (t, log) →
    t.state.isOver = false

/-- Once both readers have gone the task comes to its end by itself, except where it waits for
an item of a source that goes silent. -/
theorem deserted_task_ends_iff (source : Source) (capacity : Nat) (events : List Event)
    (r : Replay) (log : Log) (h : (start source capacity).run events = some (r, log))
    (hd : r.Deserted) : WindsUp source r where
  over_iff hstill := by
    constructor
    · intro hover hsource
      simp [hsource.running] at hover
    · intro hsource
      cases ho : r.state.isOver with
      | true => rfl
      | false =>
        rcases waits_of_standstill (sound_of_run h) (within_of_run h) hstill ho with
          hwaits | hwaits
        · exact absurd hwaits hsource
        · exact absurd hwaits hd.not_waitsForReaders
  ends hends := by
    obtain ⟨ms, hmoves⟩ := run_settle r
    have hrun := run_join h hmoves
    cases ho : r.settle.state.isOver with
    | true => rfl
    | false =>
      rcases waits_of_standstill (sound_of_run hrun) (within_of_run hrun) (standstill_settle r) ho
        with hwaits | hwaits
      · exact absurd hwaits (not_waitsForSource (follows_of_run hrun) hends)
      · exact absurd hwaits (run_deserted hmoves hd).not_waitsForReaders
  takes es t log hrun := taken_of_deserted hrun hd
  lingers hwaits es t log hes hrun := (run_waitsForSource hrun hes hd hwaits).running

/-- Both readers go while a chunk is on its way to the second. -/
theorem deserted_task_ends_iff_between_deliveries :
    ∃ source events r log,
      (start source 1).run events = some (r, log) ∧ r.Deserted ∧
        r.taskStep ≠ none ∧ r.settle.state.isOver = true ∧ WindsUp source r :=
  have h := rfl
  have hd := by rintro (_ | _) <;> rfl
  ⟨⟨[.ok (.data [1]), .ok (.trailers []), .ok (.data [2]), .ok (.data [3])], true⟩,
    [.task .pull, .task (.deliver .first), .drop .first, .drop .second],
    _, _, h, hd, nofun, rfl, deserted_task_ends_iff _ _ _ _ _ h hd⟩

/-- Both readers of a silent source go, and the task stays. -/
theorem silent_source_keeps_deserted_task :
    ∃ r log,
      (start ⟨[], true⟩ 1).run [.drop .first, .drop .second] = some (r, log) ∧
        r.Deserted ∧ r.taskStep = none ∧ r.state.isOver = false :=
  ⟨_, _, rfl, by rintro (_ | _) <;> rfl, rfl, rfl⟩

end Countersign.Replay
