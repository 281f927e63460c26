import Countersign.Proofs.Cascade.Progress
import Countersign.Proofs.Engine.Dispatch
import Countersign.Proofs.Exchange.Abandonment
/-! Bodies that are duplicated again and again: what each reader is told of the source, what
a request that is given up does to the tasks, and what the engine leaves of them. -/

namespace Countersign

open Plumbing

namespace Cascade

/-- What every outlet has been told, once `events` have happened to a body that came as
`source`. -/
structure Faithful (source : Source) (events : List Event) (c : Cascade) (log : Answers) :
    Prop where
  /-- There is a stage for every time that the body was split. -/
  stages : c.plumbing.length = events.count .split
  unsplit : c.plumbing = [] → ∀ b, c.body = some b → b = .stream source
  /-- In order a part of the data, the end only after all of it, or a fault. -/
  told : ∀ i s, c.Outlet i s →
    Conveys source (∃ j ≤ i, .abort j ∈ events) (log.heard (.holder i s))
  /-- If nothing was aborted, and all go on as long as they can, every outlet that is there
  has soon been told everything, the fault of the source too. -/
  complete : source.Ends → (∀ j, .abort j ∉ events) →
    ∃ bound, ∀ more t rest, c.Works more t rest →
      more.length ≤ bound ∧
        (t.Still → ∀ i s, t.Outlet i s → t.isDropped i s = false →
          ∃ k, (log ++ rest).heard (.holder i s) = source.telling ++ List.replicate k .done)

variable {source : Source} {capacity : Nat} {events : List Event} {c : Cascade} {log : Answers}

theorem told_of_run (h : (start source capacity).run events = some (c, log)) {i : Nat} {s : Side}
    (hi : c.Outlet i s) :
    Conveys source (∃ j ≤ i, .abort j ∈ events) (log.heard (.holder i s)) := by
  rw [← heard_holder (run_mayAsk h).1 hi]
  exact conveys_stage h (lt_of_outlet hi) s

/-- When nothing goes on any more and nothing was aborted, an outlet has been told all. -/
theorem told_of_still (h : (start source capacity).run events = some (c, log))
    (hends : source.Ends) (habort : ∀ j, .abort j ∉ events) (hstill : c.Still) {i : Nat} {s : Side}
    (hi : c.Outlet i s) (hd : c.isDropped i s = false) :
    ∃ k, log.heard (.holder i s) = source.telling ++ List.replicate k .done := by
  -- one more answer is the end, and nobody gets to the end before all is told
  obtain ⟨c', hs, hi'⟩ := ended_of_still h hends hstill hi hd
  have hrun := run_join h (run_of_step hs (rfl : c'.run [] = some (c', [])))
  have hheard : Answers.heard (.holder i s) (log ++ ([(.holder i s, .done)] ++ [])) =
      log.heard (.holder i s) ++ [.done] := by
    rw [Answers.heard_append]
    simp [Answers.heard, Poll.isPending]
  have htold := told_of_run hrun hi'
  rw [hheard] at htold
  have hnever : ¬ ∃ j ≤ i, .abort j ∈ events ++ [.poll i s] := by
    rintro ⟨j, -, hj⟩
    rcases List.mem_append.1 hj with hj | hj
    · exact habort j hj
    · cases List.mem_singleton.1 hj
  obtain ⟨k, hk⟩ := (htold.mono hnever).complete (by simp)
  rw [List.replicate_succ', ← List.append_assoc] at hk
  exact ⟨k, List.append_cancel_right hk⟩

theorem faithful (h : (start source capacity).run events = some (c, log)) :
    c.Faithful source events log where
  stages := (run_stages h).trans (Nat.zero_add _)
  unsplit hnone b hb := by
    obtain ⟨source', state, n, hlinked, onward⟩ := (Linked.start source capacity).run h
    have hn : 0 = n := by rw [← hlinked.length_eq, hnone]; rfl
    subst hn
    have hasks : log.heard (.task 0) = [] := by
      refine List.map_eq_nil_iff.2 (List.filter_eq_nil_iff.2 fun a ha => ?_)
      have hmay := (run_mayAsk h).1 a ha
      have hne : a.1 ≠ .task 0 := by
        intro hw
        rw [hw] at hmay
        simp [MayAsk, hnone] at hmay
      simp [hne]
    have hsource := onward.supply
    rw [hasks, Source.before_nil] at hsource
    rw [hlinked.body b hb, hsource]
    rfl
  told i s hi := told_of_run h hi
  complete hends habort := by
    obtain ⟨source', state, n, hlinked, -⟩ := (Linked.start source capacity).run h
    refine ⟨_, fun more t rest hworks => ⟨hworks.length_le hlinked, ?_⟩⟩
    intro hstill i s hi hd
    refine told_of_still (run_join h hworks.run) hends ?_ hstill hi hd
    intro j hj
    rcases List.mem_append.1 hj with hj | hj
    · exact habort j hj
    · exact hworks.goesOn _ hj

end Cascade

namespace Exchange

/-- What an exchange makes of a body that came as `source`, once `events` have happened to it. -/
structure Upholds (source : Source) (capacity : Nat) (events : List Cascade.Event)
    (log : Answers) (x : Exchange) : Prop where
  /-- To split the body once more is an event, and the tasks act after it. -/
  splits : ∀ b, x.call.body = some b →
    x.splitBody.1 = .ok (.reader x.plumbing.length .second) ∧
      ∃ tasks rest, (∀ e ∈ tasks, e.OfTask) ∧
        (Cascade.start source capacity).run (events ++ .split :: tasks) =
          some (x.splitBody.2.cascade, log ++ rest)
  /-- A call that is given up while it has a handle on every task aborts all that are not
  over, -/
  abandoned : x.call.fanOut = List.range x.plumbing.length →
    ∀ i, x.abandon.plumbing.task? i = (x.plumbing.task? i).map Task.stopped
  /-- and whoever comes to a clean end in spite of that lacks nothing. -/
  uncut : x.call.fanOut = List.range x.plumbing.length →
    ∀ later c rest, x.abandon.cascade.run later = some (c, rest) →
      ∀ i s, c.Outlet i s → .done ∈ (log ++ rest).heard (.holder i s) →
        (∀ e, .fault e ∉ (log ++ rest).heard (.holder i s)) →
          source.fault? = none ∧ source.endless = false ∧
            ∃ k, (log ++ rest).heard (.holder i s) =
              source.chunks.map .data ++ List.replicate k .done
  /-- Once the call has let go of its handles, to give it up aborts nothing. -/
  detached : ∀ i, ({ x with call := x.call.detach } : Exchange).abandon.plumbing.task? i =
    some .aborted → x.plumbing.task? i = some .aborted

variable {source : Source} {capacity : Nat} {events : List Cascade.Event} {log : Answers}
  {x : Exchange}

theorem upholds (h : (Cascade.start source capacity).run events = some (x.cascade, log)) :
    x.Upholds source capacity events log where
  splits b hb := by
    obtain ⟨hresult, tasks, rest, htasks, hrun⟩ := run_splitBody hb
    exact ⟨hresult, tasks, rest, htasks, Cascade.run_join h hrun⟩
  abandoned hhandles := task?_abandon hhandles
  uncut hhandles later c rest hlater i s hi hd hf := by
    obtain ⟨source', state, n, hlinked, -⟩ := (Cascade.Linked.start source capacity).run h
    obtain ⟨letGo, hgo, -⟩ := run_abandon hlinked hhandles
    have hrun := Cascade.run_join (Cascade.run_join h hgo) hlater
    rw [List.append_nil] at hrun
    exact (Cascade.told_of_run hrun hi).clean hd hf
  detached i hi := (spares_abandon (x := { x with call := x.call.detach }) rfl).aborted i hi

end Exchange

namespace Engine

variable {e : Engine} {transport : Transport} {gone : Bool} {id : Text} {head : Http.RequestHead}
  {body : Source} {p : Provider} {x : Exchange}

/-- A provider starts before there is anything to tend. -/
theorem tended_of_reached (h : e.reached transport gone id head body = .ok (p, x)) :
    (x.record (.ran p.name)).Tended := by
  obtain ⟨_, _, -, -, rfl⟩ := reached_eq_ok h
  exact ⟨rfl, nofun⟩

/-- No task was aborted, and giving up the call aborts none. -/
def LetGo (x : Exchange) : Prop :=
  x.call.fanOut = [] ∧ ∀ i, x.plumbing.task? i ≠ some .aborted

/-- The engine's own response has nothing to do with the tasks. -/
theorem letGo_conclude (h : LetGo x) (ifGone ifHanded : Outcome) (r : Response) :
    LetGo (conclude x ifGone ifHanded r).2 := by
  have hcall : x.call.takeSink.2.fanOut = [] := by
    unfold Call.takeSink
    split <;> exact h.1
  unfold conclude
  dsimp only
  split
  · exact ⟨hcall, h.2⟩
  · exact ⟨hcall, h.2⟩

theorem letGo_runProvider (h : (x.record (.ran p.name)).Tended) : LetGo (runProvider p x).2 := by
  have hlast := Program.run_mem_passes p.handler (x.record (.ran p.name))
  have htended := Program.tended_passes p.handler h _ hlast
  unfold runProvider
  generalize p.handler.run (x.record (.ran p.name)) = w at htended
  obtain ⟨result, y⟩ := w
  have hdetached : LetGo { y with call := y.call.detach } := ⟨rfl, htended.unharmed⟩
  dsimp only
  split
  · exact hdetached
  · cases result with
    | ok r => exact letGo_conclude hdetached ..
    | error f => exact letGo_conclude hdetached ..

theorem letGo_serve (hplumbing : x.plumbing = []) (hhandles : x.call.fanOut = []) :
    LetGo (e.serve x).2 := by
  have hnone : ∀ i, x.plumbing.task? i ≠ some .aborted := by
    rw [hplumbing]
    nofun
  unfold serve
  dsimp only
  split
  · exact letGo_conclude (x := x.recordAll _) ⟨hhandles, hnone⟩ ..
  · refine letGo_runProvider ⟨?_, hnone⟩
    show x.call.fanOut = List.range x.plumbing.length
    rw [hplumbing, hhandles]
    rfl

/-- The engine leaves no task aborted. -/
theorem unharmed_handle (e : Engine) (transport : Transport) (gone : Bool) (id : Text)
    (head : Http.RequestHead) (body : Source) (i : Nat) :
    (e.handle transport gone id head body).plumbing.task? i ≠ some .aborted := by
  unfold handle
  obtain ⟨credentials, asked⟩ := e.authenticate head
  cases credentials with
  | error f => nofun
  | ok credentials =>
    have hserved := letGo_serve (e := e) (x := (e.openExchange transport gone id head
      (.stream body) credentials).recordAll asked) rfl rfl
    intro hi
    exact hserved.2 i ((Exchange.spares_abandon hserved.1).aborted i hi)

/-- However often a body is split, and in whatever order the tasks move and the readers ask
and leave: every reader is told a part of the data in order, and of the end after all of it;
unless a task is aborted, a fault of the source gets to every reader that is read on. A call
that is given up while its handler runs aborts all its tasks, and one that the engine has
seen to its end aborts none. -/
theorem split_bodies_stay_whole (source : Source) (capacity : Nat) (events : List Cascade.Event)
    (c : Cascade) (log : Answers)
    (h : (Cascade.start source capacity).run events = some (c, log)) :
    c.Faithful source events log ∧
      (∀ x : Exchange, x.cascade = c → x.Upholds source capacity events log) ∧
      ∀ (e : Engine) (transport : Transport) (gone : Bool) (id : Text) (head : Http.RequestHead)
        (body : Source),
        (∀ p x, e.reached transport gone id head body = .ok (p, x) →
          ∀ y ∈ p.handler.passes (x.record (.ran p.name)),
            y.call.fanOut = List.range y.plumbing.length ∧
              ∀ i, y.abandon.plumbing.task? i = (y.plumbing.task? i).map Task.stopped) ∧
          ∀ i, (e.handle transport gone id head body).plumbing.task? i ≠ some .aborted := by
  refine ⟨Cascade.faithful h, ?_, ?_⟩
  · rintro x rfl
    exact Exchange.upholds h
  · intro e transport gone id head body
    refine ⟨?_, unharmed_handle e transport gone id head body⟩
    intro p x hreached y hy
    have htended := Program.tended_passes p.handler (tended_of_reached hreached) y hy
    exact ⟨htended.handles, Exchange.task?_abandon htended.handles⟩

/-- Two splits of a body that breaks off: the inspecting reader of the first, and the reader
that is left of the body. -/
theorem split_bodies_stay_whole_of_broken_source :
    ∃ (source : Source) (events : List Cascade.Event) (c : Cascade) (log : Answers),
      (Cascade.start source 1).run events = some (c, log) ∧
        log.heard (.holder 0 .second) =
          [.data [1], .fault ⟨.connectionReset, "reset".toList⟩, .done] ∧
        log.heard (.holder 1 .first) =
          [.data [1], .fault ⟨.connectionReset, "reset".toList⟩] ∧
        c.Faithful source events log :=
  have h := rfl
  ⟨⟨[.ok (.data [1]), .error ⟨.connectionReset, "reset".toList⟩], true⟩,
    [.split, .task 0 .pull, .split, .task 0 (.deliver .first), .take, .task 1 .pull,
      .task 0 (.deliver .second), .task 1 (.deliver .second), .task 0 .pull,
      .task 1 (.deliver .first), .drop 1 .second, .poll 1 .first, .task 0 (.deliver .first),
      .poll 0 .second, .task 0 (.deliver .second), .task 1 .pull, .task 1 (.deliver .second),
      .task 1 (.deliver .first), .poll 0 .second, .poll 1 .first, .poll 0 .second],
    _, _, h, rfl, rfl, (split_bodies_stay_whole _ _ _ _ _ h).1⟩

end Engine

end Countersign
