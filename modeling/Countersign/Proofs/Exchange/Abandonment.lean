import Countersign.Proofs.Cascade.Run
import Countersign.Proofs.Exchange.Sink
/-! What becomes of the duplications of a call. While a handler runs the call has a handle
on every task; if it is given up then, all of them are aborted. Once the call has let go of
the handles, nothing aborts a task any more. -/

namespace Countersign

open Plumbing

namespace Cascade

/-- A move of a task, which happens by itself. -/
def Event.OfTask : Event → Prop
  | .task _ _ => True
  | _ => False

/-- Tasks that catch up make a run of moves. -/
theorem run_settleFor (k : Nat) (c : Cascade) :
    ∃ es log, (∀ e ∈ es, e.OfTask) ∧
      c.run es = some ({ c with plumbing := settleFor k c.plumbing }, log) := by
  induction k generalizing c with
  | zero => exact ⟨[], [], nofun, rfl⟩
  | succ k ih =>
    cases h : c.plumbing.stepAny with
    | none => exact ⟨[], [], nofun, by rw [settleFor, h]; rfl⟩
    | some p =>
      obtain ⟨i, m, hm⟩ := move_of_stepAny h
      obtain ⟨es, log, hes, hrun⟩ := ih { c with plumbing := p }
      have hs : c.step (.task i m) = some ({ c with plumbing := p }, c.plumbing.asked i m) := by
        simp only [step, hm, Option.map_some]
      refine ⟨.task i m :: es, c.plumbing.asked i m ++ log,
        List.forall_mem_cons.2 ⟨trivial, hes⟩, ?_⟩
      rw [settleFor, h]
      exact run_of_step hs hrun

theorem run_aborts (is : List Nat) (c : Cascade) :
    c.run (is.map .abort) = some ({ c with plumbing := is.foldl abort c.plumbing }, []) := by
  induction is generalizing c with
  | nil => rfl
  | cons i is ih =>
    exact run_of_step (rfl : c.step (.abort i) = some (_, [])) (ih _)

end Cascade

namespace Exchange

variable {x : Exchange}

/-- The body of an exchange with all that it was split into. -/
def cascade (x : Exchange) : Cascade := ⟨x.call.body, x.plumbing, x.call.capacity⟩

/-- To split the body is to add a stage and to let the tasks act. -/
theorem run_splitBody {b : Body} (hb : x.call.body = some b) :
    x.splitBody.1 = .ok (.reader x.plumbing.length .second) ∧
      ∃ tasks log, (∀ e ∈ tasks, e.OfTask) ∧
        x.cascade.run (.split :: tasks) = some (x.splitBody.2.cascade, log) := by
  have htake : x.call.takeBody = (.ok b, { x.call with body := none }) := by
    rw [Call.takeBody, hb]
  have hsplit : x.splitBody =
      (.ok (.reader x.plumbing.length .second),
        { x with
          plumbing := (x.plumbing.addStage b x.call.capacity).settle
          call := { x.call with
            body := some (.reader x.plumbing.length .first)
            fanOut := x.call.fanOut ++ [x.plumbing.length] } }) := by
    rw [splitBody, htake]
    rfl
  rw [hsplit]
  refine ⟨rfl, ?_⟩
  have hs : x.cascade.step .split =
      some (⟨some (.reader x.plumbing.length .first), x.plumbing.addStage b x.call.capacity,
        x.call.capacity⟩, []) := by
    simp only [Cascade.step, cascade, hb, Option.map_some]
  obtain ⟨tasks, log, htasks, hrun⟩ := Cascade.run_settleFor _
    ⟨some (.reader x.plumbing.length .first), x.plumbing.addStage b x.call.capacity,
      x.call.capacity⟩
  exact ⟨tasks, _, htasks, Cascade.run_of_step hs hrun⟩

/-- The stages once every task that a call has a handle on was aborted. -/
def halted (x : Exchange) : Plumbing := x.call.fanOut.foldl abort x.plumbing

section Abandon

variable (h : x.call.fanOut = List.range x.plumbing.length)
include h

theorem task?_halted (i : Nat) : x.halted.task? i = (x.plumbing.task? i).map Task.stopped := by
  rw [halted, task?_abortAll, h]
  split
  · rfl
  · next hi =>
    have hnone : x.plumbing.task? i = none := by
      rw [List.mem_range, Nat.not_lt] at hi
      simp [task?, List.getElem?_eq_none hi]
    rw [hnone]
    rfl

theorem over_halted {p : Plumbing} (hp : ∀ i, p.task? i = x.halted.task? i) (i : Nat) (t : Task)
    (ht : p.task? i = some t) : t.isOver = true := by
  rw [hp, task?_halted h, Option.map_eq_some_iff] at ht
  obtain ⟨t', -, rfl⟩ := ht
  exact t'.isOver_stopped

/-- A call that is given up while it has all its handles: every task is aborted that was not
over, and the body is let go. -/
theorem abandon_eq :
    x.abandon = { x with
      plumbing := match x.call.body with
        | some b => x.halted.release b
        | none => x.halted
      call := { x.call with fanOut := [], body := none } } := by
  have hsettled : x.halted.settle = x.halted := settle_of_over (over_halted h fun _ => rfl)
  unfold abandon
  dsimp only
  rw [show x.call.fanOut.foldl (fun p i => p.abort i) x.plumbing = x.halted from rfl, hsettled]
  cases hb : x.call.body with
  | none => simp [Call.detach, hb]
  | some b =>
    have hreleased : (x.halted.release b).settle = x.halted.release b :=
      settle_of_over (over_halted h fun i => task?_release x.halted b i)
    simp [Call.detach, Exchange.release, Plumbing.discard, hb, hreleased]

theorem task?_abandon (i : Nat) :
    x.abandon.plumbing.task? i = (x.plumbing.task? i).map Task.stopped := by
  rw [abandon_eq h, ← task?_halted h]
  dsimp only
  split
  · exact task?_release ..
  · rfl

end Abandon

/-- To give up a call is to abort the tasks of all stages, to take the body and to let it
go; nobody is answered anything in it. -/
theorem run_abandon {source : Source} {state : Nat → Duplication} {n : Nat}
    (hlinked : x.cascade.Linked source state n)
    (h : x.call.fanOut = List.range x.plumbing.length) :
    ∃ letGo, x.cascade.run ((List.range n).map .abort ++ letGo) = some (x.abandon.cascade, []) ∧
      ∀ i, .abort i ∉ letGo := by
  have hn : x.plumbing.length = n := hlinked.length_eq
  have haborts : x.cascade.run ((List.range n).map .abort) =
      some (⟨x.call.body, x.halted, x.call.capacity⟩, []) := by
    rw [Cascade.run_aborts, halted, h, hn]
    rfl
  rw [abandon_eq h]
  cases hb : x.call.body with
  | none =>
    rw [hb] at haborts
    exact ⟨[], Cascade.run_join haborts rfl, nofun⟩
  | some b =>
    rw [hb] at haborts
    obtain rfl := hlinked.body b hb
    cases n with
    | zero => exact ⟨[.take], Cascade.run_join haborts rfl, by simp⟩
    | succ k =>
      refine ⟨[.take, .drop k .first], Cascade.run_join haborts ?_, by simp⟩
      have hlast : x.halted.length = k + 1 := by rw [halted, length_abortAll, hn]
      have hdrop : (⟨none, x.halted, x.call.capacity⟩ : Cascade).step (.drop k .first) =
          some (⟨none, x.halted.release (.reader k .first), x.call.capacity⟩, []) := by
        simp [Cascade.step, Cascade.handedOut, hlast]
      exact Cascade.run_of_step (rfl : Cascade.step _ .take = some (_, []))
        (Cascade.run_of_step hdrop rfl)

/-- The call has a handle on the task of every stage, and none of these was aborted. -/
structure Tended (x : Exchange) : Prop where
  handles : x.call.fanOut = List.range x.plumbing.length
  unharmed : ∀ i, x.plumbing.task? i ≠ some .aborted

section Reading

/-- Reading bodies of an exchange, or sending them away, aborts no task. -/
theorem spares_delivered (x : Exchange) (o : Outbound) (f : Failure) (r : Response)
    (bs : List Body) : x.plumbing.Spares (x.delivered o f r bs).2.plumbing := by
  have hread := spares_readTogether x.plumbing (o.body :: bs)
  unfold delivered Exchange.readTogether
  generalize x.plumbing.readTogether (o.body :: bs) = w at hread
  obtain ⟨wholes, plumbing⟩ := w
  dsimp only
  split
  · next h =>
    obtain ⟨-, rfl⟩ := Prod.mk.inj h
    exact hread
  · next h =>
    obtain ⟨-, rfl⟩ := Prod.mk.inj h
    exact hread
  · next h =>
    obtain ⟨-, rfl⟩ := Prod.mk.inj h
    exact hread

theorem spares_undelivered (x : Exchange) (o : Outbound) (f : Failure) (bs : List Body) :
    x.plumbing.Spares (x.undelivered o f bs).2.plumbing :=
  (spares_discard x.plumbing o.body).trans (spares_readTogether _ bs)

theorem spares_dispatch (x : Exchange) (o : Outbound) (bs : List Body) :
    x.plumbing.Spares (x.dispatch o bs).2.plumbing := by
  unfold dispatch
  split
  · exact spares_undelivered ..
  · split
    · exact spares_undelivered ..
    · split
      · exact spares_undelivered ..
      · exact spares_undelivered ..
      · exact spares_delivered ..

theorem spares_forward (x : Exchange) (target : Text) (bs : List Body) :
    x.plumbing.Spares (x.forward target bs).2.plumbing := by
  unfold forward
  split
  · exact spares_readTogether ..
  · next o call h => exact spares_dispatch ({ x with call }.record (.forwarded o)) o bs

theorem spares_putBody (x : Exchange) (b : Body) :
    x.plumbing.Spares (x.putBody b).plumbing := by
  unfold putBody
  split
  · exact spares_discard ..
  · exact .refl _

end Reading

namespace Tended

variable {y : Exchange}

theorem keep (h : x.Tended) (hhandles : y.call.fanOut = x.call.fanOut)
    (hspares : x.plumbing.Spares y.plumbing) : y.Tended where
  handles := by rw [hhandles, h.handles, hspares.length_eq]
  unharmed i hi := h.unharmed i (hspares.aborted i hi)

/-- A new stage starts with a task of its own and a handle on it. -/
theorem splitBody (h : x.Tended) : x.splitBody.2.Tended := by
  cases hb : x.call.body with
  | none =>
    have hsame : x.splitBody.2 = x := by
      simp only [Exchange.splitBody, Call.takeBody, hb]
    rwa [hsame]
  | some b =>
    have hsplit : x.splitBody.2.plumbing = (x.plumbing.addStage b x.call.capacity).settle ∧
        x.splitBody.2.call.fanOut = x.call.fanOut ++ [x.plumbing.length] := by
      simp only [Exchange.splitBody, Call.takeBody, hb, duplicate, and_self]
    have hspares := spares_settle (x.plumbing.addStage b x.call.capacity)
    have hlen : (x.plumbing.addStage b x.call.capacity).length = x.plumbing.length + 1 := by
      simp [addStage]
    constructor
    · rw [hsplit.1, hsplit.2, hspares.length_eq, hlen, h.handles, List.range_succ]
    · intro i hi
      rw [hsplit.1] at hi
      have hnew := hspares.aborted i hi
      by_cases hold : i < x.plumbing.length
      · refine h.unharmed i ?_
        rwa [task?, addStage, List.getElem?_append_left hold] at hnew
      · rw [task?, addStage, List.getElem?_append_right (by omega)] at hnew
        obtain ⟨g, hg, htask⟩ := Option.map_eq_some_iff.1 hnew
        obtain rfl : g = ⟨b, .start x.call.capacity⟩ :=
          List.mem_singleton.1 (List.mem_of_getElem? hg)
        cases htask

theorem perform (h : x.Tended) (a : Action) : (x.perform a).2.Tended := by
  cases a with
  | splitBody => exact h.splitBody
  | takeBody =>
    obtain ⟨_, hx⟩ := takeBody_eq x
    rw [Exchange.perform, hx]
    exact h.keep rfl (.refl _)
  | putBody b =>
    obtain ⟨_, _, hx⟩ := putBody_eq x b
    refine h.keep ?_ (spares_putBody x b)
    rw [Exchange.perform, hx]
  | release b => exact h.keep rfl (spares_discard ..)
  | readFrames b n => exact h.keep rfl (spares_readFrames ..)
  | readAll b => exact h.keep rfl (spares_readAll ..)
  | readTogether bs => exact h.keep rfl (spares_readTogether ..)
  | forward target bs =>
    obtain ⟨_, _, _, -, hx⟩ := forward_eq x target bs
    obtain ⟨_, _, _, hcall, -⟩ := Call.prepare_eq x.call target
    refine h.keep ?_ (spares_forward x target bs)
    rw [Exchange.perform, hx, hcall]
  | hijack =>
    obtain ⟨_, _, _, hx⟩ := hijack_eq x
    rw [Exchange.perform, hx]
    exact h.keep rfl (.refl _)
  | send r =>
    rw [Exchange.perform, send]
    split
    · exact h.keep rfl (.refl _)
    · exact h
  | dropSink =>
    rw [Exchange.perform, dropSink]
    split
    · exact h.keep rfl (.refl _)
    · exact h
  | look | context | setUri _ | setHeaders _ | resolveTarget _ _ | note _ =>
    exact h.keep rfl (.refl _)

end Tended

/-- A call that has let go of its handles aborts no task when it is given up. -/
theorem spares_abandon (h : x.call.fanOut = []) : x.plumbing.Spares x.abandon.plumbing := by
  have hsettled := spares_settle x.plumbing
  unfold abandon
  rw [h]
  dsimp only
  split
  · exact hsettled.trans (spares_discard ..)
  · exact hsettled

end Exchange

theorem Program.tended_passes {α : Type} (p : Program α) {x : Exchange} (h : x.Tended) :
    ∀ y ∈ p.passes x, y.Tended := by
  induction p generalizing x with
  | done a =>
    intro y hy
    rwa [List.mem_singleton.1 hy]
  | act a next ih =>
    intro y hy
    rcases List.mem_cons.1 hy with rfl | hy
    · exact h
    · exact ih _ (h.perform a) y hy

end Countersign
