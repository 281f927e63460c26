import Countersign.Proofs.Cascade.Share
/-! Runs of a cascade: the body of a request is split again and again, the tasks of all
stages move, whoever holds a reader asks or lets it go, and tasks are aborted, in any
order. The stages always stand in a row, and a run carries the row on. -/

namespace Countersign

open Plumbing

section Ties

variable {source source' : Source} {state state' : Nat → Duplication} {i l : Nat}
  {d : Duplication}

theorem Tied.congr (h : Tied state l)
    (hd : ((state' l).reader .first).dropped = ((state l).reader .first).dropped)
    (ho : (state' (l + 1)).isOver = (state (l + 1)).isOver) : Tied state' l := by
  unfold Tied at h ⊢
  rw [hd, ho, h]

/-- Stage `i` comes into a state that differs neither in its first reader nor in its end. -/
theorem Tied.update (h : Tied state l)
    (hd : l = i → (d.reader .first).dropped = ((state i).reader .first).dropped)
    (ho : d.isOver = (state i).isOver) : Tied (Function.update state i d) l := by
  refine h.congr ?_ ?_
  · by_cases hi : l = i
    · subst hi
      rw [Function.update_self, hd rfl]
    · rw [Function.update_of_ne hi]
  · by_cases hi : l + 1 = i
    · subst hi
      rw [Function.update_self, ho]
    · rw [Function.update_of_ne hi]

theorem Tied.install (h : Tied state l) (ho : (state i).isOver = false)
    (hd : (d.reader .first).dropped = ((state i).reader .first).dropped) :
    Tied (install state i d) l := by
  by_cases hi : l + 1 = i
  · subst hi
    unfold Tied at h ⊢
    rw [install_self]
    cases hover : d.isOver <;> simp_all [Plumbing.install, Duplication.drop]
  · refine h.congr ?_ ?_
    · by_cases hl : l = i
      · subst hl
        rw [install_self, hd]
      · simp [Plumbing.install, hl, hi]
    · unfold Plumbing.install
      rw [if_neg hi]
      split <;> simp

theorem Plumbing.Moved.tied {m : Move} {log : Answers}
    (h : Moved source state i m source' state' log) (hl : Tied state l) : Tied state' l := by
  have running := h.running
  cases h with
  | quit _ d h => exact hl.install running (by rw [Duplication.reader_quit h])
  | deliver _ u d h => exact hl.install running (Duplication.dropped_deliver h .first)
  | supply d h => exact hl.install running (by rw [Duplication.reader_pull h])
  | hand j d h =>
    have asked : Tied (Function.update state j ((state j).poll .first).2) l :=
      hl.update (fun _ => Duplication.dropped_poll ..) (Duplication.isOver_poll ..)
    refine asked.install ?_ ?_
    · rwa [Function.update_of_ne (by omega)]
    · rw [Duplication.reader_pull h, Function.update_of_ne (by omega)]

end Ties

/-- A request whose body is split again and again. -/
structure Cascade where
  body : Option Body
  plumbing : Plumbing := []
  capacity : Nat

namespace Cascade

/-- What may happen next: the body is split or taken, the task of a stage moves or is
aborted, or whoever holds a reader asks or lets it go. -/
inductive Event
  | split
  | take
  | task (i : Nat) (m : Move)
  | poll (i : Nat) (s : Side)
  | drop (i : Nat) (s : Side)
  | abort (i : Nat)
deriving DecidableEq, Repr

def start (source : Source) (capacity : Nat) : Cascade :=
  { body := some (.stream source), capacity }

/-- Somebody holds the reader: of every stage the second one, and of the last stage the
first, once the body has been taken. -/
def handedOut (c : Cascade) (i : Nat) : Side → Bool
  | .first => c.body.isNone && decide (i + 1 = c.plumbing.length)
  | .second => decide (i < c.plumbing.length)

def isDropped (c : Cascade) (i : Nat) (s : Side) : Bool :=
  (c.plumbing[i]?.map fun g => (g.state.reader s).dropped).getD true

/-- The state after an event and the answers given in it, if the event can happen. -/
def step (c : Cascade) : Event → Option (Cascade × Answers)
  | .split =>
    c.body.map fun b =>
      ({ c with
          body := some (.reader c.plumbing.length .first)
          plumbing := c.plumbing.addStage b c.capacity }, [])
  | .take => c.body.map fun _ => ({ c with body := none }, [])
  | .task i m =>
    (c.plumbing.move i m).map fun p => ({ c with plumbing := p }, c.plumbing.asked i m)
  | .poll i s =>
    if c.handedOut i s && !c.isDropped i s then
      let (answer, _, p) := c.plumbing.poll (.reader i s)
      some ({ c with plumbing := p }, [(.holder i s, answer)])
    else none
  | .drop i s =>
    if c.handedOut i s then some ({ c with plumbing := c.plumbing.release (.reader i s) }, [])
    else none
  | .abort i => some ({ c with plumbing := c.plumbing.abort i }, [])

/-- The state after some events and the answers given on the way, if all of them can
happen in this order. -/
def run (c : Cascade) : List Event → Option (Cascade × Answers)
  | [] => some (c, [])
  | e :: es =>
    match c.step e with
    | none => none
    | some (c, log) => (c.run es).map fun (t, rest) => (t, log ++ rest)

variable {c c' t : Cascade} {e : Event} {es fs : List Event} {log log' : Answers}

theorem run_cons (h : c.run (e :: es) = some (t, log)) :
    ∃ c' first rest, c.step e = some (c', first) ∧ c'.run es = some (t, rest) ∧
      log = first ++ rest := by
  simp only [run] at h
  split at h
  · cases h
  · next c' first hs =>
    obtain ⟨⟨t', rest⟩, hr, he⟩ := Option.map_eq_some_iff.1 h
    cases he
    exact ⟨c', first, rest, hs, hr, rfl⟩

theorem run_of_step (hs : c.step e = some (c', log)) (h : c'.run es = some (t, log')) :
    c.run (e :: es) = some (t, log ++ log') := by
  simp [run, hs, h]

/-- Two runs make one. -/
theorem run_join (h : c.run es = some (c', log)) (h' : c'.run fs = some (t, log')) :
    c.run (es ++ fs) = some (t, log ++ log') := by
  induction es generalizing c log with
  | nil =>
    cases h
    exact h'
  | cons e es ih =>
    obtain ⟨q, first, rest, hs, hq, rfl⟩ := run_cons h
    rw [List.append_assoc]
    exact run_of_step hs (ih hq)

/-- The stages of a cascade stand in a row of `n` from the source on, and what the
request still has is the end of it. -/
structure Linked (source : Source) (state : Nat → Duplication) (n : Nat) (c : Cascade) :
    Prop where
  stages : c.plumbing = .row source state n
  fresh : ∀ l, n ≤ l → state l = .start c.capacity
  body : ∀ b, c.body = some b → b = feeding source n
  tied : ∀ l, l + 1 < n ∨ (l + 1 = n ∧ c.body.isSome = true) → Tied state l

namespace Linked

variable {source source' : Source} {state state' : Nat → Duplication} {n i : Nat} {s : Side}

theorem start (source : Source) (capacity : Nat) :
    Linked source (fun _ => .start capacity) 0 (start source capacity) where
  stages := rfl
  fresh _ _ := rfl
  body _ h := (Option.some.inj h).symm
  tied l h := by omega

variable (h : Linked source state n c)
include h

theorem length_eq : c.plumbing.length = n := by rw [h.stages, length_row]

theorem stage_of_handedOut (hi : c.handedOut i s = true) : i < n := by
  have hn := h.length_eq
  cases s with
  | first =>
    simp only [handedOut, Bool.and_eq_true, decide_eq_true_eq] at hi
    omega
  | second =>
    simp only [handedOut, decide_eq_true_eq] at hi
    omega

theorem isDropped_eq (hi : i < n) : c.isDropped i s = ((state i).reader s).dropped := by
  rw [isDropped, h.stages, getElem?_row, if_pos hi]
  rfl

/-- Other states for stages that are there. -/
theorem others (hi : i < n) (hfresh : ∀ l, n ≤ l → state' l = state l)
    (htied : ∀ l, l + 1 < n ∨ (l + 1 = n ∧ c.body.isSome = true) → Tied state l → Tied state' l) :
    Linked source' state' n { c with plumbing := .row source' state' n } where
  stages := rfl
  fresh l hl := (hfresh l hl).trans (h.fresh l hl)
  body b hb := by
    -- past the first stage no end of the row tells where the source stands
    obtain ⟨k, rfl⟩ : ∃ k, n = k + 1 := ⟨n - 1, by omega⟩
    exact h.body b hb
  tied l hl := htied l hl (h.tied l hl)

theorem split {b : Body} (hb : c.body = some b) :
    ∃ c', c.step .split = some (c', []) ∧ Linked source state (n + 1) c' := by
  obtain rfl := h.body b hb
  have hnew : c.plumbing.addStage (feeding source n) c.capacity = .row source state (n + 1) := by
    rw [h.stages]
    exact addStage_row (h.fresh n (Nat.le_refl _))
  refine ⟨{ c with body := some (.reader c.plumbing.length .first)
                   plumbing := c.plumbing.addStage (feeding source n) c.capacity },
    by simp only [step, hb, Option.map_some], hnew, ?_, ?_, ?_⟩
  · intro l hl
    exact h.fresh l (by omega)
  · intro b hb'
    rw [← Option.some.inj hb', h.length_eq]
    rfl
  · intro l hl
    by_cases hn : l = n
    · subst hn
      rw [Tied, h.fresh l (Nat.le_refl _), h.fresh (l + 1) (by omega)]
      rfl
    · refine h.tied l ?_
      rw [hb]
      simp only [Option.isSome_some, and_true] at hl ⊢
      omega

theorem take (hb : c.body.isSome = true) :
    c.step .take = some ({ c with body := none }, []) ∧
      Linked source state n { c with body := none } := by
  obtain ⟨b, hb⟩ := Option.isSome_iff_exists.1 hb
  refine ⟨by simp only [step, hb, Option.map_some], h.stages, h.fresh, nofun, ?_⟩
  intro l hl
  exact h.tied l (.inl (hl.resolve_right fun hn => by simp at hn))

theorem move {m : Move} (hi : i < n) (hm : Moved source state i m source' state' log) :
    c.step (.task i m) = some ({ c with plumbing := .row source' state' n }, log) ∧
      Linked source' state' n { c with plumbing := .row source' state' n } := by
  obtain ⟨hp, hlog⟩ := (move_row hi).2 ⟨_, _, hm, rfl⟩
  refine ⟨?_, h.others hi ?_ fun l _ => hm.tied⟩
  · simp only [step, h.stages, hp, Option.map_some, hlog]
  · intro l hl
    have hli : l ≠ i := by omega
    have hli' : l + 1 ≠ i := by omega
    cases hm with
    | hand j d =>
      have hj : l ≠ j := by omega
      simp [install, hli, hj]
    | quit | deliver | supply => simp [install, hli, hli']

theorem poll (hi : c.handedOut i s = true) (hd : ((state i).reader s).dropped = false) :
    ∃ c', c.step (.poll i s) = some (c', [(.holder i s, ((state i).poll s).1)]) ∧
      c' = { c with plumbing := .row source (Function.update state i ((state i).poll s).2) n } ∧
      Linked source (Function.update state i ((state i).poll s).2) n c' := by
  have hin := h.stage_of_handedOut hi
  refine ⟨_, ?_, rfl, h.others hin ?_ ?_⟩
  · simp [step, hi, h.isDropped_eq hin, hd, h.stages, poll_row source state hin]
  · intro l hl
    exact Function.update_of_ne (by omega) ..
  · intro l _ hl
    exact hl.update (fun _ => Duplication.dropped_poll ..) (Duplication.isOver_poll ..)

theorem drop (hi : c.handedOut i s = true) :
    ∃ c', c.step (.drop i s) = some (c', []) ∧
      Linked source (Function.update state i ((state i).drop s)) n c' := by
  have hin := h.stage_of_handedOut hi
  refine ⟨_, by rw [step, if_pos hi, h.stages, release, update_row], h.others hin ?_ ?_⟩
  · intro l hl
    exact Function.update_of_ne (by omega) ..
  · intro l hl htied
    refine htied.update ?_ (Duplication.isOver_drop ..)
    rintro rfl
    cases s with
    | second => rfl
    | first =>
      -- the first reader is handed out of the last stage only, and nothing takes from there
      simp only [handedOut, h.length_eq, Bool.and_eq_true, decide_eq_true_eq,
        Option.isNone_iff_eq_none] at hi
      simp only [hi.1, Option.isSome_none, Bool.false_eq_true, and_false, or_false] at hl
      omega

theorem abort (i : Nat) :
    ∃ c' state', c.step (.abort i) = some (c', []) ∧ Linked source state' n c' ∧
      Onward source state [] source state' (fun l => Event.abort i = .abort l) := by
  by_cases hi : i < n ∧ (state i).isOver = false
  · refine ⟨_, install state i (state i).abort, ?_, h.others hi.1 ?_ ?_, ?_⟩
    · rw [step, h.stages, abort_row, if_pos hi]
    · intro l hl
      have hli : l ≠ i := by omega
      have hli' : l + 1 ≠ i := by omega
      simp [install, hli, hli']
    · intro l _ hl
      refine hl.install hi.2 ?_
      simp only [Duplication.abort, hi.2, Bool.false_eq_true, if_false]
      rfl
    · exact onward_install (.abort _ rfl)
  · refine ⟨c, state, ?_, h, .refl ..⟩
    rw [step, h.stages, abort_row, if_neg hi, ← h.stages]

end Linked

/-- Every event carries the row on. -/
theorem Linked.step {source : Source} {state : Nat → Duplication} {n : Nat}
    (h : Linked source state n c) (hs : c.step e = some (c', log)) :
    ∃ source' state' n', Linked source' state' n' c' ∧
      Onward source state log source' state' (fun l => e = .abort l) := by
  have only {x : Option (Cascade × Answers)} {q : Cascade} {rest : Answers}
      (hx : c.step e = x) (hq : x = some (q, rest)) : c' = q ∧ log = rest := by
    rw [← hx, hs] at hq
    simpa using hq
  cases e with
  | split =>
    cases hb : c.body with
    | none => simp [Cascade.step, hb] at hs
    | some b =>
      obtain ⟨q, hq, hl⟩ := h.split hb
      obtain ⟨rfl, rfl⟩ := only hq rfl
      exact ⟨_, _, _, hl, .refl ..⟩
  | take =>
    cases hb : c.body with
    | none => simp [Cascade.step, hb] at hs
    | some b =>
      obtain ⟨hq, hl⟩ := h.take (by rw [hb]; rfl)
      obtain ⟨rfl, rfl⟩ := only hq rfl
      exact ⟨_, _, _, hl, .refl ..⟩
  | task i m =>
    obtain ⟨p, hp, hq⟩ := Option.map_eq_some_iff.1 hs
    have hi : i < n := by
      by_contra hi
      rw [h.stages, Plumbing.move, getElem?_row, if_neg hi] at hp
      cases hp
    rw [h.stages] at hp
    obtain ⟨source', state', hm, rfl⟩ := (move_row hi).1 ⟨hp, rfl⟩
    obtain ⟨hq, hl⟩ := h.move hi hm
    obtain ⟨rfl, rfl⟩ := only hq rfl
    refine ⟨_, _, _, hl, hm.onward ?_ _⟩
    rintro l rfl
    exact h.tied l (.inl hi)
  | poll i s =>
    by_cases hi : c.handedOut i s = true
    · have hin := h.stage_of_handedOut hi
      cases hd : ((state i).reader s).dropped with
      | true => simp [Cascade.step, h.isDropped_eq hin, hd] at hs
      | false =>
        obtain ⟨q, hq, -, hl⟩ := h.poll hi hd
        obtain ⟨rfl, rfl⟩ := only hq rfl
        refine ⟨_, _, _, hl, .of_update (fun _ => rfl) ?_ ?_⟩
        · simpa [Answers.ofStage, Asker.sideAt] using Share.poll hd _
        · intro l hli
          simp [Answers.ofStage, Asker.sideAt, Ne.symm hli]
    · simp [Cascade.step, hi] at hs
  | drop i s =>
    by_cases hi : c.handedOut i s = true
    · obtain ⟨q, hq, hl⟩ := h.drop hi
      obtain ⟨rfl, rfl⟩ := only hq rfl
      exact ⟨_, _, _, hl, .of_update (fun _ => rfl) (.drop _ _ _) fun _ _ => rfl⟩
    · simp [Cascade.step, hi] at hs
  | abort i =>
    obtain ⟨q, state', hq, hl, ho⟩ := h.abort i
    obtain ⟨rfl, rfl⟩ := only hq rfl
    exact ⟨_, _, _, hl, ho⟩

/-- So does every run. -/
theorem Linked.run {source : Source} {state : Nat → Duplication} {n : Nat}
    (h : Linked source state n c) (hr : c.run es = some (t, log)) :
    ∃ source' state' n', Linked source' state' n' t ∧
      Onward source state log source' state' (fun l => .abort l ∈ es) := by
  induction es generalizing c source state n log with
  | nil =>
    cases hr
    exact ⟨_, _, _, h, .refl ..⟩
  | cons e es ih =>
    obtain ⟨q, first, rest, hs, hq, rfl⟩ := run_cons hr
    obtain ⟨_, _, _, hlinked, hfirst⟩ := h.step hs
    obtain ⟨_, _, _, hlast, hrest⟩ := ih hlinked hq
    refine ⟨_, _, _, hlast, (hfirst.mono ?_).trans (hrest.mono ?_)⟩
    · rintro l rfl
      exact List.mem_cons_self
    · exact fun l hl => List.mem_cons_of_mem _ hl

end Cascade

end Countersign
