import Countersign.Front
/-! What a front may answer that looks when it likes. The first thing that happens to
the sink is final, so only an engine that ends before anything happened to the sink
leaves the front a choice. -/

namespace Countersign.Front.Watch

variable {w : Watch} {h : Happening} {hs : List Happening} {r a : Response}

/-- The front looks at any moment and takes any of the answers that are ready. -/
inductive Gives : Watch → List Happening → Response → Prop
  | now {w : Watch} {hs : List Happening} {r : Response} (ready : r ∈ w.answers) : Gives w hs r
  | later {w : Watch} {h : Happening} {hs : List Happening} {r : Response}
      (gives : Gives (w.step h) hs r) : Gives w (h :: hs) r

/-- A response goes into the sink while it is there to take one. -/
inductive SentAlive : List Happening → Response → Prop
  | here {hs : List Happening} {r : Response} : SentAlive (.sent r :: hs) r
  | ended {hs : List Happening} {r : Response} (sent : SentAlive hs r) :
      SentAlive (.engineEnds :: hs) r

/-- The sink goes away without a response. -/
inductive DroppedUnsent : List Happening → Prop
  | here {hs : List Happening} : DroppedUnsent (.sinkDropped :: hs)
  | ended {hs : List Happening} (dropped : DroppedUnsent hs) : DroppedUnsent (.engineEnds :: hs)

/-- The engine ends before anything happens to the sink. -/
def EndsFirst : List Happening → Prop
  | .engineEnds :: _ => True
  | _ => False

@[simp] theorem sentAlive_nil : ¬ SentAlive [] r := nofun

@[simp] theorem sentAlive_sent : SentAlive (.sent r :: hs) a ↔ a = r := by
  constructor
  · intro h
    cases h
    rfl
  · rintro rfl
    exact .here

@[simp] theorem sentAlive_dropped : ¬ SentAlive (.sinkDropped :: hs) r := nofun

@[simp] theorem sentAlive_ended : SentAlive (.engineEnds :: hs) r ↔ SentAlive hs r := by
  constructor
  · intro h
    cases h
    assumption
  · exact .ended

@[simp] theorem droppedUnsent_nil : ¬ DroppedUnsent [] := nofun

@[simp] theorem droppedUnsent_sent : ¬ DroppedUnsent (.sent r :: hs) := nofun

@[simp] theorem droppedUnsent_dropped : DroppedUnsent (.sinkDropped :: hs) := .here

/-! ## One look -/

/-- Whatever happens to a channel that is not waiting any more comes too late. -/
theorem channel_step_of_settled (hw : w.channel ≠ .waiting) (h : Happening) :
    (w.step h).channel = w.channel := by
  cases h with
  | engineEnds => rfl
  | sent r => cases hc : w.channel <;> simp_all [step]
  | sinkDropped => cases hc : w.channel <;> simp_all [step]

theorem channel_step_sent (hw : w.channel = .waiting) (r : Response) :
    (w.step (.sent r)).channel = .holding r := by simp [step, hw]

theorem channel_step_sinkDropped (hw : w.channel = .waiting) :
    (w.step .sinkDropped).channel = .closed := by simp [step, hw]

/-- What a settled channel answers. The engine has no other word by then. -/
theorem mem_answers_of_settled (hw : w.channel ≠ .waiting) :
    a ∈ w.answers ↔ w.fromSink = some a := by
  cases hc : w.channel with
  | waiting => exact absurd hc hw
  | holding r =>
    cases hdone : w.engineDone <;> simp [answers, fromEngine, fromSink, hc, hdone, eq_comm]
  | closed =>
    cases hdone : w.engineDone <;> simp [answers, fromEngine, fromSink, hc, hdone, eq_comm]

theorem mem_answers_of_waiting (hw : w.channel = .waiting) :
    a ∈ w.answers ↔ w.engineDone = true ∧ a = .internalError := by
  cases hdone : w.engineDone <;> simp [answers, fromEngine, fromSink, hw, hdone]

theorem channel_foldl_of_settled (hw : w.channel ≠ .waiting) :
    (hs.foldl step w).channel = w.channel := by
  induction hs generalizing w with
  | nil => rfl
  | cons h hs ih =>
    have hstep := channel_step_of_settled hw h
    have hnext : (w.step h).channel ≠ .waiting := by rwa [hstep]
    rw [List.foldl_cons, ih hnext, hstep]

/-- A sink that took a response holds it from then on. -/
theorem channel_of_sentAlive (hw : w.channel = .waiting) (h : SentAlive hs r) :
    (hs.foldl step w).channel = .holding r := by
  induction h generalizing w with
  | @here hs r =>
    have hstep := channel_step_sent hw r
    have hsettled : (w.step (.sent r)).channel ≠ .waiting := by
      rw [hstep]
      nofun
    rw [List.foldl_cons, channel_foldl_of_settled hsettled, hstep]
  | ended _ ih =>
    apply ih
    exact hw

/-- After everything that happens the front has one answer, the response that the sink took. -/
theorem mem_answers_of_sentAlive (h : SentAlive hs r) :
    a ∈ (hs.foldl step {}).answers ↔ a = r := by
  have hlast := channel_of_sentAlive (w := {}) rfl h
  have hsettled : (hs.foldl step {}).channel ≠ .waiting := by
    rw [hlast]
    nofun
  rw [mem_answers_of_settled hsettled, fromSink, hlast, Option.some.injEq, eq_comm]

/-! ## Any number of looks -/

theorem gives_nil : Gives w [] a ↔ a ∈ w.answers := by
  constructor
  · rintro ⟨ready⟩
    exact ready
  · exact .now

theorem gives_cons : Gives w (h :: hs) a ↔ a ∈ w.answers ∨ Gives (w.step h) hs a := by
  constructor
  · intro hgives
    cases hgives with
    | now ready => exact .inl ready
    | later gives => exact .inr gives
  · rintro (ready | gives)
    · exact .now ready
    · exact .later gives

/-- A settled channel leaves one answer, however often the front looks. -/
theorem gives_of_settled (hw : w.channel ≠ .waiting) : Gives w hs a ↔ w.fromSink = some a := by
  induction hs generalizing w with
  | nil => rw [gives_nil, mem_answers_of_settled hw]
  | cons h hs ih =>
    have hstep := channel_step_of_settled hw h
    have hnext : (w.step h).channel ≠ .waiting := by rwa [hstep]
    have hsame : (w.step h).fromSink = w.fromSink := by rw [fromSink, hstep, fromSink]
    rw [gives_cons, mem_answers_of_settled hw, ih hnext, hsame, or_self]

theorem gives_of_holding (hw : w.channel = .holding r) : Gives w hs a ↔ a = r := by
  have hsettled : w.channel ≠ .waiting := by
    rw [hw]
    nofun
  rw [gives_of_settled hsettled, fromSink, hw, Option.some.injEq, eq_comm]

theorem gives_of_closed (hw : w.channel = .closed) : Gives w hs a ↔ a = .internalError := by
  have hsettled : w.channel ≠ .waiting := by
    rw [hw]
    nofun
  rw [gives_of_settled hsettled, fromSink, hw, Option.some.injEq, eq_comm]

/-- An engine that is done before the sink was used may be answered for at once. -/
theorem gives_of_done (hw : w.channel = .waiting) (hdone : w.engineDone = true) :
    Gives w hs a ↔ SentAlive hs a ∨ a = .internalError := by
  induction hs generalizing w with
  | nil => simp [gives_nil, mem_answers_of_waiting hw, hdone]
  | cons h hs ih =>
    rw [gives_cons, mem_answers_of_waiting hw]
    cases h with
    | engineEnds =>
      have hstill : (w.step .engineEnds).channel = .waiting := hw
      rw [ih hstill rfl, sentAlive_ended]
      simp only [hdone, true_and]
      rw [or_left_comm, or_self]
    | sent s =>
      rw [gives_of_holding (channel_step_sent hw s)]
      simp [hdone, or_comm]
    | sinkDropped =>
      rw [gives_of_closed (channel_step_sinkDropped hw)]
      simp [hdone]

/-- All that a front may answer, whatever the order of things and whenever it looks. -/
theorem gives_iff : Gives {} hs a ↔
    SentAlive hs a ∨ a = .internalError ∧ (DroppedUnsent hs ∨ EndsFirst hs) := by
  have hnone : a ∉ ({} : Watch).answers := nofun
  cases hs with
  | nil => simp [gives_nil, hnone, EndsFirst]
  | cons h hs =>
    rw [gives_cons, or_iff_right hnone]
    cases h with
    | engineEnds =>
      rw [gives_of_done rfl rfl]
      simp [EndsFirst]
    | sent s =>
      rw [gives_of_holding (r := s) rfl]
      simp [EndsFirst]
    | sinkDropped =>
      rw [gives_of_closed rfl]
      simp

/-- A front that looks after everything that happens gives one of these answers. -/
theorem gives_answer (h : w.answer hs = some r) : Gives w hs r := by
  induction hs generalizing w with
  | nil =>
    rw [gives_nil]
    exact List.mem_of_head? h
  | cons e hs ih =>
    rw [answer] at h
    split at h
    · next b hb =>
      obtain rfl := Option.some.inj h
      exact .now (List.mem_of_head? hb)
    · exact .later (ih h)

/-- There is an answer as soon as anything has happened. -/
theorem exists_answer (hne : hs ≠ []) : ∃ r, Watch.answer {} hs = some r := by
  cases hs with
  | nil => exact absurd rfl hne
  | cons h hs =>
    have hready : ∃ r, ((({} : Watch).step h).answers).head? = some r := by
      cases h <;> exact ⟨_, rfl⟩
    obtain ⟨r, hr⟩ := hready
    refine ⟨r, ?_⟩
    have hstep : Watch.answer {} (h :: hs) = (({} : Watch).step h).answer hs := rfl
    rw [hstep]
    cases hs <;> rw [answer, hr]

end Countersign.Front.Watch
