import Countersign.Http.Framing.Response
import Countersign.Proofs.Engine.Conclusion
/-! What the client is answered. A response that reaches the sink before the engine ends
is the answer; one that comes later may find the front gone. -/

namespace Countersign.Front

open Countersign.Http
open Engine (claiming dated serving taking)
open Watch (Gives SentAlive DroppedUnsent EndsFirst)

theorem happenings_of_unused {a : Account} (h : sinkEvents a.events = []) :
    happenings a = [.engineEnds] := by
  rw [happenings_eq, h]
  rfl

theorem responses_eq (a : Account) :
    a.responses = (sinkEvents a.events).filterMap Account.handedOf := by
  rw [Account.responses]
  generalize a.events = es
  induction es with
  | nil => rfl
  | cons ev es ih =>
    cases ev with
    | handed party r => exact congrArg (r :: ·) ih
    | _ => exact ih

/-- A handler can do anything with the sink that it took from a signed request. -/
theorem exists_used (rest : Handler) (used : List Event)
    (h : ∀ y : Exchange, y.sinkHeld = true → (rest.run y).2.call.hijacked = y.call.hijacked ∧
      sinkEvents (rest.run y).2.events = sinkEvents y.events ++ used) :
    ∃ v : Bytes,
    let account := (serving (taking rest)).handle .none false "request"
      (claiming (dated "20240101T120000Z") v) .empty
    account.outcome = .hijacked ∧ sinkEvents account.events = used := by
  obtain ⟨v, x, hx⟩ := Engine.exists_reached (taking rest) (fun _ => rfl)
    (dated "20240101T120000Z") rfl rfl .none false "request" .empty
  refine ⟨v, ?_⟩
  obtain ⟨houtcome, hevents⟩ := Engine.handle_of_ok hx
  cases Engine.custody_of_reached hx with
  | handler _ hijacked _ _ | spent _ hijacked _ _ =>
    have hfree : x.call.hijacked = true := hijacked
    rw [Engine.hijacked_of_reached hx] at hfree
    cases hfree
  | engine has hijacked _ unused =>
    generalize hstart : x.record (.ran (taking rest).name) = start at has hijacked unused
    obtain ⟨hheld, hhijacked, hsame⟩ : start.hijack.2.sinkHeld = true ∧
        start.hijack.2.call.hijacked = true ∧ start.hijack.2.events = start.events := by
      rw [Exchange.hijack_eq_ok hijacked has]
      exact ⟨rfl, rfl, rfl⟩
    obtain ⟨htaken, hused⟩ := h start.hijack.2 hheld
    have hrun : (taking rest).handler.run (x.record (.ran (taking rest).name)) =
        rest.run start.hijack.2 := by
      rw [hstart]
      rfl
    obtain ⟨hout, hev⟩ := Engine.runProvider_of_hijacked hrun (htaken.trans hhijacked)
    intro account
    rw [houtcome, hevents, hout, hev, hused, hsame, unused]
    exact ⟨rfl, rfl⟩

def sending (r : Response) : Handler := .act (.send r) fun _ => .done (.ok .healthy)

theorem run_sending (r : Response) (y : Exchange) (held : y.sinkHeld = true) :
    ((sending r).run y).2.call.hijacked = y.call.hijacked ∧
      sinkEvents ((sending r).run y).2.events = sinkEvents y.events ++ [.handed .handler r] := by
  have hsend : (y.send r).2 = { y with sinkHeld := false }.record (.handed .handler r) := by
    rw [Exchange.send, held]
    rfl
  have hrun : ((sending r).run y).2 = (y.send r).2 := rfl
  rw [hrun, hsend]
  exact ⟨rfl, sinkEvents_append _ _⟩

/-- The sink decides. A response sent while the sink can take it is the only answer, unless
the engine ended first; and the front answers with an internal error only for a sink that
was dropped, or for an engine that ended with the sink unused. So what was sent while the
engine worked is what the front answers, whenever it looks and whatever comes later. -/
theorem first_use_of_sink_is_answer :
    (∀ hs r, SentAlive hs r → ¬ EndsFirst hs → ∀ a, Gives {} hs a ↔ a = r) ∧
    (∀ hs r, SentAlive hs r → ∀ a, a ∈ (hs.foldl Watch.step {}).answers ↔ a = r) ∧
    (∀ hs a, Gives {} hs a ↔
      SentAlive hs a ∨ a = .internalError ∧ (DroppedUnsent hs ∨ EndsFirst hs)) ∧
    (∀ hs, hs ≠ [] → ∃ r, Watch.answer {} hs = some r ∧ Gives {} hs r) ∧
    ∀ (s : Service) (id : Text) (head : RequestHead) (body : Source),
      isHealthCheck head = false →
      let account := s.engine.handle s.transport false id head body
      (∀ r ∈ account.responses, (respond s id head body).1 = r ∧
        ∀ later a, Gives {} (happenings account ++ later) a ↔ a = r) ∧
      (account.responses = [] → (respond s id head body).1 = .internalError ∧
        ∀ later a, Gives {} (happenings account ++ later) a ↔
          a = .internalError ∨ .sinkDropped ∉ account.events ∧ SentAlive later a) := by
  refine ⟨?_, ?_, fun hs a => Watch.gives_iff, ?_, ?_⟩
  · intro hs r hsent hfirst a
    cases hsent with
    | here => simp [Watch.gives_iff, EndsFirst]
    | ended => exact absurd trivial hfirst
  · intro hs r hsent a
    exact Watch.mem_answers_of_sentAlive hsent
  · intro hs hne
    obtain ⟨r, hr⟩ := Watch.exists_answer hne
    exact ⟨r, hr, Watch.gives_answer hr⟩
  · intro s id head body hhead account
    rw [respond_eq hhead, responses_eq]
    rcases Engine.sinkEvents_handle s.engine s.transport false id head body with
      hnone | ⟨party, s, hs⟩ | hdropped
    · have hnot : .sinkDropped ∉ account.events := by
        rw [← mem_sinkEvents rfl, hnone]
        exact List.not_mem_nil
      rw [hnone, happenings_of_unused hnone]
      refine ⟨fun r hr => absurd hr List.not_mem_nil, fun _ => ⟨rfl, ?_⟩⟩
      intro later a
      simp [Watch.gives_iff, EndsFirst, hnot, or_comm]
    · obtain ⟨hanswer, hgives⟩ := gives_of_handed hs
      rw [hs, hanswer]
      refine ⟨?_, fun hnil => absurd hnil (List.cons_ne_nil _ _)⟩
      intro r hr
      obtain rfl := List.mem_singleton.1 hr
      exact ⟨rfl, hgives⟩
    · have hin : .sinkDropped ∈ account.events := by
        rw [← mem_sinkEvents rfl, hdropped]
        exact List.mem_singleton_self _
      have hhappenings : happenings account = [.sinkDropped, .engineEnds] := by
        rw [happenings_eq, hdropped]
        rfl
      rw [hdropped, hhappenings]
      refine ⟨fun r hr => absurd hr List.not_mem_nil, fun _ => ⟨rfl, ?_⟩⟩
      intro later a
      simp [Watch.gives_iff, EndsFirst, hin]

theorem first_use_of_sink_is_answer_of_early_response :
    ∃ v : Bytes,
    let s : Service := ⟨serving (taking (sending .healthy)), .none⟩
    let head := claiming (dated "20240101T120000Z") v
    isHealthCheck head = false ∧
      (s.engine.handle s.transport false "request" head .empty).responses = [.healthy] ∧
      (respond s "request" head .empty).1 = .healthy ∧
      ∀ a, Gives {} [.sent .healthy, .engineEnds] a ↔ a = .healthy := by
  obtain ⟨v, -, hsink⟩ := exists_used (sending .healthy) [.handed .handler .healthy]
    (run_sending .healthy)
  refine ⟨v, ?_⟩
  intro s head
  have hresponses : (s.engine.handle s.transport false "request" head .empty).responses =
      [.healthy] := by
    rw [responses_eq, hsink]
    rfl
  obtain ⟨halive, -, -, -, hservice⟩ := first_use_of_sink_is_answer
  obtain ⟨hsent, -⟩ := hservice s "request" head .empty rfl
  refine ⟨rfl, hresponses, (hsent .healthy ?_).1, halive _ _ .here id⟩
  rw [hresponses]
  exact List.mem_singleton_self _

/-- A sink may outlive the engine, and what is sent into it then comes too late, although
it was not dropped. And a response that does come in time is lost on the way to the
client where its status only announces another one. -/
theorem response_lost_after_engine_ended :
    (SentAlive [.engineEnds, .sent .healthy] .healthy ∧
      ¬ DroppedUnsent [.engineEnds, .sent .healthy] ∧
      Watch.answer {} [.engineEnds, .sent .healthy] = some .internalError ∧
      Response.healthy ≠ .internalError) ∧
    (∃ v : Bytes,
      let s : Service := ⟨serving (taking (.done (.ok .healthy))), .none⟩
      let head := claiming (dated "20240101T120000Z") v
      let account := s.engine.handle s.transport false "request" head .empty
      account.outcome = .hijacked ∧ .sinkDropped ∉ account.events ∧
          SentAlive (happenings account ++ [.sent .healthy]) .healthy ∧
        (respond s "request" head .empty).1 = .internalError) ∧
    ∃ v : Bytes,
      let early : Response := .ofText 103 [] "x"
      let s : Service := ⟨serving (taking (sending early)), .none⟩
      let head := claiming (dated "20240101T120000Z") v
      (respond s "request" head .empty).1 = early ∧
        ∀ frames, Framing.delivery? ⟨head, early.status, early.headers, early.body.length?⟩ frames =
          some ⟨500, [], ([], .done)⟩ := by
  refine ⟨⟨.ended .here, nofun, rfl, ?_⟩, ?_, ?_⟩
  · intro h
    exact absurd (congrArg Response.status h) (by decide)
  · obtain ⟨v, houtcome, hsink⟩ := exists_used (.done (.ok .healthy)) [] fun y _ =>
      ⟨rfl, (List.append_nil _).symm⟩
    refine ⟨v, houtcome, ?_, ?_, ?_⟩
    · rw [← mem_sinkEvents rfl, hsink]
      exact List.not_mem_nil
    · rw [happenings_of_unused hsink]
      exact .ended .here
    · rw [respond_eq rfl, happenings_of_unused hsink]
      rfl
  · obtain ⟨v, -, hsink⟩ := exists_used (sending (.ofText 103 [] "x"))
      [.handed .handler (.ofText 103 [] "x")] (run_sending _)
    have hstatus : 103 / 100 = 1 ∧ 103 ≠ 101 := by decide
    refine ⟨v, ?_, fun _ => if_pos hstatus⟩
    rw [respond_eq rfl, (gives_of_handed hsink).1]
    rfl

end Countersign.Front
