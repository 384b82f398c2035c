import EchonetLite.Proofs.Node.Serving
import EchonetLite.Proofs.Node.Steps

/-! An answer is neither a request nor a notification to be acknowledged, so no node answers it and
an exchange between nodes ends. -/

namespace EchonetLite

namespace Service

inductive Concludes : Service → Prop
  | carriedOut {s success refusal : Service} : s.Exchange (some success) refusal →
      Concludes success
  | refused {s refusal : Service} {success : Option Service} : s.Exchange success refusal →
      Concludes refusal
  | acknowledged : Concludes infCRes

variable {s : Service}

lemma Concludes.not_request (h : s.Concludes) : s ≠ infC ∧ s.isRequest = false := by
  cases h with
  | carriedOut hx => cases hx <;> decide
  | refused hx => cases hx <;> decide
  | acknowledged => decide

lemma Concludes.not_exchange (h : s.Concludes) (success : Option Service) (refusal : Service) :
    ¬ s.Exchange success refusal := by
  intro hx
  have hr := h.not_request.2
  rw [hx.isRequest] at hr
  cases hr

end Service

namespace Request

variable {h : HostedObject} {m r : Message} {out : Outbox}

lemma concludes_of_answer (hr : (serve h m out).answer = some r) : r.esv.Concludes := by
  cases verdict h.object m with
  | acknowledged hi =>
    rw [serve_infC hi] at hr
    obtain rfl := Option.some.inj hr
    exact .acknowledged
  | dropped hi hn =>
    rw [serve_dropped hi hn] at hr
    cases hr
  | refused success refusal hx hb =>
    obtain ⟨reason, hs⟩ := serve_refused hx hb out
    rw [hs, refusal?_eq hx] at hr
    obtain rfl := Option.some.inj hr
    exact .refused hx
  | accepted success refusal hx ha =>
    rw [serve_accepted hx ha rfl] at hr
    dsimp only at hr
    split at hr
    · have he := map_esv_answer? hx (carryOut h.listener m.esv m.entries h.object out).object
      rw [hr] at he
      obtain rfl : some r.esv = success := he
      exact .carriedOut hx
    · rw [refusal?_eq hx] at hr
      obtain rfl := Option.some.inj hr
      exact .refused hx

end Request

namespace NodeObjects

variable {n : NodeObjects} {m r : Message} {out : Outbox}

lemma concludes_of_answer (hr : (n.handle m out).answer = some r) : r.esv.Concludes := by
  rcases n.exists_addressed_or m.deoj with ⟨h, put, ha⟩ | hn
  · rw [handle_addressed ha] at hr
    exact Request.concludes_of_answer hr
  · rw [handle_unaddressed hn] at hr
    cases hr

lemma handle_concluding (hm : m.esv.Concludes) (n : NodeObjects) (out : Outbox) :
    ∃ notice, n.handle m out = { objects := n, outbox := out, notice := some notice } := by
  rcases n.exists_addressed_or m.deoj with ⟨h, put, ha⟩ | hn
  · refine ⟨.notRequest m.esv m.deoj, ?_⟩
    rw [handle_addressed ha, Request.serve_dropped hm.not_request.1 hm.not_exchange, ha.put_self]
  · exact ⟨.noObject m.deoj m.esv, handle_unaddressed hn out⟩

end NodeObjects

namespace LocalNode

variable {m : Message}

lemma handle_concluding (hm : m.esv.Concludes) (n : LocalNode) :
    ∃ notice, n.handle m = (n, { notice := some notice }) := by
  obtain ⟨notice, hn⟩ := NodeObjects.handle_concluding hm n.objects n.outbox
  exact ⟨notice, by simp only [handle, hn]⟩

/-- What a node answers is answered by no node, wherever it is addressed to: the node that handles
it asks no listener and stays as it is. Where it arrives from outside, it at most completes the call
that waits for it. -/
theorem answers_unanswered (n₁ n₂ : LocalNode) (m r : Message)
    (hr : (n₁.handle m).2.answer = some r) :
    (n₂.handle r).1 = n₂ ∧ (n₂.handle r).2.answer = none ∧ (n₂.handle r).2.events = [] ∧
      ∀ source route, ∃ pending,
        (n₂.process ⟨r, source, route⟩).node = { n₂ with pending } ∧
          (n₂.process ⟨r, source, route⟩).reaction.answer = none ∧
          (n₂.process ⟨r, source, route⟩).reaction.events = [] := by
  obtain ⟨notice, hn⟩ := handle_concluding (NodeObjects.concludes_of_answer hr) n₂
  refine ⟨by rw [hn], by rw [hn], by rw [hn], ?_⟩
  intro source route
  have hp := n₂.processes ⟨r, source, route⟩
  generalize n₂.process ⟨r, source, route⟩ = processed at hp
  cases hp with
  | dropped => exact ⟨n₂.pending, rfl, rfl, rfl⟩
  | completed => exact ⟨none, rfl, rfl, rfl⟩
  | handled => exact ⟨n₂.pending, by rw [hn], by rw [hn], by rw [hn]⟩

theorem answers_unanswered_inf :
    ∃ r, (handle { settings := {}, objects := .lamps }
          { seoj := .controller, deoj := ⟨0x02, 0x90, 0x01⟩, esv := .infReq,
            entries := [⟨0x80, []⟩] }).2.answer = some r ∧ r.esv = .inf ∧
      ((new {} (.replicate 13 0) 0).handle r).2.answer = none := by
  refine ⟨{ seoj := ⟨0x02, 0x90, 0x01⟩, deoj := .nodeProfile, esv := .inf,
            entries := [⟨0x80, [0x30]⟩] }, by decide, rfl, ?_⟩
  exact (answers_unanswered { settings := {}, objects := .lamps } (new {} (.replicate 13 0) 0)
    { seoj := .controller, deoj := ⟨0x02, 0x90, 0x01⟩, esv := .infReq,
      entries := [⟨0x80, []⟩] } _ (by decide)).2.1

end LocalNode

end EchonetLite
