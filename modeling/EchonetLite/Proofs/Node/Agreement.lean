import EchonetLite.Proofs.Node.Requests

/-! The two ways to an answer. Over a connection the result is the first frame that answers the
request. A node that waits for a datagram looks at the messages in the same order, and passes over
those that are requests themselves. -/

namespace EchonetLite

namespace Connection

variable {m f : Message} {destination : Endpoint} {wait : Duration} {ending : Ending}
  {frames : List Message}

lemma awaitAnswer_eq_ok_iff : awaitAnswer m destination wait ending (frames.map .ok) = .ok f ↔
    frames.find? (·.answers m) = some f := by
  induction frames with
  | nil => cases ending <;> exact ⟨nofun, nofun⟩
  | cons frame frames ih =>
    rw [List.map_cons, awaitAnswer]
    cases ha : frame.answers m with
    | true => rw [List.find?_cons, ha, if_pos rfl, Except.ok.injEq, Option.some.injEq]
    | false => rw [List.find?_cons, ha, if_neg Bool.false_ne_true, ih]

lemma request_eq_ok_iff (hm : m.Fits) :
    request m destination wait { frames := frames.map .ok, ending } = .ok f ↔
      frames.find? (·.answers m) = some f := by
  rw [request, Message.encode_eq_ok_iff.mpr ⟨hm, rfl⟩]
  exact awaitAnswer_eq_ok_iff

end Connection

lemma find?_passing_iff {α : Type} {p q : α → Bool} {l : List α} :
    (∀ a, l.find? q = some a ↔ l.find? (fun x => !p x && q x) = some a) ↔
      ∀ a, l.find? q = some a → p a = false := by
  constructor
  · intro h a ha
    have hboth := List.find?_some ((h a).mp ha)
    rw [Bool.and_eq_true, Bool.not_eq_true'] at hboth
    exact hboth.1
  · intro h a
    suffices heq : l.find? (fun x => !p x && q x) = l.find? q by rw [heq]
    cases hq : l.find? q with
    | none =>
      refine List.find?_eq_none.mpr fun x hx hboth => ?_
      rw [Bool.and_eq_true] at hboth
      exact List.find?_eq_none.mp hq x hx hboth.2
    | some b =>
      obtain ⟨hb, before, after, hl, hbefore⟩ := List.find?_eq_some_iff_append.mp hq
      refine List.find?_eq_some_iff_append.mpr ⟨?_, before, after, hl, fun x hx => ?_⟩
      · rw [h b hq, hb]
        rfl
      · rw [Bool.not_eq_true', Bool.and_eq_false_iff]
        exact .inr (Bool.not_eq_true' _ ▸ hbefore x hx)

namespace Activity

variable {s s' t : Activity} {a : Action} {i : Nat} {c : PostCall} {inbound : Inbound}

lemma Serialised.mailboxAt_step (hs : s.Serialised) (h : s.step a = some s')
    (hm : s.mailboxAt i ≠ .empty) : s'.mailboxAt i = s.mailboxAt i := by
  cases hs.concerns h i with
  | apart he => rw [mailboxAt, he, mailboxAt]
  | begun _ hn =>
    rw [mailboxAt, hn] at hm
    exact absurd rfl hm
  | moved ho => rw [mailboxAt_eq ho.updates.after, mailboxAt_eq ho.updates.before, ho.moves.mailbox]
  | filled hd _ _ he => exact absurd ((mailboxAt_eq hd).trans he) hm

lemma Serialised.mailboxAt_run {later : List Action} (hs : s.Serialised)
    (h : s.run later = some t) (hm : s.mailboxAt i ≠ .empty) : t.mailboxAt i = s.mailboxAt i :=
  (run_preserves (P := fun t => t.Serialised ∧ t.mailboxAt i = s.mailboxAt i)
    (fun _ _ _ ⟨ht, he⟩ hstep =>
      ⟨ht.step hstep, (ht.mailboxAt_step hstep (he ▸ hm)).trans he⟩) ⟨hs, rfl⟩ h).2

structure Awaits (s : Activity) (i : Nat) (c : PostCall) : Prop where
  serialised : s.Serialised
  call : s.calls[i]? = some c
  registered : c.stage.isRegistered = true
  empty : c.mailbox = .empty

lemma receive_transport (s : Activity) (inbound : Inbound) :
    (s.receive inbound).node.transport = s.node.transport := by
  have h := s.nodeStep_receive inbound
  generalize s.receive inbound = s' at h
  cases h <;> rfl

lemma Awaits.receive_of_not (h : s.Awaits i c) (hn : ¬ inbound.message.AnswerTo c.message) :
    (s.receive inbound).Awaits i c := by
  have hs : (s.receive inbound).Serialised := h.serialised.step (a := .receive inbound) rfl
  have hr := h.serialised.routed inbound
  generalize s.receive inbound = s' at hr hs
  cases hr with
  | dropped => exact h
  | @completed j d _ hd hdr _ ha =>
    have hj := h.serialised.turn j d hd (PostStage.hasTurn_of_isRegistered hdr)
    have hi := h.serialised.turn i c h.call (PostStage.hasTurn_of_isRegistered h.registered)
    obtain rfl := Option.some.inj (hi.symm.trans hj)
    obtain rfl := Option.some.inj (h.call.symm.trans hd)
    exact absurd ha hn
  | handled => exact ⟨hs, h.call, h.registered, h.empty⟩

lemma Awaits.receive_of (h : s.Awaits i c) (hh : s.node.Hears inbound)
    (ha : inbound.message.AnswerTo c.message) :
    (s.receive inbound).mailboxAt i = .answered inbound.message := by
  have hr := h.serialised.routed inbound
  generalize s.receive inbound = s' at hr
  cases hr with
  | dropped hn => exact absurd hh hn
  | @completed j d _ hd hdr _ _ =>
    have hj := h.serialised.turn j d hd (PostStage.hasTurn_of_isRegistered hdr)
    have hi := h.serialised.turn i c h.call (PostStage.hasTurn_of_isRegistered h.registered)
    obtain rfl := Option.some.inj (hi.symm.trans hj)
    have hset := List.getElem?_set_self (a := { d with mailbox := .answered inbound.message })
      (List.getElem?_eq_some_iff.mp hd).1
    rw [mailboxAt, hset]
    rfl
  | handled _ hn => exact absurd ha (hn i c h.call h.registered h.empty)

lemma run_receive (s : Activity) (arriving : List Inbound) :
    s.run (arriving.map .receive) = some (arriving.foldl receive s) := by
  induction arriving generalizing s with
  | nil => rfl
  | cons inbound arriving ih => exact (run_cons rfl _).trans (ih _)

lemma Awaits.mailboxAt_receive {arriving : List Inbound} (h : s.Awaits i c)
    (hh : ∀ inbound ∈ arriving, s.node.Hears inbound) :
    (arriving.foldl receive s).mailboxAt i = ((arriving.map Inbound.message).find? fun m =>
      !m.esv.isRequest && m.answers c.message).elim .empty .answered := by
  induction arriving generalizing s with
  | nil => exact (mailboxAt_eq h.call).trans h.empty
  | cons inbound arriving ih =>
    obtain ⟨hhead, htail⟩ := List.forall_mem_cons.mp hh
    rw [List.foldl_cons, List.map_cons, List.find?_cons]
    cases ha : !inbound.message.esv.isRequest && inbound.message.answers c.message with
    | true =>
      have hm := h.receive_of hhead (Message.answerTo_iff.mp ha)
      have hs : (s.receive inbound).Serialised := h.serialised.step (a := .receive inbound) rfl
      rw [hs.mailboxAt_run (run_receive _ arriving) (by rw [hm]; nofun), hm]
      rfl
    | false =>
      have hn : ¬ inbound.message.AnswerTo c.message := fun hanswer =>
        nomatch ha.symm.trans (Message.answerTo_iff.mpr hanswer)
      refine ih (h.receive_of_not hn) fun x hx => ?_
      rw [LocalNode.Hears, receive_transport]
      exact htail x hx

/-- The same messages come back to a request over a connection of its own and to a node where a call
waits that sent the request as a datagram. Over the connection the result is the first that answers
the request; the call gets the first that answers it and is not a request itself. So the two agree
exactly if the first message that answers the request is not a request. -/
theorem answers_agree_iff (node : LocalNode) (hp : node.pending = none) (actions : List Action)
    (s : Activity) (h : (idle node).run actions = some s) (i : Nat) (c : PostCall)
    (hc : s.calls[i]? = some c) (hw : c.stage = .waiting) (hm : c.mailbox = .empty)
    (arriving : List Inbound) (hh : ∀ inbound ∈ arriving, s.node.Hears inbound) (wait : Duration)
    (ending : Connection.Ending) :
    ∃ t, s.run (arriving.map .receive) = some t ∧
      (∀ f, t.mailboxAt i = .answered f ↔ (arriving.map Inbound.message).find? (fun m =>
        !m.esv.isRequest && m.answers c.message) = some f) ∧
      (∀ f, Connection.request c.message c.destination wait
          { frames := (arriving.map Inbound.message).map .ok, ending } = .ok f ↔
        (arriving.map Inbound.message).find? (·.answers c.message) = some f) ∧
      ((∀ f, Connection.request c.message c.destination wait
          { frames := (arriving.map Inbound.message).map .ok, ending } = .ok f ↔
        t.mailboxAt i = .answered f) ↔
          ∀ f, (arriving.map Inbound.message).find? (·.answers c.message) = some f →
            f.esv.isRequest = false) := by
  have awaits : s.Awaits i c := ⟨(tracked_run hp h).serialised, hc, by rw [hw]; rfl, hm⟩
  have hfits : c.message.Fits := by
    have hcourse := ((traced_run hp h i).2 c hc).course
    rw [hw] at hcourse
    exact (PostCall.sendable_iff.mp hcourse.sendable).1
  have hmailbox (f : Message) : (arriving.foldl receive s).mailboxAt i = .answered f ↔
      (arriving.map Inbound.message).find? (fun m =>
        !m.esv.isRequest && m.answers c.message) = some f := by
    rw [awaits.mailboxAt_receive hh]
    generalize (arriving.map Inbound.message).find? _ = found
    cases found with
    | none => exact ⟨nofun, nofun⟩
    | some m =>
      rw [Option.elim_some, Mailbox.answered.injEq, Option.some.injEq]
  refine ⟨_, s.run_receive arriving, hmailbox, fun f => Connection.request_eq_ok_iff hfits, ?_⟩
  simp only [Connection.request_eq_ok_iff hfits, hmailbox]
  exact find?_passing_iff

theorem answers_agree_lampOn :
    ∃ s t c, (idle runningLampNode).run (asks 0) = some s ∧ s.calls[0]? = some c ∧
      s.run [hears 1] = some t ∧ t.mailboxAt 0 = .answered (lampOn 1) ∧
      Connection.request c.message c.destination (.ofSeconds 5)
        { frames := [.ok (lampOn 1)] } = .ok (lampOn 1) := by
  obtain ⟨s, c, hs, hc, hw, hm, ht, hfirst⟩ : ∃ s c,
      (idle runningLampNode).run (asks 0) = some s ∧ s.calls[0]? = some c ∧
      c.stage = .waiting ∧ c.mailbox = .empty ∧
      s.node.transport = runningLampNode.transport ∧
      [lampOn 1].find? (·.answers c.message) = some (lampOn 1) :=
    ⟨_, _, rfl, rfl, rfl, rfl, rfl, rfl⟩
  have hh : ∀ inbound ∈ [⟨lampOn 1, .ofIpv4 .localhost 3611, .datagram⟩],
      s.node.Hears inbound := by
    intro inbound hin
    obtain rfl := List.mem_singleton.mp hin
    exact ⟨_, ht, .inr (by decide)⟩
  obtain ⟨t, hrun, -, hover, hagree⟩ := answers_agree_iff runningLampNode rfl (asks 0) s hs 0 c hc
    hw hm _ hh (.ofSeconds 5) .closed
  have hanswer := (hover (lampOn 1)).mpr hfirst
  refine ⟨s, t, c, hs, hc, hrun, (hagree.mpr (fun f hf => ?_) _).mp hanswer, hanswer⟩
  obtain rfl := List.mem_singleton.mp (List.mem_of_find?_eq_some hf)
  rfl

def asksBack : Message :=
  { Message.readRequest ⟨0x02, 0x90, 0x02⟩ .controller [Epc.operationStatus] with tid := 1 }

theorem not_answers_agree :
    ∃ s t c, (idle runningLampNode).run (asks 0) = some s ∧ s.calls[0]? = some c ∧
      c.stage = .waiting ∧
      s.run [.receive ⟨asksBack, .ofIpv4 .localhost 3611, .datagram⟩, hears 1] = some t ∧
      t.mailboxAt 0 = .answered (lampOn 1) ∧
      Connection.request c.message c.destination (.ofSeconds 5)
        { frames := [.ok asksBack, .ok (lampOn 1)] } = .ok asksBack ∧
      asksBack.esv.isRequest = true ∧ asksBack ≠ lampOn 1 :=
  ⟨_, _, _, rfl, rfl, rfl, rfl, rfl, rfl, rfl, by decide⟩

end Activity

end EchonetLite
