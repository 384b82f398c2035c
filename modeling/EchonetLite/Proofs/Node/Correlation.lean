import EchonetLite.Proofs.Node.Identifiers

/-! Answers find the calls that wait for them. The first message that fits the call that is
registered goes into its mailbox, and whatever else is heard is handled. -/

namespace EchonetLite.Activity

structure Fits (s : Activity) (call : Nat) (inbound : Inbound) : Prop where
  hears : s.node.Hears inbound
  registered : ∃ c, s.calls[call]? = some c ∧ c.stage.isRegistered = true ∧
    inbound.message.AnswerTo c.message

def NoneFits (s : Activity) (actions : List Action) (call : Nat) : Prop :=
  ∀ before inbound after t, actions = before ++ .receive inbound :: after →
    s.run before = some t → ¬ t.Fits call inbound

def FirstFit (s : Activity) (actions : List Action) (call : Nat) (answer : Message) : Prop :=
  ∃ before inbound after t, actions = before ++ .receive inbound :: after ∧
    s.run before = some t ∧ t.Fits call inbound ∧ inbound.message = answer ∧
      s.NoneFits before call

inductive Routed (s : Activity) (inbound : Inbound) : Activity → Prop
  | dropped : ¬ s.node.Hears inbound → Routed s inbound s
  | completed {i : Nat} {c : PostCall} : s.node.Hears inbound → s.calls[i]? = some c →
      c.stage.isRegistered = true → c.mailbox = .empty → inbound.message.AnswerTo c.message →
      Routed s inbound
        { s with
          node := s.node.clearPending
          calls := s.calls.set i { c with mailbox := .answered inbound.message }
          seen := s.seen ++ [.received inbound] ++ [.completed i inbound.message] }
  | handled : s.node.Hears inbound →
      (∀ (i : Nat) (c : PostCall), s.calls[i]? = some c → c.stage.isRegistered = true →
        c.mailbox = .empty → ¬ inbound.message.AnswerTo c.message) →
      Routed s inbound
        { s with
          node := (s.node.handle inbound.message).1
          seen := s.seen ++ [.received inbound] ++
            [.handled inbound.message (s.node.handle inbound.message).2] }

structure Correlated (s₀ : Activity) (actions : List Action) (s : Activity) : Prop where
  single : ∀ (i j : Nat) (c d : PostCall), s.calls[i]? = some c → s.calls[j]? = some d →
    c.stage.isRegistered = true → d.stage.isRegistered = true → i = j
  pending : ∀ p, s.node.pending = some p ↔ ∃ c, s.calls[p.call]? = some c ∧
    c.stage.isRegistered = true ∧ c.mailbox = .empty ∧ c.message = p.request
  first : ∀ (i : Nat) (c : PostCall) (f : Message), s.calls[i]? = some c →
    c.stage = .finished (.ok f) → .connectionEnded i (.ok f) ∉ actions → s₀.FirstFit actions i f
  routed : ∀ inbound, s.Routed inbound (s.receive inbound)

variable {s s' : Activity} {a : Action} {i j : Nat} {c c' : PostCall}

lemma NoneFits.concat {s₀ : Activity} {actions : List Action} (h : s₀.NoneFits actions i)
    (hrun : s₀.run actions = some s) (ha : ∀ inbound, a = .receive inbound → ¬ s.Fits i inbound) :
    s₀.NoneFits (actions ++ [a]) i := by
  intro before inbound after t he ht
  rcases List.eq_nil_or_concat after with rfl | ⟨after, b, rfl⟩
  · obtain ⟨rfl, hb⟩ := List.append_inj' he rfl
    obtain rfl := Option.some.inj (hrun.symm.trans ht)
    exact ha inbound (List.cons.inj hb).1
  · rw [List.concat_eq_append, ← List.cons_append, ← List.append_assoc] at he
    exact h before inbound after t (List.append_inj' he rfl).1 ht

lemma FirstFit.append {s₀ : Activity} {actions : List Action} {f : Message}
    (h : s₀.FirstFit actions i f) (later : List Action) :
    s₀.FirstFit (actions ++ later) i f := by
  obtain ⟨before, inbound, after, t, rfl, hrest⟩ := h
  exact ⟨before, inbound, after ++ later, t, by rw [List.append_assoc, List.cons_append], hrest⟩

structure Tracked (s₀ : Activity) (actions : List Action) (s : Activity) : Prop where
  serialised : s.Serialised
  unanswered : ∀ i, s.mailboxAt i = .empty → s₀.NoneFits actions i
  answered : ∀ i f, s.mailboxAt i = .answered f → s₀.FirstFit actions i f
  result : ∀ (i : Nat) (c : PostCall) f, s.calls[i]? = some c → c.stage = .finished (.ok f) →
    c.mailbox = .answered f ∨ .connectionEnded i (.ok f) ∈ actions

lemma Tracked.callStep {s₀ : Activity} {actions : List Action} (h : Tracked s₀ actions s)
    (hrun : s₀.run actions = some s) (hc : CallStep s a s') : Tracked s₀ (actions ++ [a]) s' where
  serialised := hc.serialised h.serialised
  unanswered i hi := by
    rw [hc.mailboxAt] at hi
    refine (h.unanswered i hi).concat hrun fun inbound ha => ?_
    rw [ha] at hc
    cases hc
  answered i f hf := by
    rw [hc.mailboxAt] at hf
    exact (h.answered i f hf).append [a]
  result i c f hcall hf := by
    rcases hc.result hcall hf with hold | hm | ha
    · exact (h.result i c f hold hf).imp_right (List.mem_append_left _)
    · exact .inl hm
    · exact .inr (List.mem_append_right _ (List.mem_singleton.mpr ha.symm))

lemma Tracked.quiet {s₀ : Activity} {actions : List Action} (h : Tracked s₀ actions s)
    (hrun : s₀.run actions = some s) (hc : s'.calls = s.calls) (ht : s'.turn = s.turn)
    (hp : s'.node.pending = s.node.pending)
    (hn : ∀ inbound, a = .receive inbound → s.node.Hears inbound →
      ∀ p, s.node.pending = some p → ¬ inbound.message.AnswerTo p.request) :
    Tracked s₀ (actions ++ [a]) s' := by
  have hs := h.serialised
  have hm : ∀ i, s'.mailboxAt i = s.mailboxAt i := by
    intro i
    rw [mailboxAt, hc, mailboxAt]
  refine ⟨hs.congr hc ht hp, fun i hi => ?_, fun i f hf => ?_, fun i c f hcall hf => ?_⟩
  · rw [hm] at hi
    refine (h.unanswered i hi).concat hrun fun inbound ha hfit => ?_
    obtain ⟨c, hcall, hr, hans⟩ := hfit.registered
    rw [mailboxAt_eq hcall] at hi
    have hpending : s.node.pending = some ⟨i, c.message⟩ :=
      hs.pending_eq_some_iff.mpr ⟨c, hcall, hr, hi, rfl⟩
    exact hn inbound ha hfit.hears _ hpending hans
  · rw [hm] at hf
    exact (h.answered i f hf).append [a]
  · exact (h.result i c f (hc ▸ hcall) hf).imp_right (List.mem_append_left _)

lemma Tracked.fill {s₀ : Activity} {actions : List Action} {p : Pending} {mailbox : Mailbox}
    (h : Tracked s₀ actions s) (hrun : s₀.run actions = some s) (hp : s.node.pending = some p)
    (hp' : s'.node.pending = none) (ht : s'.turn = s.turn)
    (hc : s'.calls = (s.fill p.call mailbox).calls) (hm : mailbox ≠ .empty)
    (hbox : ∀ f, mailbox = .answered f → s₀.FirstFit (actions ++ [a]) p.call f) :
    Tracked s₀ (actions ++ [a]) s' := by
  have hs := h.serialised
  obtain ⟨c, hcall, hr, hempty, -⟩ := hs.pending_eq_some_iff.mp hp
  have hu := updates_of_fill hcall hempty hc
  have hturn := hs.turn _ c hcall (PostStage.hasTurn_of_isRegistered hr)
  refine ⟨hs.fill hp hp' ht hc hm, fun i hi => ?_, fun i f hf => ?_, fun i d f hd hf => ?_⟩
  · have hne : i ≠ p.call := by
      rintro rfl
      exact hm ((mailboxAt_eq hu.after).symm.trans hi)
    rw [hu.mailboxAt_ne hne] at hi
    refine (h.unanswered i hi).concat hrun fun inbound _ hfit => ?_
    obtain ⟨d, hd, hdr, _⟩ := hfit.registered
    have hi' := hs.turn i d hd (PostStage.hasTurn_of_isRegistered hdr)
    exact hne (Option.some.inj (hi'.symm.trans hturn))
  · by_cases hi : i = p.call
    · rw [hi, mailboxAt_eq hu.after] at hf
      exact hi ▸ hbox f hf
    · rw [hu.mailboxAt_ne hi] at hf
      exact (h.answered i f hf).append [a]
  · by_cases hi : i = p.call
    · obtain rfl := Option.some.inj (hd.symm.trans (hi ▸ hu.after))
      dsimp only at hf
      rw [hf] at hr
      cases hr
    · exact (h.result i d f (hu.others i hi ▸ hd) hf).imp_right (List.mem_append_left _)

lemma Tracked.aside {s₀ : Activity} {actions : List Action} (h : Tracked s₀ actions s)
    (hrun : s₀.run actions = some s) (ha : Aside s a s') : Tracked s₀ (actions ++ [a]) s' := by
  cases ha with
  | quiet hc ht hp hn => exact h.quiet hrun hc ht hp hn
  | @answered inbound p ha hh hp hans hp' ht hc =>
    refine h.fill hrun hp hp' ht hc (by simp) fun f hf => ?_
    obtain ⟨c, hcall, hr, hempty, hreq⟩ := h.serialised.pending_eq_some_iff.mp hp
    have hnone := h.unanswered p.call ((mailboxAt_eq hcall).trans hempty)
    exact ⟨actions, inbound, [], s, by rw [ha], hrun, ⟨hh, c, hcall, hr, hreq ▸ hans⟩,
      Mailbox.answered.inj hf, hnone⟩
  | closed _ hp hp' ht hc => exact h.fill hrun hp hp' ht hc (by simp) (by simp)

lemma tracked_run {node : LocalNode} (hp : node.pending = none) {actions : List Action}
    (h : (idle node).run actions = some s) : Tracked (idle node) actions s := by
  induction actions using List.reverseRecOn generalizing s with
  | nil =>
    obtain rfl := Option.some.inj h
    refine ⟨serialised_idle hp, fun i _ before inbound after t he => ?_, ?_, ?_⟩
    · exact absurd he.symm (List.append_ne_nil_of_right_ne_nil _ (List.cons_ne_nil _ _))
    · intro i f hf
      cases hf
    · intro i c f hc
      cases hc
  | append_singleton actions a ih =>
    obtain ⟨t, ht, hstep⟩ := run_concat h
    rcases aside_or_callStep hstep with hc | ha
    · exact (ih ht).callStep ht hc
    · exact (ih ht).aside ht ha

lemma Serialised.routed (hs : s.Serialised) (inbound : Inbound) :
    s.Routed inbound (s.receive inbound) := by
  have h := s.nodeStep_receive inbound
  generalize s.receive inbound = s' at h
  cases h with
  | dropped hn => exact .dropped hn
  | @completed _ p hh hp ha =>
    obtain ⟨c, hc, hr, hm, hq⟩ := hs.pending_eq_some_iff.mp hp
    have hrouted := Routed.completed hh hc hr hm (hq ▸ ha)
    have hset := set_eq_modify (fun c => if c.mailbox = .empty then
      { c with mailbox := .answered inbound.message } else c) hc
    rw [if_pos hm] at hset
    rw [hset] at hrouted
    exact hrouted
  | handled hh hn =>
    refine .handled hh fun i c hc hr hm => hn ⟨i, c.message⟩ ?_
    exact hs.pending_eq_some_iff.mpr ⟨c, hc, hr, hm, rfl⟩

lemma Tracked.first {s₀ : Activity} {actions : List Action} {f : Message}
    (h : Tracked s₀ actions s) (hc : s.calls[i]? = some c) (hf : c.stage = .finished (.ok f))
    (hn : .connectionEnded i (.ok f) ∉ actions) : s₀.FirstFit actions i f := by
  have hm := (h.result i c f hc hf).resolve_right hn
  exact h.answered i f ((mailboxAt_eq hc).trans hm)

lemma Tracked.correlated {s₀ : Activity} {actions : List Action} (h : Tracked s₀ actions s) :
    s₀.Correlated actions s where
  single i j c d hc hd hcr hdr := by
    have hi := h.serialised.turn i c hc (PostStage.hasTurn_of_isRegistered hcr)
    have hj := h.serialised.turn j d hd (PostStage.hasTurn_of_isRegistered hdr)
    exact Option.some.inj (hi.symm.trans hj)
  pending p := h.serialised.pending_eq_some_iff
  first i c f hc hf hn := h.first hc hf hn
  routed := h.serialised.routed

lemma run_split {before after : List Action} (h : s.run (before ++ after) = some s') :
    ∃ t, s.run before = some t ∧ t.run after = some s' := by
  rw [run_append] at h
  exact Option.bind_eq_some_iff.mp h

lemma FirstFit.tid_eq {s₀ : Activity} {actions : List Action} {f : Message}
    (h : s₀.FirstFit actions i f) (hrun : s₀.run actions = some s) (hc : s.calls[i]? = some c) :
    f.tid = c.message.tid := by
  obtain ⟨before, inbound, after, t, rfl, ht, hfit, rfl, _⟩ := h
  obtain ⟨t', ht', hafter⟩ := run_split hrun
  obtain rfl := Option.some.inj (ht.symm.trans ht')
  obtain ⟨d, hd, hr, ha⟩ := hfit.registered
  have hq : d.stage.isQueued = false := by
    cases hs : d.stage <;> rw [hs] at hr <;> first | rfl | cases hr
  obtain ⟨d', hd', hm⟩ := kept_run hafter hd hq
  obtain rfl := Option.some.inj (hd'.symm.trans hc)
  rw [ha.tid, hm]

/-- However calls, messages, changes of data and searches follow each other on a node, each answer
goes to the call that it answers. Where fewer than 65536 identifiers are issued from one call to
another, the later one never returns a message with the identifier of the earlier one. -/
theorem run_correlated (node : LocalNode) (hp : node.pending = none) (actions : List Action)
    (s : Activity) (h : (idle node).run actions = some s) :
    (idle node).Correlated actions s ∧
    (node.objects.Announce → ∀ before i between j after t,
      actions = before ++ [.takeTurn i] ++ (between ++ [.takeTurn j] ++ after) →
      (idle node).run (before ++ [.takeTurn i]) = some t →
      (t.collect issuedBy (between ++ [.takeTurn j])).length < 65536 →
      ∀ c d f, s.calls[i]? = some c → s.calls[j]? = some d → d.stage = .finished (.ok f) →
        .connectionEnded j (.ok f) ∉ actions → f.tid ≠ c.message.tid) := by
  have tracked := tracked_run hp h
  refine ⟨tracked.correlated, ?_⟩
  intro ha before i between j after t hactions ht hlt c d f hc hd hf hn
  have hftid : f.tid = d.message.tid := (tracked.first hd hf hn).tid_eq h hd
  rw [hactions] at h
  obtain ⟨t', ht', hrest⟩ := run_split h
  obtain rfl := Option.some.inj (ht.symm.trans ht')
  obtain ⟨v, hv, hafter⟩ := run_split hrest
  obtain ⟨r, -, hi⟩ := run_concat ht
  obtain ⟨u, hu, hj⟩ := run_concat hv
  obtain ⟨c₁, hc₁, hcq, hct⟩ := tid_takeTurn hi
  obtain ⟨d₁, hd₁, hdq, hdt⟩ := tid_takeTurn hj
  obtain ⟨c', hc', hcm⟩ := kept_run hrest hc₁ hcq
  obtain ⟨d', hd', hdm⟩ := kept_run hafter hd₁ hdq
  obtain rfl := Option.some.inj (hc.symm.trans hc')
  obtain rfl := Option.some.inj (hd.symm.trans hd')
  have hta : t.node.objects.Announce := announce_run ha ht
  have hne := lastTid_ne hta hu hj hlt
  rw [hftid, hdm, hcm, hct, hdt]
  exact hne

def runningLampNode : LocalNode :=
  { LocalNode.lampNode with
    phase := .running
    transport := some { settings := {}, unicast := [⟨{ address := .localhost }, 3610⟩] }
    outbox := { running := true } }

def lampOn (tid : UInt16) : Message :=
  { tid, seoj := ⟨0x02, 0x90, 0x02⟩, deoj := .controller, esv := .getRes,
    entries := [⟨Epc.operationStatus, [Object.statusOn]⟩] }

def asks (call : Nat) : List Action :=
  [.post (.readRequest .controller ⟨0x02, 0x90, 0x02⟩ [Epc.operationStatus])
      (.ofIpv4 .localhost 3611),
    .takeTurn call, .datagramSent call (.ok 14)]

def hears (tid : UInt16) : Action :=
  .receive ⟨lampOn tid, .ofIpv4 .localhost 3611, .datagram⟩

theorem run_correlated_lampOn :
    ∃ s d, (idle runningLampNode).run (asks 0 ++ [hears 1, .resume 0] ++ asks 1 ++
        [hears 1, hears 2, .resume 1]) = some s ∧
      s.calls[1]? = some d ∧ d.stage = .finished (.ok (lampOn 2)) ∧
      (idle runningLampNode).FirstFit (asks 0 ++ [hears 1, .resume 0] ++ asks 1 ++
        [hears 1, hears 2, .resume 1]) 1 (lampOn 2) ∧
      ∃ c, s.calls[0]? = some c ∧ (lampOn 2).tid ≠ c.message.tid := by
  obtain ⟨s, c, d, hs, hc, hd, hf⟩ : ∃ s c d, (idle runningLampNode).run
      (asks 0 ++ [hears 1, .resume 0] ++ asks 1 ++ [hears 1, hears 2, .resume 1]) = some s ∧
      s.calls[0]? = some c ∧ s.calls[1]? = some d ∧ d.stage = .finished (.ok (lampOn 2)) :=
    ⟨_, _, _, rfl, rfl, rfl, rfl⟩
  obtain ⟨t, ht, hlength⟩ : ∃ t, (idle runningLampNode).run ((asks 0).take 1 ++ [.takeTurn 0]) =
      some t ∧ (t.collect issuedBy ((asks 0).drop 2 ++ [hears 1, .resume 0] ++ (asks 1).take 1 ++
        [.takeTurn 1])).length = 1 := ⟨_, rfl, rfl⟩
  have hn : .connectionEnded 1 (.ok (lampOn 2)) ∉ asks 0 ++ [hears 1, .resume 0] ++ asks 1 ++
      [hears 1, hears 2, .resume 1] := by
    simp [asks, hears]
  obtain ⟨hcorrelated, hdistinct⟩ := run_correlated runningLampNode rfl _ s hs
  refine ⟨s, d, hs, hd, hf, hcorrelated.first 1 d _ hd hf hn, c, hc, ?_⟩
  exact hdistinct LocalNode.announce_lampNode ((asks 0).take 1) 0
    ((asks 0).drop 2 ++ [hears 1, .resume 0] ++ (asks 1).take 1) 1
    ((asks 1).drop 2 ++ [hears 1, hears 2, .resume 1]) t rfl ht (by rw [hlength]; decide) c d _
    hc hd hf hn

end EchonetLite.Activity
