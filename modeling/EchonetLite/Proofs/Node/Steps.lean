import EchonetLite.Node.Activity
import EchonetLite.Proofs.Node.Announcements

/-! What each action does to a node and to the calls on it. The actions come in three kinds: those
of calls that post requests, those of calls that start and stop the node, and what happens to the
node besides. -/

namespace EchonetLite

structure Message.AnswerTo (m request : Message) : Prop where
  notRequest : m.esv.isRequest = false
  tid : m.tid = request.tid
  ne : m ≠ request

lemma Message.answerTo_iff {m request : Message} :
    (!m.esv.isRequest && m.answers request) = true ↔ m.AnswerTo request := by
  rw [Bool.and_eq_true, Bool.not_eq_true', answers, Bool.and_eq_true, beq_iff_eq, bne_iff_ne]
  exact ⟨fun ⟨hr, ht, hn⟩ => ⟨hr, ht, hn⟩, fun ⟨hr, ht, hn⟩ => ⟨hr, ht, hn⟩⟩

def LocalNode.Hears (n : LocalNode) (inbound : Inbound) : Prop :=
  ∃ t, n.transport = some t ∧ (t.settings.acceptOwn = true ∨ t.isOwn inbound.source = false)

inductive LocalNode.Processes (n : LocalNode) (inbound : Inbound) : Processed → Prop
  | dropped : ¬ n.Hears inbound → Processes n inbound { node := n }
  | completed {p : Pending} : n.Hears inbound → n.pending = some p →
      inbound.message.AnswerTo p.request → Processes n inbound
        { node := n.clearPending, delivered := true, completed := some p.call }
  | handled : n.Hears inbound → (∀ p, n.pending = some p → ¬ inbound.message.AnswerTo p.request) →
      Processes n inbound
        { node := (n.handle inbound.message).1, delivered := true
          reaction := (n.handle inbound.message).2 }

lemma LocalNode.processes (n : LocalNode) (inbound : Inbound) :
    n.Processes inbound (n.process inbound) := by
  rw [process]
  split
  case h_1 ht => exact .dropped fun ⟨t, h, _⟩ => nomatch ht.symm.trans h
  case h_2 t ht =>
    split
    case isTrue hown =>
      rw [Bool.and_eq_true, Bool.not_eq_true'] at hown
      refine .dropped fun ⟨t', ht', h⟩ => ?_
      obtain rfl := Option.some.inj (ht.symm.trans ht')
      rw [hown.1, hown.2] at h
      simp at h
    case isFalse hown =>
      have hears : n.Hears inbound := by
        refine ⟨t, ht, ?_⟩
        rw [Bool.and_eq_true, Bool.not_eq_true', not_and_or, Bool.not_eq_false,
          Bool.not_eq_true] at hown
        exact hown
      dsimp only
      split
      case h_1 hw =>
        obtain ⟨hp, ha⟩ := Option.filter_eq_some_iff.mp hw
        exact .completed hears hp (Message.answerTo_iff.mp ha)
      case h_2 hw =>
        refine .handled hears fun p hp ha => ?_
        exact Option.filter_eq_none_iff.mp hw p hp (Message.answerTo_iff.mpr ha)

lemma PostStage.eq_queued {stage : PostStage} (h : stage.isQueued = true) : stage = .queued := by
  cases stage <;> first | rfl | cases h

def PostCall.sendResult (c : PostCall) (outcome : Except IoFault Nat) : Except Error Unit :=
  (c.transport.datagram c.message c.destination).bind fun d => Transport.sendOutcome d outcome

namespace Activity

def assign (s : Activity) (call : Nat) (m : Message) : Activity :=
  { s with
    node := (s.node.takeTurn m).2
    turn := some call
    calls := s.calls.modify call fun c => { c with message := (s.node.takeTurn m).1 } }

inductive CallStep (s : Activity) : Action → Activity → Prop
  | refused {m : Message} {destination : Endpoint} {e : Error} : s.node.openTransport = .error e →
      CallStep s (.post m destination) (s.observe (.refused m e))
  | joined {m : Message} {destination : Endpoint} {transport : Transport} :
      s.node.openTransport = .ok transport → CallStep s (.post m destination)
        { s with calls := s.calls ++ [{ message := m, destination, transport }] }
  | connecting {i : Nat} {c : PostCall} : s.turn = none → s.calls[i]? = some c →
      c.stage = .queued → c.transport.settings.tcp = true →
      CallStep s (.takeTurn i) ((s.assign i c.message).setStage i .connecting)
  | registered {i : Nat} {c : PostCall} : s.turn = none → s.calls[i]? = some c →
      c.stage = .queued → c.transport.settings.tcp = false →
      CallStep s (.takeTurn i)
        ((s.assign i c.message).register i (s.node.takeTurn c.message).1)
  | connected {i : Nat} {c : PostCall} {answer : Message} : s.calls[i]? = some c →
      c.stage = .connecting → CallStep s (.connectionEnded i (.ok answer))
        ((s.observe (.requestConnected i c.message)).finish i (.ok answer))
  | fellBack {i : Nat} {c : PostCall} {e : Error} : s.calls[i]? = some c → c.stage = .connecting →
      CallStep s (.connectionEnded i (.error e)) (s.register i c.message)
  | unsent {i : Nat} {c : PostCall} {outcome : Except IoFault Nat} {e : Error} :
      s.calls[i]? = some c → c.stage = .sending → c.sendResult outcome = .error e →
      CallStep s (.datagramSent i outcome) (s.finishRegistered i (.error e))
  | sent {i : Nat} {c : PostCall} {outcome : Except IoFault Nat} : s.calls[i]? = some c →
      c.stage = .sending → c.sendResult outcome = .ok () → CallStep s (.datagramSent i outcome)
        ((s.observe (.requestSent i c.message)).setStage i .waiting)
  | expired {i : Nat} {c : PostCall} : s.calls[i]? = some c → c.stage = .waiting →
      c.mailbox = .empty → CallStep s (.expire i)
        (s.finishRegistered i (.error (.timeout s.node.settings.requestTimeout)))
  | answered {i : Nat} {c : PostCall} {m : Message} : s.calls[i]? = some c → c.stage = .waiting →
      c.mailbox = .answered m → CallStep s (.resume i) (s.finishRegistered i (.ok m))
  | givenUp {i : Nat} {c : PostCall} : s.calls[i]? = some c → c.stage = .waiting →
      c.mailbox = .closed → CallStep s (.resume i)
        (s.finishRegistered i (.error (.phase .stoppedWhileWaiting)))

inductive LifecycleStep (s : Activity) : Action → Activity → Prop
  | startRefused {e : Error} : s.node.beginStart = .error e →
      LifecycleStep s .start (s.addLifecycle (.returned (.error e)))
  | startBegun : s.node.settings.check = .ok () → s.node.phase = .stopped →
      LifecycleStep s .start
        ({ s with node := { s.node with phase := .starting } }.addLifecycle .opening)
  | openingFailed {i : Nat} {e : Error} : s.lifecycle[i]? = some .opening →
      LifecycleStep s (.opened i (.error e))
        ({ s with node := s.node.failStart }.setLifecycle i (.returned (.error e)))
  | opened {i : Nat} {t : Transport} : s.lifecycle[i]? = some .opening →
      LifecycleStep s (.opened i (.ok t))
        ({ s with node := (s.node.completeStart t).2, announcer := some t }.setLifecycle i
          (.announcing (s.node.completeStart t).1))
  | started {i : Nat} {m : Message} : s.lifecycle[i]? = some (.announcing m) →
      LifecycleStep s (.startAnnounced i)
        ((s.observe (.announced m)).setLifecycle i (.returned (.ok ())))
  | stopRefused {e : Error} : s.node.beginStop = .error e →
      LifecycleStep s .stop (s.addLifecycle (.returned (.error e)))
  | stopIdle : s.node.phase = .stopped →
      LifecycleStep s .stop (s.addLifecycle (.returned (.ok ())))
  | stopBegun : s.node.phase = .running → LifecycleStep s .stop
      ({ s with node :=
          { s.node with
            phase := .stopping
            transport := none
            outbox := { s.node.outbox with running := false } } }.addLifecycle .closing)
  | closed {i : Nat} {calls : List PostCall} : s.lifecycle[i]? = some .closing →
      calls = (s.node.pending.elim s fun p => s.fill p.call .closed).calls →
      LifecycleStep s (.closed i)
        ({ s with node := s.node.dropPending, calls, announcer := none }.setLifecycle i .discarding)
  | stopped {i : Nat} : s.lifecycle[i]? = some .discarding →
      LifecycleStep s (.discarded i)
        ({ s with node := s.node.finishStop }.setLifecycle i (.returned (.ok ())))

inductive NodeStep (s : Activity) : Action → Activity → Prop
  | dropped {inbound : Inbound} : ¬ s.node.Hears inbound → NodeStep s (.receive inbound) s
  | completed {inbound : Inbound} {p : Pending} : s.node.Hears inbound →
      s.node.pending = some p → inbound.message.AnswerTo p.request →
      NodeStep s (.receive inbound)
        ((({ s with node := s.node.clearPending }.observe (.received inbound)).fill p.call
          (.answered inbound.message)).observe (.completed p.call inbound.message))
  | handled {inbound : Inbound} : s.node.Hears inbound →
      (∀ p, s.node.pending = some p → ¬ inbound.message.AnswerTo p.request) →
      NodeStep s (.receive inbound)
        (({ s with node := (s.node.handle inbound.message).1 }.observe (.received inbound)).observe
          (.handled inbound.message (s.node.handle inbound.message).2))
  | written {object : ObjectCode} {epc : UInt8} {data : Bytes} :
      NodeStep s (.write object epc data) { s with node := (s.node.setData object epc data).2 }
  | issued : NodeStep s .issueTid { s with node := s.node.issueTid }
  | announced {t : Transport} {m : Message} {queue : List Message} : s.announcer = some t →
      s.node.outbox.queue = m :: queue → NodeStep s .announce
        ({ s with node := { s.node with outbox := { s.node.outbox with queue } } }.observe
          (.announced m))

variable {s s' : Activity} {a : Action}

lemma callStep_giveTurn {i : Nat} (h : s.giveTurn i = some s') : CallStep s (.takeTurn i) s' := by
  rw [giveTurn] at h
  split at h
  case h_1 c hturn hcall =>
    split at h
    case isTrue hq =>
      have hc : c.stage = .queued := by
        obtain ⟨hi, hs, _⟩ := List.findIdx?_eq_some_iff_getElem.mp hq
        rw [List.getElem?_eq_getElem hi] at hcall
        rw [Option.some.inj hcall] at hs
        exact PostStage.eq_queued hs
      dsimp only at h
      split at h
      case isTrue ht =>
        obtain rfl := Option.some.inj h
        exact .connecting hturn hcall hc ht
      case isFalse ht =>
        obtain rfl := Option.some.inj h
        exact .registered hturn hcall hc (Bool.eq_false_iff.mpr ht)
    case isFalse => cases h
  case h_2 => cases h

lemma callStep_endConnection {i : Nat} {result : Except Error Message}
    (h : s.endConnection i result = some s') : CallStep s (.connectionEnded i result) s' := by
  rw [endConnection] at h
  split at h
  case h_1 hc =>
    split at h
    case h_1 =>
      obtain rfl := Option.some.inj h
      exact .connected hc rfl
    case h_2 =>
      obtain rfl := Option.some.inj h
      exact .fellBack hc rfl
  case h_2 => cases h

lemma callStep_endSending {i : Nat} {outcome : Except IoFault Nat}
    (h : s.endSending i outcome = some s') : CallStep s (.datagramSent i outcome) s' := by
  rw [endSending] at h
  split at h
  case h_1 hc =>
    split at h
    case h_1 hd =>
      obtain rfl := Option.some.inj h
      exact .unsent hc rfl (by rw [PostCall.sendResult, hd]; rfl)
    case h_2 hd =>
      split at h
      case h_1 ho =>
        obtain rfl := Option.some.inj h
        exact .unsent hc rfl (by rw [PostCall.sendResult, hd]; exact ho)
      case h_2 ho =>
        obtain rfl := Option.some.inj h
        exact .sent hc rfl (by rw [PostCall.sendResult, hd]; exact ho)
  case h_2 => cases h

lemma callStep_resume {i : Nat} (h : s.resume i = some s') : CallStep s (.resume i) s' := by
  rw [resume] at h
  split at h
  case h_1 hc =>
    obtain rfl := Option.some.inj h
    exact .answered hc rfl rfl
  case h_2 hc =>
    obtain rfl := Option.some.inj h
    exact .givenUp hc rfl rfl
  case h_3 => cases h

lemma lifecycleStep_beginStart (s : Activity) : LifecycleStep s .start s.beginStart := by
  rw [beginStart]
  split
  case h_1 he => exact .startRefused he
  case h_2 hs =>
    rw [LocalNode.beginStart] at hs
    split at hs
    case h_1 => cases hs
    case h_2 hc =>
      split at hs
      case isTrue hp =>
        obtain rfl := Except.ok.inj hs
        exact .startBegun hc hp
      case isFalse => cases hs

lemma lifecycleStep_beginStop (s : Activity) : LifecycleStep s .stop s.beginStop := by
  rw [beginStop]
  split
  case h_1 he => exact .stopRefused he
  case h_2 hs =>
    rw [LocalNode.beginStop] at hs
    split at hs
    case h_1 hp => exact .stopIdle hp
    case h_2 => cases hs
    case h_3 => cases hs
  case h_3 hs =>
    rw [LocalNode.beginStop] at hs
    split at hs
    case h_1 => cases hs
    case h_2 hp =>
      obtain rfl := Option.some.inj (Except.ok.inj hs)
      exact .stopBegun hp
    case h_3 => cases hs

lemma lifecycleStep_endOpening {i : Nat} {result : Except Error Transport}
    (h : s.endOpening i result = some s') : LifecycleStep s (.opened i result) s' := by
  simp only [endOpening] at h
  split at h
  case h_1 hl =>
    split at h
    case h_1 =>
      obtain rfl := Option.some.inj h
      exact .openingFailed hl
    case h_2 =>
      obtain rfl := Option.some.inj h
      exact .opened hl
  case h_2 => cases h

lemma lifecycleStep_endClosing {i : Nat} (h : s.endClosing i = some s') :
    LifecycleStep s (.closed i) s' := by
  rw [endClosing] at h
  split at h
  case h_1 hl =>
    have hc := LifecycleStep.closed hl rfl
    cases hp : s.node.pending with
    | none =>
      rw [hp] at h hc
      obtain rfl := Option.some.inj h
      exact hc
    | some p =>
      rw [hp] at h hc
      obtain rfl := Option.some.inj h
      exact hc
  case h_2 => cases h

lemma nodeStep_receive (s : Activity) (inbound : Inbound) :
    NodeStep s (.receive inbound) (s.receive inbound) := by
  have h := s.node.processes inbound
  rw [receive]
  generalize s.node.process inbound = processed at h
  cases h with
  | dropped hn => exact .dropped hn
  | completed hh hp ha => exact .completed hh hp ha
  | handled hh hn => exact .handled hh hn

lemma step_cases (h : s.step a = some s') :
    CallStep s a s' ∨ LifecycleStep s a s' ∨ NodeStep s a s' := by
  cases a with
  | post m destination =>
    obtain rfl := Option.some.inj h
    left
    rw [beginPost]
    split
    case h_1 he => exact .refused he
    case h_2 ht => exact .joined ht
  | takeTurn i => exact .inl (callStep_giveTurn h)
  | connectionEnded i result => exact .inl (callStep_endConnection h)
  | datagramSent i outcome => exact .inl (callStep_endSending h)
  | expire i =>
    rw [step, expire] at h
    split at h
    case h_1 hc =>
      obtain rfl := Option.some.inj h
      exact .inl (.expired hc rfl rfl)
    case h_2 => cases h
  | resume i => exact .inl (callStep_resume h)
  | receive inbound =>
    obtain rfl := Option.some.inj h
    exact .inr (.inr (s.nodeStep_receive inbound))
  | write object epc data =>
    obtain rfl := Option.some.inj h
    exact .inr (.inr .written)
  | issueTid =>
    obtain rfl := Option.some.inj h
    exact .inr (.inr .issued)
  | announce =>
    rw [step, announce] at h
    split at h
    case h_1 ht hq =>
      obtain rfl := Option.some.inj h
      exact .inr (.inr (.announced ht hq))
    case h_2 => cases h
  | start =>
    obtain rfl := Option.some.inj h
    exact .inr (.inl s.lifecycleStep_beginStart)
  | opened i result => exact .inr (.inl (lifecycleStep_endOpening h))
  | startAnnounced i =>
    rw [step, endStart] at h
    split at h
    case h_1 hl =>
      obtain rfl := Option.some.inj h
      exact .inr (.inl (.started hl))
    case h_2 => cases h
  | stop =>
    obtain rfl := Option.some.inj h
    exact .inr (.inl s.lifecycleStep_beginStop)
  | closed i => exact .inr (.inl (lifecycleStep_endClosing h))
  | discarded i =>
    rw [step, endStop] at h
    split at h
    case h_1 hl =>
      obtain rfl := Option.some.inj h
      exact .inr (.inl (.stopped hl))
    case h_2 => cases h

lemma CallStep.frame (h : CallStep s a s') : s'.lifecycle = s.lifecycle ∧ ∃ pending counter,
    s'.node = { s.node with pending, outbox := { s.node.outbox with counter } } := by
  cases h <;> exact ⟨rfl, _, _, rfl⟩

structure Undisturbed (s s' : Activity) : Prop where
  lifecycle : s'.lifecycle = s.lifecycle
  phase : s'.node.phase = s.node.phase
  settings : s'.node.settings = s.node.settings
  transport : s'.node.transport = s.node.transport
  listeners : s'.node.objects.listeners = s.node.objects.listeners
  running : s'.node.outbox.running = s.node.outbox.running
  queue : s.node.outbox.running = false → s.node.outbox.queue = [] → s'.node.outbox.queue = []

lemma CallStep.undisturbed (h : CallStep s a s') : Undisturbed s s' := by
  obtain ⟨hl, pending, counter, hn⟩ := h.frame
  exact ⟨hl, by rw [hn], by rw [hn], by rw [hn], by rw [hn], by rw [hn], fun _ hq => by rw [hn, hq]⟩

lemma undisturbed_of_worked {node : LocalNode} (hw : s.node.Worked node) (seen : List Observation) :
    Undisturbed s { s with node, seen } where
  lifecycle := rfl
  phase := hw.phase
  settings := hw.settings
  transport := hw.transport
  listeners := hw.listeners
  running := hw.outbox.grows.1
  queue hr hq := by
    obtain ⟨-, more, hm, -, hn⟩ := hw.outbox.grows
    rw [hm, hq, hn hr, List.append_nil]

lemma NodeStep.undisturbed (ha : s.node.objects.Announce) (h : NodeStep s a s') :
    Undisturbed s s' := by
  cases h with
  | dropped => exact ⟨rfl, rfl, rfl, rfl, rfl, rfl, fun _ hq => hq⟩
  | completed => exact ⟨rfl, rfl, rfl, rfl, rfl, rfl, fun _ hq => hq⟩
  | handled => exact undisturbed_of_worked (LocalNode.worked_handle ha _) _
  | written => exact undisturbed_of_worked (s.node.worked_setData _ _ _) _
  | issued => exact ⟨rfl, rfl, rfl, rfl, rfl, rfl, fun _ hq => hq⟩
  | announced _ hm => exact ⟨rfl, rfl, rfl, rfl, rfl, rfl, fun _ hq => nomatch hm.symm.trans hq⟩

lemma listeners_step (ha : s.node.objects.Announce) (h : s.step a = some s') :
    s'.node.objects.listeners = s.node.objects.listeners := by
  rcases step_cases h with h | h | h
  · exact h.undisturbed.listeners
  · cases h <;> rfl
  · exact (h.undisturbed ha).listeners

lemma run_append (s : Activity) (before after : List Action) :
    s.run (before ++ after) = (s.run before).bind fun t => t.run after := by
  induction before generalizing s with
  | nil => rfl
  | cons a before ih =>
    rw [List.cons_append, run, run]
    cases s.step a with
    | none => rfl
    | some t => exact ih t

lemma run_cons (h : s.step a = some s') (later : List Action) :
    s.run (a :: later) = s'.run later := by
  rw [run, h]
  rfl

lemma run_trans {t : Activity} {before after : List Action} (h : s.run before = some s')
    (h' : s'.run after = some t) : s.run (before ++ after) = some t := by
  rw [run_append, h]
  exact h'

lemma run_concat {actions : List Action} (h : s.run (actions ++ [a]) = some s') :
    ∃ t, s.run actions = some t ∧ t.step a = some s' := by
  rw [run_append] at h
  obtain ⟨t, ht, ha⟩ := Option.bind_eq_some_iff.mp h
  refine ⟨t, ht, ?_⟩
  rw [run] at ha
  obtain ⟨u, hu, he⟩ := Option.bind_eq_some_iff.mp ha
  obtain rfl := Option.some.inj he
  exact hu

lemma run_preserves {P : Activity → Prop}
    (hstep : ∀ s a s', P s → s.step a = some s' → P s') {actions : List Action} (hs : P s)
    (h : s.run actions = some s') : P s' := by
  induction actions generalizing s with
  | nil =>
    obtain rfl := Option.some.inj h
    exact hs
  | cons a actions ih =>
    obtain ⟨t, ht, hrun⟩ := Option.bind_eq_some_iff.mp h
    exact ih (hstep s a t hs ht) hrun

def collect {α : Type} (f : Activity → Action → Activity → List α) (s : Activity) :
    List Action → List α
  | [] => []
  | a :: rest =>
    match s.step a with
    | some s' => f s a s' ++ s'.collect f rest
    | none => []

def queuedBy (s : Activity) (_ : Action) (s' : Activity) : List Message :=
  s'.node.outbox.queue.drop s.node.outbox.queue.length

lemma queuedBy_eq {more : List Message}
    (h : s'.node.outbox.queue = s.node.outbox.queue ++ more) : queuedBy s a s' = more := by
  rw [queuedBy, h, List.drop_left]

end Activity

end EchonetLite
