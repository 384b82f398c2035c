import EchonetLite.Proofs.Node.Steps

/-! Starting and stopping a node when calls overlap. The phase of the node says which call is at
work on it, so there is one at most; sockets, the mark that the node runs and the queue of
announcements go with the phase. A start that has set the node running is not at work on it any
more, though it returns only when its notification is sent: a stop may come before that. -/

namespace EchonetLite

/-- The phase in which a call keeps the node that is at work on it: a start from its first step
until the node runs or the start has failed, a stop from its first step until it returns. What is
left of a start once the node runs is to send the notification. -/
def LifecycleStage.phase? : LifecycleStage → Option Phase
  | .opening => some .starting
  | .announcing _ => none
  | .closing => some .stopping
  | .discarding => some .stopping
  | .returned _ => none

def LifecycleStage.isReturned : LifecycleStage → Bool
  | .returned _ => true
  | _ => false

lemma LifecycleStage.exists_announcing {stage : LifecycleStage} (hp : stage.phase? = none)
    (hr : stage.isReturned = false) : ∃ m, stage = .announcing m := by
  cases stage with
  | announcing m => exact ⟨m, rfl⟩
  | returned => cases hr
  | opening | closing | discarding => cases hp

lemma LifecycleStage.filterMap_singleton (stage : LifecycleStage) :
    [stage].filterMap phase? = stage.phase?.toList := by
  cases stage <;> rfl

def Phase.transitional : Phase → List Phase
  | .stopped => []
  | .starting => [.starting]
  | .running => []
  | .stopping => [.stopping]

lemma Phase.eq_of_transitional {p q : Phase} {before after : List Phase}
    (h : before ++ q :: after = p.transitional) : p = q ∧ before = [] ∧ after = [] := by
  have hl := congrArg List.length h
  cases p with
  | stopped | running => exact absurd h (List.append_ne_nil_of_right_ne_nil _ (List.cons_ne_nil _ _))
  | starting | stopping =>
    obtain rfl : before = [] := by
      rw [← List.length_eq_zero_iff]
      simp only [transitional, List.length_append, List.length_cons, List.length_nil] at hl
      omega
    obtain ⟨rfl, rfl⟩ := List.cons.inj h
    exact ⟨rfl, rfl, rfl⟩

structure LocalNode.AtRest (n : LocalNode) : Prop where
  phase : n.phase = .stopped
  transport : n.transport = none
  running : n.outbox.running = false
  queue : n.outbox.queue = []

namespace LocalNode

variable {n : LocalNode}

lemma atRest_new (settings : NodeSettings) (serial : Serial) (firstTid : UInt16) :
    (new settings serial firstTid).AtRest :=
  ⟨rfl, rfl, rfl, rfl⟩

lemma AtRest.add (hn : n.AtRest) (a : Addition) : (n.add a).AtRest := by
  have ha := n.added a
  rw [LocalNode.add]
  generalize n.add? a = r at ha
  cases ha with
  | device | profile => exact ⟨hn.phase, hn.transport, hn.running, hn.queue⟩
  | refused => exact hn

end LocalNode

namespace Activity

def busy (s : Activity) : List Phase := s.lifecycle.filterMap LifecycleStage.phase?

def inProgress (s : Activity) : List LifecycleStage := s.lifecycle.filter (!·.isReturned)

def Returns (s : Activity) (a : Action) (result : Except Error Unit) : Prop :=
  s.step a = some (s.addLifecycle (.returned result))

def sentBy (s : Activity) (a : Action) (s' : Activity) : List Message :=
  match a with
  | .announce => (s'.seen.drop s.seen.length).filterMap fun
      | .announced m => some m
      | _ => none
  | _ => []

structure Orderly (s : Activity) : Prop where
  single : s.busy.length ≤ 1
  notifying : ∀ stage ∈ s.inProgress, stage.phase? = none → ∃ m, stage = .announcing m
  returned : s.inProgress = [] → s.busy = []
  overlapping : s.busy ≠ [] →
    s.Returns .start (.error (.phase (.cannotStart s.node.phase))) ∧
      s.Returns .stop (.error (.phase (.cannotStop s.node.phase)))
  transport : s.node.isRunning = true → s.node.transport.isSome = true
  settled : s.busy = [] → (s.node.phase = .stopped ∨ s.node.phase = .running) ∧
    (s.node.isRunning = true ↔ s.node.phase = .running) ∧
      (s.node.transport.isSome = true ↔ s.node.phase = .running)
  startInvalid : ∀ e, s.node.settings.check = .error e →
    s.node.phase = .stopped ∧ s.node.transport = none ∧ s.Returns .start (.error e)
  startFailed : ∀ i e s', s.step (.opened i (.error e)) = some s' →
    s'.node = { s.node with phase := .stopped } ∧ s'.node.transport = none ∧
      s'.lifecycle[i]? = some (.returned (.error e))
  startRunning : s.node.phase = .running →
    s.Returns .start (.error (.phase (.cannotStart .running)))
  startNotified : ∀ i s', s.step (.startAnnounced i) = some s' →
    s'.node = s.node ∧ s'.busy = s.busy ∧ s'.lifecycle[i]? = some (.returned (.ok ()))
  stopStopped : s.node.phase = .stopped → s.Returns .stop (.ok ())
  stopRunning : s.node.phase = .running → ∃ s', s.step .stop = some s' ∧
    s'.node.phase = .stopping ∧ s'.node.isRunning = false ∧ s'.node.transport = none ∧
      s'.busy = [.stopping]
  stopReturned : ∀ i s', s.step (.discarded i) = some s' →
    s'.node.phase = .stopped ∧ s'.node.outbox.queue = [] ∧
      s'.lifecycle[i]? = some (.returned (.ok ()))

structure Phased (s : Activity) : Prop where
  busy : s.busy = s.node.phase.transitional
  running : s.node.outbox.running = decide (s.node.phase = .running)
  transport : s.node.transport.isSome = decide (s.node.phase = .running)
  queue : s.node.phase = .stopped ∨ s.node.phase = .starting → s.node.outbox.queue = []
  check : s.node.phase ≠ .stopped → s.node.settings.check = .ok ()
  listeners : s.node.objects.Announce

variable {s s' : Activity} {a : Action} {i : Nat} {stage : LifecycleStage} {p : Phase}

lemma busy_addLifecycle (s : Activity) (stage : LifecycleStage) :
    (s.addLifecycle stage).busy = s.busy ++ stage.phase?.toList := by
  rw [busy, addLifecycle, List.filterMap_append, ← LifecycleStage.filterMap_singleton]
  rfl

lemma busy_eq_nil (h : s.inProgress = []) : s.busy = [] := by
  rw [busy, List.filterMap_eq_nil_iff]
  intro stage hm
  have hr := List.filter_eq_nil_iff.mp h stage hm
  cases stage with
  | returned => rfl
  | announcing | opening | closing | discarding => exact absurd rfl hr

lemma exists_busy (h : s.lifecycle[i]? = some stage) : ∃ before after,
    s.busy = before ++ stage.phase?.toList ++ after ∧
      ∀ stage', (s.lifecycle.set i stage').filterMap LifecycleStage.phase? =
        before ++ stage'.phase?.toList ++ after := by
  obtain ⟨hi, hs⟩ := List.getElem?_eq_some_iff.mp h
  refine ⟨(s.lifecycle.take i).filterMap LifecycleStage.phase?,
    (s.lifecycle.drop (i + 1)).filterMap LifecycleStage.phase?, ?_, fun stage' => ?_⟩
  · rw [← LifecycleStage.filterMap_singleton, ← List.filterMap_append, ← List.filterMap_append,
      List.append_assoc, ← hs, List.singleton_append, ← List.drop_eq_getElem_cons hi,
      List.take_append_drop]
    rfl
  · rw [List.set_eq_take_append_cons_drop, if_pos hi, ← LifecycleStage.filterMap_singleton,
      ← List.filterMap_append, ← List.filterMap_append, List.append_assoc, List.singleton_append]

lemma Phased.alone (hs : s.Phased) (h : s.lifecycle[i]? = some stage) (hp : stage.phase? = some p) :
    s.node.phase = p ∧ ∀ stage', (s.lifecycle.set i stage').filterMap LifecycleStage.phase? =
      stage'.phase?.toList := by
  obtain ⟨before, after, hb, hset⟩ := exists_busy h
  rw [hp, Option.toList_some, hs.busy, List.append_assoc] at hb
  obtain ⟨rfl, rfl, rfl⟩ := Phase.eq_of_transitional hb.symm
  refine ⟨rfl, fun stage' => ?_⟩
  rw [hset, List.nil_append, List.append_nil]

lemma Phased.undisturbed (hs : s.Phased) (h : Undisturbed s s') : s'.Phased where
  busy := by rw [Activity.busy, h.lifecycle, h.phase, ← hs.busy, Activity.busy]
  running := by rw [h.running, h.phase, hs.running]
  transport := by rw [h.transport, h.phase, hs.transport]
  queue hp := by
    rw [h.phase] at hp
    refine h.queue ?_ (hs.queue hp)
    rw [hs.running]
    rcases hp with hp | hp <;> rw [hp] <;> rfl
  check hp := by
    rw [h.phase] at hp
    rw [h.settings]
    exact hs.check hp
  listeners l hl := hs.listeners l (h.listeners ▸ hl)

lemma Phased.lifecycleStep (hs : s.Phased) (h : LifecycleStep s a s') : s'.Phased := by
  cases h with
  | startRefused | stopRefused | stopIdle =>
    refine ⟨?_, hs.running, hs.transport, hs.queue, hs.check, hs.listeners⟩
    rw [busy_addLifecycle]
    exact (List.append_nil _).trans hs.busy
  | startBegun hc hp =>
    have hr := hs.running
    have ht := hs.transport
    rw [hp] at hr ht
    refine ⟨?_, hr, ht, fun _ => hs.queue (.inl hp), fun _ => hc, hs.listeners⟩
    rw [busy_addLifecycle]
    exact congrArg (· ++ [Phase.starting]) (hs.busy.trans (congrArg Phase.transitional hp))
  | openingFailed hl =>
    obtain ⟨hp, hb⟩ := hs.alone hl rfl
    have hr := hs.running
    have ht := hs.transport
    rw [hp] at hr ht
    exact ⟨hb _, hr, ht, fun _ => hs.queue (.inr hp), fun h => absurd rfl h, hs.listeners⟩
  | opened hl =>
    obtain ⟨hp, hb⟩ := hs.alone hl rfl
    refine ⟨hb _, rfl, rfl, fun h => h.elim nofun nofun, fun _ => ?_, hs.listeners⟩
    exact hs.check (by rw [hp]; decide)
  | started hl =>
    obtain ⟨before, after, hb, hset⟩ := exists_busy hl
    exact ⟨(hset _).trans (hb.symm.trans hs.busy), hs.running, hs.transport, hs.queue, hs.check,
      hs.listeners⟩
  | stopBegun hp =>
    refine ⟨?_, rfl, rfl, fun h => h.elim nofun nofun, fun _ => ?_, hs.listeners⟩
    · rw [busy_addLifecycle]
      exact congrArg (· ++ [Phase.stopping]) (hs.busy.trans (congrArg Phase.transitional hp))
    · exact hs.check (by rw [hp]; decide)
  | closed hl =>
    obtain ⟨hp, hb⟩ := hs.alone hl rfl
    refine ⟨(hb _).trans (congrArg Phase.transitional hp).symm, hs.running, hs.transport, hs.queue,
      hs.check, hs.listeners⟩
  | stopped hl =>
    obtain ⟨hp, hb⟩ := hs.alone hl rfl
    have hr := hs.running
    have ht := hs.transport
    rw [hp] at hr ht
    exact ⟨hb _, hr, ht, fun _ => rfl, fun h => absurd rfl h, hs.listeners⟩

lemma Phased.step (hs : s.Phased) (h : s.step a = some s') : s'.Phased := by
  rcases step_cases h with h | h | h
  · exact hs.undisturbed h.undisturbed
  · exact hs.lifecycleStep h
  · exact hs.undisturbed (h.undisturbed hs.listeners)

lemma phased_idle {node : LocalNode} (hr : node.AtRest) (ha : node.objects.Announce) :
    (idle node).Phased where
  busy := by rw [idle, hr.phase]; rfl
  running := by rw [idle, hr.phase, hr.running]; rfl
  transport := by rw [idle, hr.phase, hr.transport]; rfl
  queue _ := hr.queue
  check hp := absurd hr.phase hp
  listeners := ha

lemma phased_run {node : LocalNode} (hr : node.AtRest) (ha : node.objects.Announce)
    {actions : List Action} (h : (idle node).run actions = some s) : s.Phased :=
  run_preserves (fun _ _ _ hs hstep => hs.step hstep) (phased_idle hr ha) h

lemma returns_start (hc : s.node.settings.check = .ok ()) (hp : s.node.phase ≠ .stopped) :
    s.Returns .start (.error (.phase (.cannotStart s.node.phase))) := by
  have hb : s.node.beginStart = .error (.phase (.cannotStart s.node.phase)) := by
    rw [LocalNode.beginStart, hc]
    exact if_neg hp
  rw [Returns, Activity.step, beginStart, hb]

lemma returns_stop (h : s.node.beginStop = .error (.phase (.cannotStop s.node.phase))) :
    s.Returns .stop (.error (.phase (.cannotStop s.node.phase))) := by
  rw [Returns, Activity.step, beginStop, h]

lemma step_stop_of_running (hp : s.node.phase = .running) :
    s.step .stop = some ({ s with node := { s.node with
      phase := .stopping
      transport := none
      outbox := { s.node.outbox with running := false } } }.addLifecycle .closing) := by
  rw [Activity.step, beginStop, LocalNode.beginStop, hp]

lemma Phased.transport_eq_none (hs : s.Phased) (hp : s.node.phase ≠ .running) :
    s.node.transport = none := by
  have ht := hs.transport
  rw [decide_eq_false hp] at ht
  exact Option.not_isSome_iff_eq_none.mp (Bool.not_eq_true _ ▸ ht)

lemma Phased.orderly (hs : s.Phased) : s.Orderly where
  single := by
    rw [hs.busy]
    cases s.node.phase <;> decide
  notifying stage hm hp :=
    LifecycleStage.exists_announcing hp (Bool.not_eq_true' _ ▸ (List.mem_filter.mp hm).2)
  returned := busy_eq_nil
  overlapping hb := by
    rw [hs.busy] at hb
    have hne : s.node.phase ≠ .stopped := fun hp => hb (by rw [hp]; rfl)
    refine ⟨returns_start (hs.check hne) hne, returns_stop ?_⟩
    rw [LocalNode.beginStop]
    cases hp : s.node.phase with
    | stopped | running => exact absurd (congrArg Phase.transitional hp) hb
    | starting | stopping => rfl
  transport hr := by rw [hs.transport, ← hs.running]; exact hr
  settled hb := by
    rw [hs.busy] at hb
    refine ⟨?_, ?_, ?_⟩
    · cases hp : s.node.phase with
      | stopped => exact .inl rfl
      | running => exact .inr rfl
      | starting | stopping => rw [hp] at hb; cases hb
    · rw [LocalNode.isRunning, hs.running, decide_eq_true_iff]
    · rw [hs.transport, decide_eq_true_iff]
  startInvalid e he := by
    have hp : s.node.phase = .stopped := by
      by_contra hne
      cases he.symm.trans (hs.check hne)
    refine ⟨hp, ?_, ?_⟩
    · exact hs.transport_eq_none (by rw [hp]; decide)
    · have hb : s.node.beginStart = .error e := by rw [LocalNode.beginStart, he]
      rw [Returns, Activity.step, beginStart, hb]
  startFailed i e s' h := by
    rcases step_cases h with h | h | h
    · cases h
    · cases h with
      | openingFailed hl =>
        exact ⟨rfl, hs.transport_eq_none (by rw [(hs.alone hl rfl).1]; decide),
          List.getElem?_set_self (List.getElem?_eq_some_iff.mp hl).1⟩
    · cases h
  startRunning hp := by
    have hne : s.node.phase ≠ .stopped := by rw [hp]; decide
    have hr := returns_start (hs.check hne) hne
    rwa [hp] at hr
  startNotified i s' h := by
    rcases step_cases h with h | h | h
    · cases h
    · cases h with
      | started hl =>
        obtain ⟨before, after, hb, hset⟩ := exists_busy hl
        exact ⟨rfl, (hset _).trans hb.symm,
          List.getElem?_set_self (List.getElem?_eq_some_iff.mp hl).1⟩
    · cases h
  stopStopped hp := by
    have hb : s.node.beginStop = .ok none := by rw [LocalNode.beginStop, hp]
    rw [Returns, Activity.step, beginStop, hb]
  stopRunning hp := by
    refine ⟨_, step_stop_of_running hp, rfl, rfl, rfl, ?_⟩
    rw [busy_addLifecycle]
    exact congrArg (· ++ [Phase.stopping]) (hs.busy.trans (congrArg Phase.transitional hp))
  stopReturned i s' h := by
    rcases step_cases h with h | h | h
    · cases h
    · cases h with
      | stopped hl => exact ⟨rfl, rfl, List.getElem?_set_self (List.getElem?_eq_some_iff.mp hl).1⟩
    · cases h

lemma sublist_of_grows {more : List Message} (hn : sentBy s a s' = [])
    (hq : s'.node.outbox.queue = s.node.outbox.queue ++ more) :
    (sentBy s a s' ++ s'.node.outbox.queue).Sublist (s.node.outbox.queue ++ queuedBy s a s') := by
  rw [hn, queuedBy_eq hq, hq]
  exact .refl _

lemma sublist_step (ha : s.node.objects.Announce) (h : s.step a = some s') :
    (sentBy s a s' ++ s'.node.outbox.queue).Sublist (s.node.outbox.queue ++ queuedBy s a s') := by
  rcases step_cases h with h | h | h
  · obtain ⟨-, _, _, hn⟩ := h.frame
    have hq : s'.node.outbox.queue = s.node.outbox.queue ++ [] := by rw [hn, List.append_nil]
    exact sublist_of_grows (by cases h <;> rfl) hq
  · cases h with
    | stopped => exact List.nil_sublist _
    | startRefused | startBegun | openingFailed | opened | started | stopRefused | stopIdle
    | stopBegun | closed => exact sublist_of_grows rfl (List.append_nil _).symm
  · cases h with
    | dropped | completed | issued =>
      exact sublist_of_grows rfl (List.append_nil _).symm
    | handled =>
      obtain ⟨-, more, hm, -, -⟩ := (LocalNode.worked_handle ha _).outbox.grows
      exact sublist_of_grows rfl hm
    | written =>
      obtain ⟨-, more, hm, -, -⟩ := (s.node.worked_setData _ _ _).outbox.grows
      exact sublist_of_grows rfl hm
    | @announced t m queue _ hm =>
      have hs : sentBy s .announce ({ s with node :=
          { s.node with outbox := { s.node.outbox with queue } } }.observe (.announced m)) = [m] := by
        rw [sentBy, observe, List.drop_left]
        rfl
      rw [hs, hm]
      exact List.sublist_append_left _ _

lemma Phased.collect_sublist (hs : s.Phased) (later : List Action) :
    (s.collect sentBy later).Sublist (s.node.outbox.queue ++ s.collect queuedBy later) := by
  induction later generalizing s with
  | nil => exact List.nil_sublist _
  | cons a later ih =>
    rw [collect, collect]
    cases hstep : s.step a with
    | none => exact List.nil_sublist _
    | some s' =>
      have hrest := (ih (hs.step hstep)).append_left (sentBy s a s')
      have hfirst := (sublist_step hs.listeners hstep).append_right (s'.collect queuedBy later)
      rw [List.append_assoc, List.append_assoc] at hfirst
      exact hrest.trans hfirst

/-- However the calls that start and stop a node overlap with each other and with everything else
that happens to it, one of them at most is at work on its phase, and those that come meanwhile are
refused and change nothing. A start is at work until the node runs; it may return later than that,
when the notification is sent, which changes nothing of the node. The node runs only with open
sockets, and when no call is at work it either runs or is stopped. What is announced after a stop
was queued after it. -/
theorem run_orderly (node : LocalNode) (hr : node.AtRest) (ha : node.objects.Announce)
    (actions : List Action) (s : Activity) (h : (idle node).run actions = some s) :
    s.Orderly ∧ (s.node.phase = .stopped → ∀ later : List Action,
      (s.collect sentBy later).Sublist (s.collect queuedBy later)) := by
  have hs : s.Phased := phased_run hr ha h
  refine ⟨hs.orderly, fun hp later => ?_⟩
  have hl := hs.collect_sublist later
  rwa [hs.queue (.inl hp), List.nil_append] at hl

theorem run_orderly_lampNode :
    LocalNode.lampNode.AtRest ∧ LocalNode.lampNode.objects.Announce ∧
      ∃ s, (idle LocalNode.lampNode).run
          [.start, .stop, .opened 0 (.ok { settings := {} }), .startAnnounced 0,
            .write ⟨0x02, 0x90, 0x01⟩ Epc.operationStatus [0x31], .stop, .start, .closed 2,
            .discarded 2] = some s ∧
        s.Returns .stop (.ok ()) ∧ s.busy.length ≤ 1 ∧
        (s.collect sentBy [.start, .opened 4 (.ok { settings := {} }), .announce]).Sublist
          (s.collect queuedBy [.start, .opened 4 (.ok { settings := {} }), .announce]) := by
  have hr : LocalNode.lampNode.AtRest := (LocalNode.atRest_new _ _ _).add _
  have ha := LocalNode.announce_lampNode
  obtain ⟨s, hs, hp⟩ := Option.map_eq_some_iff.mp (show ((idle LocalNode.lampNode).run
    [.start, .stop, .opened 0 (.ok { settings := {} }), .startAnnounced 0,
      .write ⟨0x02, 0x90, 0x01⟩ Epc.operationStatus [0x31], .stop, .start, .closed 2,
      .discarded 2]).map (·.node.phase) = some .stopped by decide +kernel)
  obtain ⟨ho, hq⟩ := run_orderly LocalNode.lampNode hr ha _ s hs
  exact ⟨hr, ha, s, hs, ho.stopStopped hp, ho.single, hq hp _⟩

theorem not_run_exclusive :
    (¬ ∀ (actions : List Action) (s : Activity), (idle LocalNode.lampNode).run actions = some s →
      s.inProgress.length ≤ 1) ∧
    ¬ ∀ (actions : List Action) (s : Activity), (idle LocalNode.lampNode).run actions = some s →
      s.inProgress ≠ [] → ∃ fault, s.Returns .stop (.error (.phase fault)) := by
  constructor
  · intro h
    obtain ⟨s, hs, hl⟩ := Option.map_eq_some_iff.mp (show ((idle LocalNode.lampNode).run
      [.start, .opened 0 (.ok { settings := {} }), .stop]).map (·.inProgress.length) = some 2 by
        decide +kernel)
    have hone := h _ s hs
    omega
  · intro h
    obtain ⟨s, hs, hp⟩ := Option.map_eq_some_iff.mp (show ((idle LocalNode.lampNode).run
      [.start, .opened 0 (.ok { settings := {} })]).map
        (fun s => (s.node.phase, s.inProgress.length)) = some (.running, 1) by decide +kernel)
    obtain ⟨hphase, hl⟩ := Prod.mk.inj hp
    obtain ⟨fault, hreturns⟩ := h _ s hs (List.ne_nil_of_length_pos (by omega))
    rw [Returns, step_stop_of_running hphase] at hreturns
    have hstopping : Phase.stopping = s.node.phase :=
      congrArg (fun s : Activity => s.node.phase) (Option.some.inj hreturns)
    cases hstopping.trans hphase

end Activity

end EchonetLite
