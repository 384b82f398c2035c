import EchonetLite.Proofs.Node.Moves

/-! What becomes of a call that posts a request. Whatever else happens on the node, the call gets its
turn, tries a connection if there are any, sends its datagram when nothing came of that, and waits.
Every way in which it ends leaves nothing that waits. -/

namespace EchonetLite

namespace PostCall

inductive Attempted (tcp : Bool) (i : Nat) : List Action → Prop
  | directly : tcp = false → Attempted tcp i [.takeTurn i]
  | fellBack {e : Error} : tcp = true →
      Attempted tcp i [.takeTurn i, .connectionEnded i (.error e)]

/-- The course of a call: the actions that it has taken, the requests that have gone out, and the
stage that it has come to. -/
inductive Course (c : PostCall) (i : Nat) (wait : Duration) :
    List Action → List Message → PostStage → Prop
  | queued : Course c i wait [] [] .queued
  | connecting : c.transport.settings.tcp = true → Course c i wait [.takeTurn i] [] .connecting
  | connected {answer : Message} : c.transport.settings.tcp = true →
      Course c i wait [.takeTurn i, .connectionEnded i (.ok answer)] [c.message]
        (.finished (.ok answer))
  | sending {own : List Action} : Attempted c.transport.settings.tcp i own →
      Course c i wait own [] .sending
  | unsent {own : List Action} {outcome : Except IoFault Nat} {e : Error} :
      Attempted c.transport.settings.tcp i own → c.sendResult outcome = .error e →
      Course c i wait (own ++ [.datagramSent i outcome]) [] (.finished (.error e))
  | waiting {own : List Action} {outcome : Except IoFault Nat} :
      Attempted c.transport.settings.tcp i own → c.sendResult outcome = .ok () →
      Course c i wait (own ++ [.datagramSent i outcome]) [c.message] .waiting
  | expired {own : List Action} {outcome : Except IoFault Nat} :
      Attempted c.transport.settings.tcp i own → c.sendResult outcome = .ok () →
      Course c i wait (own ++ [.datagramSent i outcome] ++ [.expire i]) [c.message]
        (.finished (.error (.timeout wait)))
  | answered {own : List Action} {outcome : Except IoFault Nat} {m : Message} :
      Attempted c.transport.settings.tcp i own → c.sendResult outcome = .ok () →
      c.mailbox = .answered m →
      Course c i wait (own ++ [.datagramSent i outcome] ++ [.resume i]) [c.message]
        (.finished (.ok m))
  | givenUp {own : List Action} {outcome : Except IoFault Nat} :
      Attempted c.transport.settings.tcp i own → c.sendResult outcome = .ok () →
      c.mailbox = .closed →
      Course c i wait (own ++ [.datagramSent i outcome] ++ [.resume i]) [c.message]
        (.finished (.error (.phase .stoppedWhileWaiting)))

variable {c c' : PostCall} {i : Nat} {wait : Duration} {a : Action} {own : List Action}
  {ids : List UInt16} {out sent : List Message}

lemma Course.sendable (h : c.Course i wait own sent .waiting) : c.Sendable := by
  cases h with
  | waiting _ hr => exact ⟨_, hr⟩

lemma Course.move (h : c.Course i wait own sent c.stage) (hm : c.Moves i wait a ids out c') :
    c'.Course i wait (own ++ [a]) (sent ++ out) c'.stage := by
  cases hm with
  | connecting hq ht =>
    rw [hq] at h
    cases h
    exact .connecting ht
  | registered hq ht =>
    rw [hq] at h
    cases h
    exact .sending (.directly ht)
  | connected hq =>
    rw [hq] at h
    cases h with
    | connecting ht => exact .connected ht
  | fellBack hq =>
    rw [hq] at h
    cases h with
    | connecting ht => exact .sending (.fellBack ht)
  | unsent hq hr =>
    rw [hq] at h
    cases h with
    | sending ha => exact .unsent ha hr
  | sent hq hr =>
    rw [hq] at h
    cases h with
    | sending ha => exact .waiting ha hr
  | expired hq hm =>
    rw [hq] at h
    cases h with
    | waiting ha hr => exact .expired ha hr
  | answered hq hm =>
    rw [hq] at h
    cases h with
    | waiting ha hr => exact .answered ha hr hm
  | givenUp hq hm =>
    rw [hq] at h
    cases h with
    | waiting ha hr => exact .givenUp ha hr hm

lemma Course.fill {mailbox : Mailbox} (h : c.Course i wait own sent c.stage)
    (hr : c.stage.isRegistered = true) :
    Course { c with mailbox } i wait own sent c.stage := by
  cases hs : c.stage with
  | queued | connecting | finished =>
    rw [hs] at hr
    cases hr
  | sending =>
    rw [hs] at h
    cases h with
    | sending ha => exact .sending ha
  | waiting =>
    rw [hs] at h
    cases h with
    | waiting ha hr => exact .waiting ha hr

end PostCall

namespace Activity

def issuedFor (call : Nat) (s : Activity) (a : Action) (s' : Activity) : List UInt16 :=
  if a.call? = some call then issuedBy s a s' else []

def actionsOf (call : Nat) (actions : List Action) : List Action :=
  actions.filter (·.call? = some call)

structure Traced (s₀ : Activity) (actions : List Action) (s : Activity) (i : Nat)
    (c : PostCall) : Prop where
  posted : ∃ m, .post m c.destination ∈ actions ∧ c.message = { m with tid := c.message.tid }
  issued : s₀.collect (issuedFor i) actions = if c.stage.isQueued then [] else [c.message.tid]
  course : c.Course i s₀.node.settings.requestTimeout (actionsOf i actions) (s.requestsOf i) c.stage

structure Untraced (s₀ : Activity) (actions : List Action) (s : Activity) (i : Nat) : Prop where
  issued : s₀.collect (issuedFor i) actions = []
  taken : actionsOf i actions = []
  sent : s.requestsOf i = []

variable {s s' : Activity} {a : Action} {i j : Nat} {c c' : PostCall} {m : Message}
  {ids : List UInt16} {out : List Message}

lemma actionsOf_concat (actions : List Action) (h : a.call? = some i) :
    actionsOf i (actions ++ [a]) = actionsOf i actions ++ [a] := by
  rw [actionsOf, List.filter_append, List.filter_cons_of_pos (by simpa using h)]
  rfl

lemma actionsOf_concat_of_ne (actions : List Action) (h : a.call? ≠ some i) :
    actionsOf i (actions ++ [a]) = actionsOf i actions := by
  rw [actionsOf, List.filter_append, List.filter_cons_of_neg (by simpa using h)]
  exact List.append_nil _

variable {s₀ : Activity} {actions : List Action}

lemma issuedFor_concat (hrun : s₀.run actions = some s) (hstep : s.step a = some s')
    (h : a.call? = some i) : s₀.collect (issuedFor i) (actions ++ [a]) =
      s₀.collect (issuedFor i) actions ++ issuedBy s a s' := by
  rw [collect_concat hrun hstep, issuedFor, if_pos h]

lemma issuedFor_concat_of_ne (hrun : s₀.run actions = some s) (hstep : s.step a = some s')
    (h : a.call? ≠ some i) : s₀.collect (issuedFor i) (actions ++ [a]) =
      s₀.collect (issuedFor i) actions := by
  rw [collect_concat hrun hstep, issuedFor, if_neg h, List.append_nil]

lemma Traced.apart (h : Traced s₀ actions s i c) (hrun : s₀.run actions = some s)
    (hstep : s.step a = some s') (ha : a.call? ≠ some i)
    (hr : s'.requestsOf i = s.requestsOf i) : Traced s₀ (actions ++ [a]) s' i c where
  posted := h.posted.imp fun _ hm => ⟨List.mem_append_left _ hm.1, hm.2⟩
  issued := (issuedFor_concat_of_ne hrun hstep ha).trans h.issued
  course := by
    rw [actionsOf_concat_of_ne actions ha, hr]
    exact h.course

lemma Untraced.apart (h : Untraced s₀ actions s i) (hrun : s₀.run actions = some s)
    (hstep : s.step a = some s') (ha : a.call? ≠ some i)
    (hr : s'.requestsOf i = s.requestsOf i) : Untraced s₀ (actions ++ [a]) s' i where
  issued := (issuedFor_concat_of_ne hrun hstep ha).trans h.issued
  taken := (actionsOf_concat_of_ne actions ha).trans h.taken
  sent := hr.trans h.sent

lemma Untraced.begun {destination : Endpoint} {transport : Transport}
    (h : Untraced s₀ (actions ++ [.post m destination]) s i) :
    Traced s₀ (actions ++ [.post m destination]) s i { message := m, destination, transport } where
  posted := ⟨m, List.mem_append_right _ (List.mem_singleton.mpr rfl), rfl⟩
  issued := h.issued
  course := by
    rw [h.taken, h.sent]
    exact .queued

lemma Traced.moved (h : Traced s₀ actions s i c) (hrun : s₀.run actions = some s)
    (hstep : s.step a = some s') (hs : s.node.settings = s₀.node.settings)
    (ho : OwnStep s a s' i c c' ids out) : Traced s₀ (actions ++ [a]) s' i c' where
  posted := by
    obtain ⟨m, hm, he⟩ := h.posted
    obtain ⟨hd, hmessage⟩ := ho.moves.request
    refine ⟨m, List.mem_append_left _ (hd ▸ hm), ?_⟩
    rw [hmessage, he]
  issued := by
    rw [issuedFor_concat hrun hstep ho.moves.call, h.issued, ho.issued, ho.moves.issued]
  course := by
    rw [actionsOf_concat actions ho.moves.call, ho.sent, if_pos rfl]
    exact h.course.move (hs ▸ ho.moves)

lemma Traced.filled {mailbox : Mailbox} (h : Traced s₀ actions s i c)
    (hr : c.stage.isRegistered = true) : Traced s₀ actions s i { c with mailbox } where
  posted := h.posted
  issued := h.issued
  course := h.course.fill hr

lemma traced_run {node : LocalNode} (hp : node.pending = none)
    (h : (idle node).run actions = some s) (i : Nat) :
    (s.calls[i]? = none → Untraced (idle node) actions s i) ∧
      ∀ c, s.calls[i]? = some c → Traced (idle node) actions s i c := by
  induction actions using List.reverseRecOn generalizing s with
  | nil =>
    obtain rfl := Option.some.inj h
    exact ⟨fun _ => ⟨rfl, rfl, rfl⟩, fun c hc => nomatch hc⟩
  | append_singleton actions a ih =>
    obtain ⟨t, ht, hstep⟩ := run_concat h
    have hs : t.Serialised := (tracked_run hp ht).serialised
    obtain ⟨hnone, hsome⟩ := ih ht
    cases hs.concerns hstep i with
    | apart hc ha hr =>
      rw [hc]
      exact ⟨fun hn => (hnone hn).apart ht hstep ha hr,
        fun c hc => (hsome c hc).apart ht hstep ha hr⟩
    | begun ha hn hc hr =>
      subst ha
      rw [hc]
      refine ⟨nofun, fun c hc => ?_⟩
      obtain rfl := Option.some.inj hc
      exact ((hnone hn).apart ht hstep nofun hr).begun
    | moved ho =>
      rw [ho.updates.after]
      refine ⟨nofun, fun c' hc' => ?_⟩
      obtain rfl := Option.some.inj hc'
      exact (hsome _ ho.updates.before).moved ht hstep (settings_run ht) ho
    | filled hc hc' hreg _ ha hr =>
      rw [hc']
      refine ⟨nofun, fun c' hc' => ?_⟩
      obtain rfl := Option.some.inj hc'
      exact ((hsome _ hc).apart ht hstep ha hr).filled hreg

end Activity

end EchonetLite
