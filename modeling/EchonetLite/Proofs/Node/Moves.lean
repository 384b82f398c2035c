import EchonetLite.Proofs.Frame.RoundTrip
import EchonetLite.Proofs.Node.Correlation

/-! What a step is to one call that posts a request. The call takes a few actions of its own, each
of which it alone takes; other actions do nothing to it, but something may go into its mailbox. -/

namespace EchonetLite

open EchonetLite.Frame

def Observation.request? (call : Nat) : Observation → Option Message
  | .requestSent i m => if i = call then some m else none
  | .requestConnected i m => if i = call then some m else none
  | _ => none

def Action.call? : Action → Option Nat
  | .takeTurn call => some call
  | .connectionEnded call _ => some call
  | .datagramSent call _ => some call
  | .expire call => some call
  | .resume call => some call
  | _ => none

namespace Transport

variable {t : Transport} {m : Message} {destination : Endpoint} {d : Datagram}

lemma datagram_eq_ok_iff : t.datagram m destination = .ok d ↔
    m.Fits ∧ ∃ socket, t.socketFor? destination = some socket ∧
      d = ⟨socket.endpoint, destination, m.wire⟩ := by
  rw [datagram, bind_eq_ok_iff]
  constructor
  · rintro ⟨payload, hp, hd⟩
    obtain ⟨hf, rfl⟩ := Message.encode_eq_ok_iff.mp hp
    cases hs : t.socketFor? destination with
    | none =>
      rw [hs] at hd
      cases hd
    | some socket =>
      rw [hs] at hd
      exact ⟨hf, socket, rfl, (Except.ok.inj hd).symm⟩
  · rintro ⟨hf, socket, hs, rfl⟩
    refine ⟨m.wire, Message.encode_eq_ok_iff.mpr ⟨hf, rfl⟩, ?_⟩
    rw [hs]
    rfl

lemma sendOutcome_eq_ok_iff {outcome : Except IoFault Nat} :
    sendOutcome d outcome = .ok () ↔ outcome = .ok d.payload.length := by
  cases outcome with
  | error => exact ⟨nofun, nofun⟩
  | ok sent =>
    rw [sendOutcome, Except.ok.injEq]
    split
    case isTrue h => exact ⟨fun _ => h, fun _ => rfl⟩
    case isFalse h => exact ⟨nofun, fun he => absurd he h⟩

end Transport

namespace PostCall

inductive Moves (c : PostCall) (i : Nat) (wait : Duration) :
    Action → List UInt16 → List Message → PostCall → Prop
  | connecting {tid : UInt16} : c.stage = .queued → c.transport.settings.tcp = true →
      Moves c i wait (.takeTurn i) [tid] []
        { c with message := { c.message with tid }, stage := .connecting }
  | registered {tid : UInt16} : c.stage = .queued → c.transport.settings.tcp = false →
      Moves c i wait (.takeTurn i) [tid] []
        { c with message := { c.message with tid }, stage := .sending }
  | connected {answer : Message} : c.stage = .connecting →
      Moves c i wait (.connectionEnded i (.ok answer)) [] [c.message]
        { c with stage := .finished (.ok answer) }
  | fellBack {e : Error} : c.stage = .connecting →
      Moves c i wait (.connectionEnded i (.error e)) [] [] { c with stage := .sending }
  | unsent {outcome : Except IoFault Nat} {e : Error} : c.stage = .sending →
      c.sendResult outcome = .error e →
      Moves c i wait (.datagramSent i outcome) [] [] { c with stage := .finished (.error e) }
  | sent {outcome : Except IoFault Nat} : c.stage = .sending →
      c.sendResult outcome = .ok () →
      Moves c i wait (.datagramSent i outcome) [] [c.message] { c with stage := .waiting }
  | expired : c.stage = .waiting → c.mailbox = .empty →
      Moves c i wait (.expire i) [] [] { c with stage := .finished (.error (.timeout wait)) }
  | answered {m : Message} : c.stage = .waiting → c.mailbox = .answered m →
      Moves c i wait (.resume i) [] [] { c with stage := .finished (.ok m) }
  | givenUp : c.stage = .waiting → c.mailbox = .closed →
      Moves c i wait (.resume i) [] []
        { c with stage := .finished (.error (.phase .stoppedWhileWaiting)) }

def Sendable (c : PostCall) : Prop := ∃ outcome, c.sendResult outcome = .ok ()

variable {c c' : PostCall} {i : Nat} {wait : Duration} {a : Action} {ids : List UInt16}
  {out : List Message}

lemma sendResult_eq_ok_iff {outcome : Except IoFault Nat} : c.sendResult outcome = .ok () ↔
    c.message.Fits ∧ (c.transport.socketFor? c.destination).isSome = true ∧
      outcome = .ok c.message.wire.length := by
  have hbind : c.sendResult outcome =
      c.transport.datagram c.message c.destination >>= (Transport.sendOutcome · outcome) := rfl
  rw [hbind, bind_eq_ok_iff]
  constructor
  · rintro ⟨d, hd, ho⟩
    obtain ⟨hf, socket, hs, rfl⟩ := Transport.datagram_eq_ok_iff.mp hd
    exact ⟨hf, by rw [hs]; rfl, Transport.sendOutcome_eq_ok_iff.mp ho⟩
  · rintro ⟨hf, hs, ho⟩
    obtain ⟨socket, hs⟩ := Option.isSome_iff_exists.mp hs
    exact ⟨_, Transport.datagram_eq_ok_iff.mpr ⟨hf, socket, hs, rfl⟩,
      Transport.sendOutcome_eq_ok_iff.mpr ho⟩

lemma sendable_iff : c.Sendable ↔
    c.message.Fits ∧ (c.transport.socketFor? c.destination).isSome = true := by
  simp only [Sendable, sendResult_eq_ok_iff]
  exact ⟨fun ⟨_, hf, hs, _⟩ => ⟨hf, hs⟩, fun ⟨hf, hs⟩ => ⟨_, hf, hs, rfl⟩⟩

lemma Moves.call (h : c.Moves i wait a ids out c') : a.call? = some i := by cases h <;> rfl

lemma Moves.issued (h : c.Moves i wait a ids out c') :
    (if c.stage.isQueued then [] else [c.message.tid]) ++ ids =
      if c'.stage.isQueued then [] else [c'.message.tid] := by
  cases h with
  | connecting hq | registered hq | connected hq | fellBack hq | unsent hq | sent hq | expired hq
  | answered hq | givenUp hq =>
    rw [hq]
    rfl

lemma Moves.request (h : c.Moves i wait a ids out c') : c'.destination = c.destination ∧
    c'.message = { c.message with tid := c'.message.tid } := by
  cases h <;> exact ⟨rfl, rfl⟩

lemma Moves.mailbox (h : c.Moves i wait a ids out c') : c'.mailbox = c.mailbox := by
  cases h <;> rfl

end PostCall

namespace Activity

def requestsOf (s : Activity) (call : Nat) : List Message :=
  s.seen.filterMap (Observation.request? call)

structure OwnStep (s : Activity) (a : Action) (s' : Activity) (i : Nat) (c c' : PostCall)
    (ids : List UInt16) (out : List Message) : Prop where
  updates : Updates s s' i c c'
  moves : c.Moves i s.node.settings.requestTimeout a ids out c'
  issued : issuedBy s a s' = ids
  sent : ∀ j, s'.requestsOf j = s.requestsOf j ++ if i = j then out else []
  turn : ∀ result, c'.stage = .finished result → s'.turn = none

inductive Concerns (s : Activity) (a : Action) (s' : Activity) (i : Nat) : Prop
  | apart : s'.calls[i]? = s.calls[i]? → a.call? ≠ some i → s'.requestsOf i = s.requestsOf i →
      Concerns s a s' i
  | begun {m : Message} {destination : Endpoint} {transport : Transport} :
      a = .post m destination → s.calls[i]? = none →
      s'.calls[i]? = some { message := m, destination, transport } →
      s'.requestsOf i = s.requestsOf i → Concerns s a s' i
  | moved {c c' : PostCall} {ids : List UInt16} {out : List Message} :
      OwnStep s a s' i c c' ids out → Concerns s a s' i
  | filled {c : PostCall} {mailbox : Mailbox} : s.calls[i]? = some c →
      s'.calls[i]? = some { c with mailbox } → c.stage.isRegistered = true → c.mailbox = .empty →
      a.call? ≠ some i → s'.requestsOf i = s.requestsOf i → Concerns s a s' i

def Proceeds (s : Activity) (i : Nat) (c : PostCall) : Prop :=
  match c.stage with
  | .queued => s.turn = none → s.firstQueued? = some i → ∃ s', s.step (.takeTurn i) = some s'
  | .connecting => ∀ result, ∃ s', s.step (.connectionEnded i result) = some s'
  | .sending => ∀ outcome, ∃ s', s.step (.datagramSent i outcome) = some s'
  | .waiting =>
    if c.mailbox = .empty then ∃ s', s.step (.expire i) = some s'
    else ∃ s', s.step (.resume i) = some s'
  | .finished _ => True

variable {s s' : Activity} {a : Action} {i j : Nat} {c c' : PostCall} {m : Message}
  {ids : List UInt16} {out : List Message}

lemma requestsOf_observe (s : Activity) (o : Observation) (i : Nat) :
    (s.observe o).requestsOf i = s.requestsOf i ++ (o.request? i).toList := by
  rw [requestsOf, observe, List.filterMap_append, requestsOf]
  cases h : o.request? i <;> simp [h]

lemma LifecycleStep.apart (h : LifecycleStep s a s') :
    a.call? = none ∧ ∀ i, s'.requestsOf i = s.requestsOf i := by
  cases h with
  | started => exact ⟨rfl, fun i => (s.requestsOf_observe _ i).trans (List.append_nil _)⟩
  | startRefused | startBegun | openingFailed | opened | stopRefused | stopIdle | stopBegun
  | closed | stopped => exact ⟨rfl, fun _ => rfl⟩

lemma NodeStep.apart (h : NodeStep s a s') :
    a.call? = none ∧ ∀ i, s'.requestsOf i = s.requestsOf i := by
  cases h with
  | dropped | written | issued => exact ⟨rfl, fun _ => rfl⟩
  | announced => exact ⟨rfl, fun i => (requestsOf_observe _ _ i).trans (List.append_nil _)⟩
  | completed | handled =>
    refine ⟨rfl, fun i => (requestsOf_observe _ _ i).trans ?_⟩
    exact (List.append_nil _).trans ((requestsOf_observe _ _ i).trans (List.append_nil _))

lemma Aside.concerns (hs : s.Serialised) (h : Aside s a s') (ha : a.call? = none)
    (hr : ∀ i, s'.requestsOf i = s.requestsOf i) (i : Nat) : Concerns s a s' i := by
  have hne : a.call? ≠ some i := by rw [ha]; nofun
  have hfill {p : Pending} {mailbox : Mailbox} (hp : s.node.pending = some p)
      (hc : s'.calls = (s.fill p.call mailbox).calls) : Concerns s a s' i := by
    obtain ⟨c, hcall, hreg, hempty, -⟩ := hs.pending_eq_some_iff.mp hp
    have hu := updates_of_fill hcall hempty hc
    by_cases hi : i = p.call
    · subst hi
      exact .filled hcall hu.after hreg hempty hne (hr _)
    · exact .apart (hu.others i hi) hne (hr i)
  cases h with
  | quiet hc => exact .apart (by rw [hc]) hne (hr i)
  | answered _ _ hp _ _ _ hc => exact hfill hp hc
  | closed _ hp _ _ hc => exact hfill hp hc

lemma OwnStep.concerns (h : OwnStep s a s' j c c' ids out) (i : Nat) : Concerns s a s' i := by
  by_cases hi : j = i
  · exact .moved (hi ▸ h)
  · refine .apart (h.updates.others i (Ne.symm hi)) ?_ ?_
    · rw [h.moves.call]
      exact fun he => hi (Option.some.inj he)
    · rw [h.sent, if_neg hi, List.append_nil]

lemma requestsOf_requestSent (s : Activity) (j : Nat) (m : Message) (i : Nat) :
    (s.observe (.requestSent j m)).requestsOf i = s.requestsOf i ++ if j = i then [m] else [] := by
  rw [requestsOf_observe, Observation.request?]
  split <;> rfl

lemma requestsOf_requestConnected (s : Activity) (j : Nat) (m : Message) (i : Nat) :
    (s.observe (.requestConnected j m)).requestsOf i =
      s.requestsOf i ++ if j = i then [m] else [] := by
  rw [requestsOf_observe, Observation.request?]
  split <;> rfl

lemma requestsOf_finish (s : Activity) (j : Nat) (result : Except Error Message) (i : Nat) :
    (s.finish j result).requestsOf i = s.requestsOf i :=
  (requestsOf_observe _ _ i).trans (List.append_nil _)

lemma CallStep.own (h : CallStep s a s') :
    a.call? = none ∨ ∃ i c c' ids out, OwnStep s a s' i c c' ids out := by
  have hquiet {t : Activity} {i : Nat} (hr : ∀ j, t.requestsOf j = s.requestsOf j) (j : Nat) :
      t.requestsOf j = s.requestsOf j ++ if i = j then [] else [] := by
    rw [hr, ite_self, List.append_nil]
  cases h with
  | refused | joined => exact .inl rfl
  | connecting _ hc hq ht =>
    refine .inr ⟨_, _, _, _, _, updates_of_modify hc (List.modify_modify_eq _ _ _ _),
      .connecting hq ht, ?_, ?_, ?_⟩
    exacts [rfl, hquiet fun _ => rfl, nofun]
  | registered _ hc hq ht =>
    refine .inr ⟨_, _, _, _, _, updates_of_modify hc (List.modify_modify_eq _ _ _ _),
      .registered hq ht, ?_, ?_, ?_⟩
    exacts [rfl, hquiet fun _ => rfl, nofun]
  | connected hc hq =>
    refine .inr ⟨_, _, _, _, _, updates_of_modify hc rfl, .connected hq, ?_, ?_, ?_⟩
    exacts [rfl,
      fun j => (requestsOf_finish _ _ _ j).trans (requestsOf_requestConnected _ _ _ j),
      fun _ _ => rfl]
  | fellBack hc hq =>
    refine .inr ⟨_, _, _, _, _, updates_of_modify hc rfl, .fellBack hq, ?_, ?_, ?_⟩
    exacts [rfl, hquiet fun _ => rfl, nofun]
  | sent hc hq hr =>
    refine .inr ⟨_, _, _, _, _, updates_of_modify hc rfl, .sent hq hr, ?_, ?_, ?_⟩
    exacts [rfl, requestsOf_requestSent s _ _, nofun]
  | unsent hc hq hr =>
    refine .inr ⟨_, _, _, _, _, updates_of_modify hc rfl, .unsent hq hr, ?_, ?_, ?_⟩
    exacts [rfl, hquiet fun j => requestsOf_finish _ _ _ j, fun _ _ => rfl]
  | expired hc hq hm =>
    refine .inr ⟨_, _, _, _, _, updates_of_modify hc rfl, .expired hq hm, ?_, ?_, ?_⟩
    exacts [rfl, hquiet fun j => requestsOf_finish _ _ _ j, fun _ _ => rfl]
  | answered hc hq hm =>
    refine .inr ⟨_, _, _, _, _, updates_of_modify hc rfl, .answered hq hm, ?_, ?_, ?_⟩
    exacts [rfl, hquiet fun j => requestsOf_finish _ _ _ j, fun _ _ => rfl]
  | givenUp hc hq hm =>
    refine .inr ⟨_, _, _, _, _, updates_of_modify hc rfl, .givenUp hq hm, ?_, ?_, ?_⟩
    exacts [rfl, hquiet fun j => requestsOf_finish _ _ _ j, fun _ _ => rfl]

lemma CallStep.concerns (h : CallStep s a s') (i : Nat) : Concerns s a s' i := by
  rcases h.own with ha | ⟨j, c, c', ids, out, ho⟩
  · cases h with
    | refused => exact .apart rfl nofun ((requestsOf_observe _ _ i).trans (List.append_nil _))
    | joined =>
      rcases Nat.lt_trichotomy i s.calls.length with hi | rfl | hi
      · exact .apart (List.getElem?_append_left hi) nofun rfl
      · exact .begun rfl (List.getElem?_eq_none (Nat.le_refl _)) List.getElem?_concat_length rfl
      · refine .apart ?_ nofun rfl
        rw [List.getElem?_eq_none (Nat.le_of_lt hi), List.getElem?_eq_none]
        rw [List.length_append]
        exact hi
    | connecting | registered | connected | fellBack | sent | unsent | expired | answered
    | givenUp => cases ha
  · exact ho.concerns i

lemma own_of_step (h : s.step a = some s') (ha : a.call? = some i) :
    ∃ c c' ids out, OwnStep s a s' i c c' ids out := by
  rcases step_cases h with h | h | h
  · obtain hn | ⟨j, c, c', ids, out, ho⟩ := h.own
    · exact nomatch ha.symm.trans hn
    · obtain rfl := Option.some.inj (ha.symm.trans ho.moves.call)
      exact ⟨c, c', ids, out, ho⟩
  · exact nomatch ha.symm.trans h.apart.1
  · exact nomatch ha.symm.trans h.apart.1

lemma exists_own (hc : s.calls[i]? = some c) (ha : a.call? = some i)
    (h : ∃ s', s.step a = some s') :
    ∃ s' c' ids out, s.step a = some s' ∧ OwnStep s a s' i c c' ids out := by
  obtain ⟨s', hstep⟩ := h
  obtain ⟨d, c', ids, out, ho⟩ := own_of_step hstep ha
  obtain rfl := Option.some.inj (ho.updates.before.symm.trans hc)
  exact ⟨s', c', ids, out, hstep, ho⟩

lemma Serialised.concerns (hs : s.Serialised) (h : s.step a = some s') (i : Nat) :
    Concerns s a s' i := by
  rcases step_cases h with h | h | h
  · exact h.concerns i
  · exact h.aside.concerns hs h.apart.1 h.apart.2 i
  · exact h.aside.concerns hs h.apart.1 h.apart.2 i

lemma proceeds (hc : s.calls[i]? = some c) : s.Proceeds i c := by
  obtain ⟨message, destination, transport, stage, mailbox⟩ := c
  cases stage with
  | queued =>
    intro ht hq
    rw [step, giveTurn, ht, hc]
    exact ⟨_, if_pos hq⟩
  | connecting =>
    intro result
    rw [step, endConnection, hc]
    cases result <;> exact ⟨_, rfl⟩
  | sending =>
    intro outcome
    rw [step, endSending, hc]
    dsimp only
    split
    · exact ⟨_, rfl⟩
    · split <;> exact ⟨_, rfl⟩
  | waiting =>
    cases mailbox with
    | empty => exact ⟨_, by rw [step, expire, hc]⟩
    | answered | closed => exact ⟨_, by rw [step, resume, hc]⟩
  | finished => trivial

lemma Serialised.ended (hs : s.Serialised) (hc : s.calls[i]? = some c)
    (hf : ∀ result, c.stage ≠ .finished result) (h : s.step a = some s')
    (hc' : s'.calls[i]? = some c') {result : Except Error Message}
    (hr : c'.stage = .finished result) : s'.node.pending = none := by
  cases hs.concerns h i with
  | apart he =>
    obtain rfl := Option.some.inj (hc.symm.trans (he.symm.trans hc'))
    exact absurd hr (hf result)
  | begun _ hn => exact nomatch hn.symm.trans hc
  | moved ho =>
    obtain rfl := Option.some.inj (ho.updates.after.symm.trans hc')
    exact (hs.step h).free (ho.turn result hr)
  | filled hd hd' =>
    obtain rfl := Option.some.inj (hd.symm.trans hc)
    obtain rfl := Option.some.inj (hd'.symm.trans hc')
    exact absurd hr (hf result)

lemma settings_step (h : s.step a = some s') : s'.node.settings = s.node.settings := by
  rcases step_cases h with h | h | h
  · exact h.undisturbed.settings
  · cases h <;> rfl
  · cases h with
    | written => exact (s.node.worked_setData _ _ _).settings
    | dropped | completed | handled | issued | announced => rfl

lemma settings_run {actions : List Action} (h : s.run actions = some s') :
    s'.node.settings = s.node.settings :=
  run_preserves (P := fun t => t.node.settings = s.node.settings)
    (fun _ _ _ ht hstep => (settings_step hstep).trans ht) rfl h

end Activity

end EchonetLite
