import EchonetLite.Proofs.Node.Steps

/-! The calls that post requests. One call at a time has the turn, only that call can be registered
as waiting for an answer, and something goes into its mailbox at most once. -/

namespace EchonetLite

namespace PostStage

def hasTurn : PostStage → Bool
  | queued => false
  | connecting => true
  | sending => true
  | waiting => true
  | finished _ => false

def isRegistered : PostStage → Bool
  | queued => false
  | connecting => false
  | sending => true
  | waiting => true
  | finished _ => false

lemma hasTurn_of_isRegistered {stage : PostStage} (h : stage.isRegistered = true) :
    stage.hasTurn = true := by
  cases stage <;> first | rfl | cases h

end PostStage

def PostCall.registration? (c : PostCall) (call : Nat) : Option Pending :=
  if c.stage.isRegistered = true ∧ c.mailbox = .empty then some ⟨call, c.message⟩ else none

namespace Activity

structure Serialised (s : Activity) : Prop where
  turn : ∀ (i : Nat) (c : PostCall), s.calls[i]? = some c → c.stage.hasTurn = true →
    s.turn = some i
  holder : ∀ i, s.turn = some i →
    ∃ c, s.calls[i]? = some c ∧ c.stage.hasTurn = true ∧ s.node.pending = c.registration? i
  free : s.turn = none → s.node.pending = none
  fresh : ∀ (i : Nat) (c : PostCall), s.calls[i]? = some c →
    c.stage = .queued ∨ c.stage = .connecting → c.mailbox = .empty

structure Updates (s s' : Activity) (i : Nat) (c c' : PostCall) : Prop where
  before : s.calls[i]? = some c
  after : s'.calls[i]? = some c'
  others : ∀ j, j ≠ i → s'.calls[j]? = s.calls[j]?

variable {s s' : Activity} {a : Action} {i j : Nat} {c c' : PostCall} {inbound : Inbound}

lemma getElem?_concat_cases {calls : List PostCall} (h : (calls ++ [c])[j]? = some c') :
    calls[j]? = some c' ∨ c' = c := by
  rcases Nat.lt_or_ge j calls.length with hj | hj
  · rw [List.getElem?_append_left hj] at h
    exact .inl h
  · rw [List.getElem?_append_right hj] at h
    exact .inr (List.mem_singleton.mp (List.mem_of_getElem? h))

lemma getElem?_concat_of {calls : List PostCall} (h : calls[j]? = some c') (c : PostCall) :
    (calls ++ [c])[j]? = some c' := by
  rw [List.getElem?_append_left (List.getElem?_eq_some_iff.mp h).1, h]

lemma updates_of_modify {f : PostCall → PostCall} (hc : s.calls[i]? = some c)
    (hf : s'.calls = s.calls.modify i f) : Updates s s' i c (f c) where
  before := hc
  after := by rw [hf, List.getElem?_modify_eq, hc]; rfl
  others j hj := by rw [hf, List.getElem?_modify_ne _ _ (Ne.symm hj)]

lemma set_eq_modify {calls : List PostCall} (f : PostCall → PostCall) (hc : calls[i]? = some c) :
    calls.set i (f c) = calls.modify i f := by
  refine List.ext_getElem? fun j => ?_
  by_cases hj : i = j
  · rw [← hj, List.getElem?_set_self (List.getElem?_eq_some_iff.mp hc).1,
      List.getElem?_modify_eq, hc]
    rfl
  · rw [List.getElem?_set_ne hj, List.getElem?_modify_ne _ _ hj]

lemma Serialised.hold (hs : s.Serialised) (hu : Updates s s' i c c')
    (ht : s.turn = none ∨ s.turn = some i) (hc : c'.stage.hasTurn = true) (ht' : s'.turn = some i)
    (hp : s'.node.pending = c'.registration? i)
    (hm : c'.stage = .queued ∨ c'.stage = .connecting → c'.mailbox = .empty) : s'.Serialised where
  turn j d hd hdt := by
    by_cases hj : j = i
    · rw [hj, ht']
    · rw [hu.others j hj] at hd
      have htj := hs.turn j d hd hdt
      rcases ht with ht | ht <;> rw [ht] at htj
      · cases htj
      · exact absurd (Option.some.inj htj).symm hj
  holder j hj := by
    obtain rfl := Option.some.inj (ht'.symm.trans hj)
    exact ⟨c', hu.after, hc, hp⟩
  free h := nomatch ht'.symm.trans h
  fresh j d hd hds := by
    by_cases hj : j = i
    · obtain rfl := Option.some.inj ((hj ▸ hu.after).symm.trans hd)
      exact hm hds
    · exact hs.fresh j d (hu.others j hj ▸ hd) hds

lemma Serialised.release (hs : s.Serialised) (hu : Updates s s' i c c')
    (ht : c.stage.hasTurn = true) (hc' : c'.stage.hasTurn = false)
    (hq : c'.stage.isQueued = false) (ht' : s'.turn = none) (hp : s'.node.pending = none) :
    s'.Serialised where
  turn j d hd hdt := by
    by_cases hj : j = i
    · obtain rfl := Option.some.inj ((hj ▸ hu.after).symm.trans hd)
      exact nomatch hc'.symm.trans hdt
    · have htj := hs.turn j d (hu.others j hj ▸ hd) hdt
      rw [hs.turn i c hu.before ht] at htj
      exact absurd (Option.some.inj htj).symm hj
  holder j hj := nomatch ht'.symm.trans hj
  free _ := hp
  fresh j d hd hds := by
    by_cases hj : j = i
    · obtain rfl := Option.some.inj ((hj ▸ hu.after).symm.trans hd)
      rcases hds with hds | hds
      · rw [hds] at hq
        cases hq
      · rw [hds] at hc'
        cases hc'
    · exact hs.fresh j d (hu.others j hj ▸ hd) hds

lemma Serialised.congr (hs : s.Serialised) (hc : s'.calls = s.calls) (ht : s'.turn = s.turn)
    (hp : s'.node.pending = s.node.pending) : s'.Serialised where
  turn j d hd hdt := by rw [ht]; exact hs.turn j d (hc ▸ hd) hdt
  holder j hj := by
    rw [hc, hp]
    exact hs.holder j (ht ▸ hj)
  free h := by rw [hp]; exact hs.free (ht ▸ h)
  fresh j d hd := hs.fresh j d (hc ▸ hd)

lemma Serialised.join (hs : s.Serialised) (hq : c.stage = .queued) (hm : c.mailbox = .empty) :
    Serialised { s with calls := s.calls ++ [c] } where
  turn j d hd hdt := by
    rcases getElem?_concat_cases hd with hd | rfl
    · exact hs.turn j d hd hdt
    · rw [hq] at hdt
      cases hdt
  holder j hj := by
    obtain ⟨d, hd, hdt, hp⟩ := hs.holder j hj
    exact ⟨d, getElem?_concat_of hd c, hdt, hp⟩
  free := hs.free
  fresh j d hd hds := by
    rcases getElem?_concat_cases hd with hd | rfl
    · exact hs.fresh j d hd hds
    · exact hm

lemma updates_of_fill {mailbox : Mailbox} (hc : s.calls[i]? = some c) (hm : c.mailbox = .empty)
    (hf : s'.calls = (s.fill i mailbox).calls) : Updates s s' i c { c with mailbox } := by
  have hu := updates_of_modify hc hf
  rwa [if_pos hm] at hu

lemma Serialised.pending_eq (hs : s.Serialised) (hc : s.calls[i]? = some c)
    (ht : c.stage.hasTurn = true) : s.node.pending = c.registration? i := by
  obtain ⟨d, hd, _, hp⟩ := hs.holder i (hs.turn i c hc ht)
  obtain rfl := Option.some.inj (hc.symm.trans hd)
  exact hp

lemma Serialised.pending_eq_some_iff (hs : s.Serialised) {p : Pending} :
    s.node.pending = some p ↔ ∃ c, s.calls[p.call]? = some c ∧ c.stage.isRegistered = true ∧
      c.mailbox = .empty ∧ c.message = p.request := by
  constructor
  · intro hp
    cases ht : s.turn with
    | none => exact nomatch hp.symm.trans (hs.free ht)
    | some i =>
      obtain ⟨c, hc, _, hpc⟩ := hs.holder i ht
      rw [hp, PostCall.registration?] at hpc
      split at hpc
      case isTrue h =>
        obtain rfl := Option.some.inj hpc
        exact ⟨c, hc, h.1, h.2, rfl⟩
      case isFalse => cases hpc
  · rintro ⟨c, hc, hr, hm, hq⟩
    rw [hs.pending_eq hc (PostStage.hasTurn_of_isRegistered hr), PostCall.registration?,
      if_pos ⟨hr, hm⟩, hq]

lemma CallStep.serialised (hs : s.Serialised) (h : CallStep s a s') : s'.Serialised := by
  cases h with
  | refused => exact hs.congr rfl rfl rfl
  | joined => exact hs.join rfl rfl
  | connecting ht hc hq _ =>
    have hm := hs.fresh _ _ hc (.inl hq)
    exact hs.hold (updates_of_modify hc (List.modify_modify_eq _ _ _ _)) (.inl ht) rfl rfl
      (hs.free ht) fun _ => hm
  | registered ht hc hq _ =>
    have hm := hs.fresh _ _ hc (.inl hq)
    exact hs.hold (updates_of_modify hc (List.modify_modify_eq _ _ _ _)) (.inl ht) rfl rfl
      (if_pos ⟨rfl, hm⟩).symm fun _ => hm
  | @connected i c _ hc hq =>
    have ht : c.stage.hasTurn = true := by rw [hq]; rfl
    have hp := hs.pending_eq hc ht
    rw [PostCall.registration?, hq] at hp
    exact hs.release (updates_of_modify hc rfl) ht rfl rfl rfl hp
  | @fellBack i c _ hc hq =>
    have ht := hs.turn i c hc (by rw [hq]; rfl)
    have hm := hs.fresh i c hc (.inr hq)
    exact hs.hold (updates_of_modify hc rfl) (.inr ht) rfl ht (if_pos ⟨rfl, hm⟩).symm fun _ => hm
  | @sent i c _ hc hq _ =>
    have ht := hs.turn i c hc (by rw [hq]; rfl)
    have hp := hs.pending_eq hc (by rw [hq]; rfl)
    rw [PostCall.registration?, hq] at hp
    exact hs.hold (updates_of_modify hc rfl) (.inr ht) rfl ht hp fun h => h.elim nofun nofun
  | unsent hc hq | expired hc hq | answered hc hq | givenUp hc hq =>
    exact hs.release (updates_of_modify hc rfl) (by rw [hq]; rfl) rfl rfl rfl rfl

inductive Aside (s : Activity) (a : Action) (s' : Activity) : Prop
  | quiet : s'.calls = s.calls → s'.turn = s.turn → s'.node.pending = s.node.pending →
      (∀ inbound, a = .receive inbound → s.node.Hears inbound →
        ∀ p, s.node.pending = some p → ¬ inbound.message.AnswerTo p.request) → Aside s a s'
  | answered {inbound : Inbound} {p : Pending} : a = .receive inbound → s.node.Hears inbound →
      s.node.pending = some p → inbound.message.AnswerTo p.request → s'.node.pending = none →
      s'.turn = s.turn → s'.calls = (s.fill p.call (.answered inbound.message)).calls →
      Aside s a s'
  | closed {p : Pending} : (∀ inbound, a ≠ .receive inbound) → s.node.pending = some p →
      s'.node.pending = none → s'.turn = s.turn → s'.calls = (s.fill p.call .closed).calls →
      Aside s a s'

lemma LifecycleStep.aside (h : LifecycleStep s a s') : Aside s a s' := by
  cases h with
  | closed _ hc =>
    cases hp : s.node.pending with
    | none =>
      rw [hp] at hc
      exact .quiet hc rfl hp.symm nofun
    | some p =>
      rw [hp] at hc
      exact .closed nofun hp rfl rfl hc
  | startRefused | startBegun | openingFailed | opened | started | stopRefused | stopIdle
  | stopBegun | stopped => exact .quiet rfl rfl rfl nofun

lemma NodeStep.aside (h : NodeStep s a s') : Aside s a s' := by
  cases h with
  | @dropped inbound hn =>
    refine .quiet rfl rfl rfl fun inbound' he hh => ?_
    obtain rfl := Action.receive.inj he
    exact absurd hh hn
  | completed hh hp ha => exact .answered rfl hh hp ha rfl rfl rfl
  | handled _ hn =>
    refine .quiet rfl rfl rfl fun inbound' he _ => ?_
    obtain rfl := Action.receive.inj he
    exact hn
  | written => exact .quiet rfl rfl (s.node.worked_setData _ _ _).pending nofun
  | issued | announced => exact .quiet rfl rfl rfl nofun

lemma aside_or_callStep (h : s.step a = some s') : CallStep s a s' ∨ Aside s a s' := by
  rcases step_cases h with h | h | h
  · exact .inl h
  · exact .inr h.aside
  · exact .inr h.aside

lemma Serialised.fill (hs : s.Serialised) {p : Pending} {mailbox : Mailbox}
    (hp : s.node.pending = some p) (hp' : s'.node.pending = none) (ht : s'.turn = s.turn)
    (hc : s'.calls = (s.fill p.call mailbox).calls) (hm : mailbox ≠ .empty) : s'.Serialised := by
  obtain ⟨c, hcall, hr, hempty, -⟩ := hs.pending_eq_some_iff.mp hp
  have hturn : s.turn = some p.call := hs.turn _ c hcall (PostStage.hasTurn_of_isRegistered hr)
  refine hs.hold (updates_of_fill hcall hempty hc) (.inr hturn)
    (PostStage.hasTurn_of_isRegistered hr) (ht.trans hturn) (hp'.trans ?_) fun h => ?_
  · exact (if_neg fun h => hm h.2).symm
  · rcases h with h | h <;> rw [h] at hr <;> cases hr

lemma Serialised.step (hs : s.Serialised) (h : s.step a = some s') : s'.Serialised := by
  rcases aside_or_callStep h with h | h
  · exact h.serialised hs
  · cases h with
    | quiet hc ht hp _ => exact hs.congr hc ht hp
    | answered _ _ hp _ hp' ht hc => exact hs.fill hp hp' ht hc nofun
    | closed _ hp hp' ht hc => exact hs.fill hp hp' ht hc nofun

lemma serialised_idle {node : LocalNode} (hp : node.pending = none) : (idle node).Serialised where
  turn _ _ hc := nomatch hc
  holder _ hi := nomatch hi
  free _ := hp
  fresh _ _ hc := nomatch hc

inductive Advance (s : Activity) (a : Action) (s' : Activity) : Prop
  | none : s'.calls = s.calls → Advance s a s'
  | join {c : PostCall} : s'.calls = s.calls ++ [c] → c.stage = .queued → c.mailbox = .empty →
      Advance s a s'
  | move {i : Nat} {c c' : PostCall} : Updates s s' i c c' → c'.mailbox = c.mailbox →
      c'.stage.isQueued = false → (c.stage.isQueued = false → c'.message = c.message) →
      (∀ f, c'.stage = .finished (.ok f) →
        c.mailbox = .answered f ∨ a = .connectionEnded i (.ok f)) → Advance s a s'

lemma CallStep.advance (h : CallStep s a s') : Advance s a s' := by
  cases h with
  | refused => exact .none rfl
  | joined => exact .join rfl rfl rfl
  | connecting _ hc hq _ | registered _ hc hq _ =>
    refine .move (updates_of_modify hc (List.modify_modify_eq _ _ _ _)) rfl rfl (fun h => ?_) nofun
    rw [hq] at h
    cases h
  | connected hc =>
    refine .move (updates_of_modify hc rfl) rfl rfl (fun _ => rfl) fun f hf => .inr ?_
    rw [PostStage.finished.inj hf]
  | fellBack hc | sent hc => exact .move (updates_of_modify hc rfl) rfl rfl (fun _ => rfl) nofun
  | answered hc _ hm =>
    refine .move (updates_of_modify hc rfl) rfl rfl (fun _ => rfl) fun f hf => .inl ?_
    rw [hm, Except.ok.inj (PostStage.finished.inj hf)]
  | unsent hc | expired hc | givenUp hc =>
    exact .move (updates_of_modify hc rfl) rfl rfl (fun _ => rfl) nofun

def mailboxAt (s : Activity) (i : Nat) : Mailbox := ((s.calls[i]?).map PostCall.mailbox).getD .empty

lemma mailboxAt_eq (hc : s.calls[i]? = some c) : s.mailboxAt i = c.mailbox := by
  rw [mailboxAt, hc]
  rfl

lemma Updates.mailboxAt_ne (hu : Updates s s' i c c') (hj : j ≠ i) :
    s'.mailboxAt j = s.mailboxAt j := by
  rw [mailboxAt, hu.others j hj, mailboxAt]

lemma CallStep.mailboxAt (h : CallStep s a s') (j : Nat) : s'.mailboxAt j = s.mailboxAt j := by
  cases h.advance with
  | none hc => rw [Activity.mailboxAt, hc, Activity.mailboxAt]
  | @join c hc _ hm =>
    rw [Activity.mailboxAt, Activity.mailboxAt, hc]
    cases hd : s.calls[j]? with
    | some d => rw [getElem?_concat_of hd]
    | none =>
      cases hd' : (s.calls ++ [c])[j]? with
      | none => rfl
      | some d =>
        obtain rfl := (getElem?_concat_cases hd').resolve_left (by rw [hd]; nofun)
        exact hm
  | @move i c c' hu hm =>
    by_cases hj : j = i
    · rw [hj, mailboxAt_eq hu.after, mailboxAt_eq hu.before, hm]
    · exact hu.mailboxAt_ne hj

lemma CallStep.result (h : CallStep s a s') {f : Message} (hc : s'.calls[j]? = some c)
    (hf : c.stage = .finished (.ok f)) :
    s.calls[j]? = some c ∨ c.mailbox = .answered f ∨ a = .connectionEnded j (.ok f) := by
  cases h.advance with
  | none hs => exact .inl (hs ▸ hc)
  | join hs hq =>
    rw [hs] at hc
    rcases getElem?_concat_cases hc with hc | rfl
    · exact .inl hc
    · exact nomatch hq.symm.trans hf
  | @move i d d' hu hm _ _ hr =>
    by_cases hj : j = i
    · obtain rfl := Option.some.inj (hc.symm.trans (hj ▸ hu.after))
      rw [hm, hj]
      exact .inr (hr f hf)
    · exact .inl (hu.others j hj ▸ hc)

end Activity

end EchonetLite
