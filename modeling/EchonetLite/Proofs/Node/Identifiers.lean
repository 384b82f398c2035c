import EchonetLite.Proofs.Node.Calls

/-! Transaction identifiers. The calls, the searches and the announcements of a node share one
counter, and a call keeps the identifier that it got with its turn. -/

namespace EchonetLite.Activity

def issuedBy (s : Activity) (a : Action) (s' : Activity) : List UInt16 :=
  match a with
  | .takeTurn _ => [s'.node.lastTid]
  | .issueTid => [s'.node.lastTid]
  | .opened _ (.ok _) => [s'.node.lastTid]
  | .receive _ => (s.queuedBy a s').map Message.tid
  | .write _ _ _ => (s.queuedBy a s').map Message.tid
  | _ => []

variable {s s' t u v : Activity} {a : Action} {i j : Nat} {c : PostCall}

lemma counter_of_grows {more : List Message}
    (hi : issuedBy s a s' = (s.queuedBy a s').map Message.tid)
    (hq : s'.node.outbox.queue = s.node.outbox.queue ++ more)
    (hc : s'.node.outbox.counter = s.node.outbox.counter.advanceBy more.length) :
    s'.node.outbox.counter = s.node.outbox.counter.advanceBy (issuedBy s a s').length := by
  rw [hi, queuedBy_eq hq, List.length_map, hc]

lemma counter_step (ha : s.node.objects.Announce) (h : s.step a = some s') :
    s'.node.outbox.counter = s.node.outbox.counter.advanceBy (issuedBy s a s').length := by
  rcases step_cases h with h | h | h
  · cases h <;> rfl
  · cases h <;> rfl
  · cases h with
    | dropped | completed =>
      exact counter_of_grows rfl (List.append_nil _).symm rfl
    | handled =>
      obtain ⟨-, more, hq, hc, -⟩ := (LocalNode.worked_handle ha _).outbox.grows
      exact counter_of_grows rfl hq hc
    | written =>
      obtain ⟨-, more, hq, hc, -⟩ := (s.node.worked_setData _ _ _).outbox.grows
      exact counter_of_grows rfl hq hc
    | issued => rfl
    | announced => rfl

lemma announce_run (ha : s.node.objects.Announce) {actions : List Action}
    (h : s.run actions = some s') : s'.node.objects.Announce :=
  run_preserves (P := fun s => s.node.objects.Announce)
    (fun _ _ _ hs hstep l hl => hs l (listeners_step hs hstep ▸ hl)) ha h

lemma counter_run (ha : s.node.objects.Announce) {actions : List Action}
    (h : s.run actions = some s') :
    s'.node.outbox.counter =
      s.node.outbox.counter.advanceBy (s.collect issuedBy actions).length := by
  induction actions generalizing s with
  | nil =>
    obtain rfl := Option.some.inj h
    rfl
  | cons a actions ih =>
    obtain ⟨t, ht, hrun⟩ := Option.bind_eq_some_iff.mp h
    have ha' : t.node.objects.Announce := fun l hl => ha l (listeners_step ha ht ▸ hl)
    rw [ih ha' hrun, counter_step ha ht, TransactionCounter.advanceBy_add, collect, ht,
      List.length_append]

lemma collect_concat {α : Type} {f : Activity → Action → Activity → List α}
    {actions : List Action} (h : s.run actions = some t) (ht : t.step a = some u) :
    s.collect f (actions ++ [a]) = s.collect f actions ++ f t a u := by
  induction actions generalizing s with
  | nil =>
    obtain rfl := Option.some.inj h
    simp only [List.nil_append, collect, ht, List.append_nil]
  | cons b actions ih =>
    obtain ⟨s', hs, hrun⟩ := Option.bind_eq_some_iff.mp h
    rw [List.cons_append, collect, collect, hs]
    dsimp only
    rw [ih hrun, List.append_assoc]

lemma lastTid_ne (ha : t.node.objects.Announce) {between : List Action}
    (hrun : t.run between = some u) (hstep : u.step (.takeTurn j) = some v)
    (hlt : (t.collect issuedBy (between ++ [.takeTurn j])).length < 65536) :
    v.node.lastTid ≠ t.node.lastTid := by
  have hv : t.run (between ++ [.takeTurn j]) = some v := by
    rw [run_append, hrun, Option.bind_some, run, hstep]
    rfl
  have hpos : 0 < (t.collect issuedBy (between ++ [.takeTurn j])).length := by
    rw [collect_concat hrun hstep, List.length_append]
    exact Nat.lt_add_left _ Nat.one_pos
  have hc := counter_run ha hv
  generalize (t.collect issuedBy (between ++ [.takeTurn j])).length = k at hlt hpos hc
  have hl : v.node.lastTid = t.node.lastTid + UInt16.ofNat k := by
    rw [LocalNode.lastTid, hc, TransactionCounter.last_advanceBy]
    rfl
  intro he
  rw [he] at hl
  have hk := congrArg UInt16.toNat hl
  rw [UInt16.toNat_add, UInt16.toNat_ofNat'] at hk
  have := t.node.lastTid.toNat_lt
  omega

lemma getElem?_fill (hc : s.calls[i]? = some c) (k : Nat) (mailbox : Mailbox) :
    ∃ c', (s.fill k mailbox).calls[i]? = some c' ∧ c'.stage = c.stage ∧
      c'.message = c.message := by
  rw [fill, List.getElem?_modify, hc]
  refine ⟨_, rfl, ?_⟩
  split
  · dsimp only
    split <;> exact ⟨rfl, rfl⟩
  · exact ⟨rfl, rfl⟩

lemma kept_step (h : s.step a = some s') (hc : s.calls[i]? = some c)
    (hq : c.stage.isQueued = false) :
    ∃ c', s'.calls[i]? = some c' ∧ c'.stage.isQueued = false ∧ c'.message = c.message := by
  rcases aside_or_callStep h with h | h
  · cases h.advance with
    | none hs => exact ⟨c, hs ▸ hc, hq, rfl⟩
    | join hs => exact ⟨c, hs ▸ getElem?_concat_of hc _, hq, rfl⟩
    | @move k d d' hu _ hq' hm =>
      by_cases hk : i = k
      · obtain rfl := Option.some.inj ((hk ▸ hu.before).symm.trans hc)
        exact ⟨d', hk ▸ hu.after, hq', hm hq⟩
      · exact ⟨c, (hu.others i hk).trans hc, hq, rfl⟩
  · cases h with
    | quiet hs => exact ⟨c, hs ▸ hc, hq, rfl⟩
    | @answered inbound p _ _ _ _ _ _ hs =>
      obtain ⟨c', hc', hstage, hm⟩ := getElem?_fill hc p.call (.answered inbound.message)
      exact ⟨c', hs ▸ hc', hstage ▸ hq, hm⟩
    | @closed p _ _ _ _ hs =>
      obtain ⟨c', hc', hstage, hm⟩ := getElem?_fill hc p.call .closed
      exact ⟨c', hs ▸ hc', hstage ▸ hq, hm⟩

lemma kept_run {actions : List Action} (h : s.run actions = some s') (hc : s.calls[i]? = some c)
    (hq : c.stage.isQueued = false) : ∃ c', s'.calls[i]? = some c' ∧ c'.message = c.message := by
  obtain ⟨c', hc', _, hm⟩ := run_preserves
    (P := fun s => ∃ c', s.calls[i]? = some c' ∧ c'.stage.isQueued = false ∧
      c'.message = c.message)
    (fun s a s' ⟨d, hd, hdq, hdm⟩ hstep => by
      obtain ⟨c', hc', hq', hm⟩ := kept_step hstep hd hdq
      exact ⟨c', hc', hq', hm.trans hdm⟩)
    ⟨c, hc, hq, rfl⟩ h
  exact ⟨c', hc', hm⟩

lemma tid_takeTurn (h : s.step (.takeTurn i) = some s') :
    ∃ c, s'.calls[i]? = some c ∧ c.stage.isQueued = false ∧ c.message.tid = s'.node.lastTid := by
  rcases step_cases h with h | h | h
  · cases h with
    | connecting _ hc | registered _ hc =>
      exact ⟨_, (updates_of_modify hc (List.modify_modify_eq _ _ _ _)).after, rfl, rfl⟩
  · cases h
  · cases h

end EchonetLite.Activity
