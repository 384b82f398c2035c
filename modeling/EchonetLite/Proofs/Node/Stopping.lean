import EchonetLite.Proofs.Frame.Boundary
import EchonetLite.Proofs.Node.Moves

/-! What a stop means to the calls that post requests. A call that waits for its answer is given up:
nothing more of it is sent, and it ends with the error that the node was stopped. A call that has not
come so far keeps the transport with which it began, and goes on as if nothing had happened. -/

namespace EchonetLite

open EchonetLite.Frame

def PostStage.isPastSending : PostStage → Bool
  | queued => false
  | connecting => false
  | sending => false
  | waiting => true
  | finished _ => true

namespace PostCall

variable {c c' : PostCall} {i : Nat} {wait : Duration} {a : Action} {ids : List UInt16}
  {out : List Message}

lemma Sendable.move (h : c.Sendable) (hm : c.Moves i wait a ids out c') : c'.Sendable := by
  obtain ⟨hf, hs⟩ := sendable_iff.mp h
  have hf' (tid : UInt16) : { c.message with tid }.Fits := ⟨hf.entries, hf.data⟩
  cases hm with
  | connecting | registered => exact sendable_iff.mpr ⟨hf' _, hs⟩
  | connected | fellBack | unsent | sent | expired | answered | givenUp => exact h

lemma sendResult_ne {outcome : Except IoFault Nat} :
    c.sendResult outcome ≠ .error (.phase .stoppedWhileWaiting) := by
  intro h
  rcases bind_eq_error_iff.mp h with hd | ⟨d, -, ho⟩
  · rcases bind_eq_error_iff.mp hd with he | ⟨payload, -, hs⟩
    · rw [Message.encode] at he
      split at he <;> cases he
    · split at hs <;> cases hs
  · cases outcome with
    | error fault => cases ho
    | ok sent =>
      rw [Transport.sendOutcome] at ho
      split at ho <;> cases ho

lemma sendResult_error_ne {fault : IoFault} : c.sendResult (.error fault) ≠ .ok () := fun h =>
  nomatch (sendResult_eq_ok_iff.mp h).2.2

lemma Moves.past (hm : c.Moves i wait a ids out c') (h : c.stage.isPastSending = true) :
    out = [] ∧ c'.stage.isPastSending = true := by
  cases hm with
  | connecting hq | registered hq | connected hq | fellBack hq | unsent hq | sent hq =>
    rw [hq] at h
    cases h
  | expired | answered | givenUp => exact ⟨rfl, rfl⟩

end PostCall

namespace Activity

def Ended (s : Activity) (call : Nat) (result : Except Error Message) : Prop :=
  ∃ c, s.calls[call]? = some c ∧ c.stage = .finished result

def Silent (s : Activity) (call : Nat) : Prop :=
  ∀ later t, s.run later = some t → t.requestsOf call = s.requestsOf call

/-- Whatever happens from here on, the call ends only with the error that the node was stopped, and
can always come to that end. -/
structure EndsStopped (s : Activity) (call : Nat) : Prop where
  only : ∀ later t result, s.run later = some t → t.Ended call result →
    result = .error (.phase .stoppedWhileWaiting)
  within : ∀ later t, s.run later = some t →
    ∃ more u, t.run more = some u ∧ u.Ended call (.error (.phase .stoppedWhileWaiting))

variable {s s' t : Activity} {a : Action} {i j : Nat} {c : PostCall} {later : List Action}

lemma past_step (hs : s.Serialised) (hc : s.calls[i]? = some c)
    (hp : c.stage.isPastSending = true) (h : s.step a = some s') :
    s'.requestsOf i = s.requestsOf i ∧
      ∃ c', s'.calls[i]? = some c' ∧ c'.stage.isPastSending = true := by
  cases hs.concerns h i with
  | apart he _ hr => exact ⟨hr, c, he.trans hc, hp⟩
  | begun _ hn => exact nomatch hn.symm.trans hc
  | moved ho =>
    obtain rfl := Option.some.inj (ho.updates.before.symm.trans hc)
    obtain ⟨hout, hp'⟩ := ho.moves.past hp
    exact ⟨by rw [ho.sent, if_pos rfl, hout, List.append_nil], _, ho.updates.after, hp'⟩
  | filled hd hd' _ _ _ hr =>
    obtain rfl := Option.some.inj (hd.symm.trans hc)
    exact ⟨hr, _, hd', hp⟩

lemma silent_of_past (hs : s.Serialised) (hc : s.calls[i]? = some c)
    (hp : c.stage.isPastSending = true) : s.Silent i := by
  intro later t h
  have hinv := run_preserves (s := s) (P := fun t => t.Serialised ∧
    t.requestsOf i = s.requestsOf i ∧
      ∃ c, t.calls[i]? = some c ∧ c.stage.isPastSending = true)
    (fun t a u ⟨ht, hr, c, hc, hp⟩ hstep => by
      obtain ⟨hr', hp'⟩ := past_step ht hc hp hstep
      exact ⟨ht.step hstep, hr'.trans hr, hp'⟩)
    ⟨hs, rfl, c, hc, hp⟩ h
  exact hinv.2.1

def Dismissed (s : Activity) (call : Nat) : Prop :=
  ∃ c, s.calls[call]? = some c ∧ c.mailbox = .closed ∧
    (c.stage = .waiting ∨ c.stage = .finished (.error (.phase .stoppedWhileWaiting)))

lemma Dismissed.step (hd : s.Dismissed i) (hs : s.Serialised) (h : s.step a = some s') :
    s'.Dismissed i := by
  obtain ⟨c, hc, hm, hstage⟩ := hd
  cases hs.concerns h i with
  | apart he => exact ⟨c, he.trans hc, hm, hstage⟩
  | begun _ hn => exact nomatch hn.symm.trans hc
  | moved ho =>
    obtain ⟨hu, hmoves, -⟩ := ho
    obtain rfl := Option.some.inj (hu.before.symm.trans hc)
    cases hmoves with
    | connecting hq | registered hq | connected hq | fellBack hq | unsent hq | sent hq =>
      rw [hq] at hstage
      exact hstage.elim nofun nofun
    | expired _ he | answered _ he => exact nomatch he.symm.trans hm
    | givenUp => exact ⟨_, hu.after, hm, .inr rfl⟩
  | filled hd _ _ he =>
    obtain rfl := Option.some.inj (hd.symm.trans hc)
    exact nomatch he.symm.trans hm

lemma Dismissed.run (hd : s.Dismissed i) (hs : s.Serialised) (h : s.run later = some s') :
    s'.Dismissed i :=
  (run_preserves (P := fun s => s.Serialised ∧ s.Dismissed i)
    (fun _ _ _ ⟨hs, hd⟩ hstep => ⟨hs.step hstep, hd.step hs hstep⟩) ⟨hs, hd⟩ h).2

lemma Dismissed.only {result : Except Error Message} (hd : s.Dismissed i)
    (h : s.Ended i result) : result = .error (.phase .stoppedWhileWaiting) := by
  obtain ⟨c, hc, _, hstage⟩ := hd
  obtain ⟨c', hc', hr⟩ := h
  obtain rfl := Option.some.inj (hc.symm.trans hc')
  rcases hstage with hw | hf
  · exact nomatch hw.symm.trans hr
  · exact (PostStage.finished.inj (hf.symm.trans hr)).symm

lemma Dismissed.within (hd : s.Dismissed i) :
    ∃ more t, s.run more = some t ∧ t.Ended i (.error (.phase .stoppedWhileWaiting)) := by
  obtain ⟨c, hc, hm, hw | hf⟩ := hd
  · have hproceeds := proceeds hc
    rw [Proceeds, hw, hm] at hproceeds
    obtain ⟨t, c', ids, out, ht, hu, hmoves, -⟩ := exists_own hc rfl hproceeds
    refine ⟨[.resume i], t, run_cons ht [], ?_⟩
    cases hmoves with
    | answered _ he => exact nomatch he.symm.trans hm
    | givenUp => exact ⟨_, hu.after, rfl⟩
  · exact ⟨[], s, rfl, c, hc, hf⟩

lemma Dismissed.endsStopped (hd : s.Dismissed i) (hs : s.Serialised) : s.EndsStopped i where
  only _ _ _ hrun he := (hd.run hs hrun).only he
  within _ _ hrun := (hd.run hs hrun).within

lemma Dismissed.silent (hd : s.Dismissed i) (hs : s.Serialised) : s.Silent i := by
  obtain ⟨c, hc, -, hstage⟩ := hd
  refine silent_of_past hs hc ?_
  rcases hstage with h | h <;> rw [h] <;> rfl

lemma dismissed_of_closed {k : Nat} (hs : s.Serialised) (h : s.step (.closed k) = some s')
    (hc : s.calls[i]? = some c) (hw : c.stage = .waiting) (hm : c.mailbox = .empty) :
    s'.Dismissed i := by
  have hp : s.node.pending = some ⟨i, c.message⟩ :=
    hs.pending_eq_some_iff.mpr ⟨c, hc, by rw [hw]; rfl, hm, rfl⟩
  rcases step_cases h with h | h | h
  · cases h
  · cases h with
    | closed _ hcalls =>
      rw [hp] at hcalls
      subst hcalls
      refine ⟨{ c with mailbox := .closed }, ?_, rfl, .inl hw⟩
      exact (List.getElem?_modify_eq _ _ _).trans (by rw [hc]; exact congrArg some (if_pos hm))
  · cases h

lemma exists_end (hc : s.calls[i]? = some c) (ht : c.stage.hasTurn = true) :
    ∃ a s' result, s.step a = some s' ∧ Updates s s' i c { c with stage := .finished result } ∧
      s'.turn = none ∧ (result = .error (.phase .stoppedWhileWaiting) →
        c.stage = .waiting ∧ c.mailbox = .closed) := by
  have hproceeds := proceeds hc
  rw [Proceeds] at hproceeds
  cases hs : c.stage with
  | queued | finished =>
    rw [hs] at ht
    cases ht
  | connecting =>
    rw [hs] at hproceeds
    obtain ⟨s', c', ids, out, hstep, hu, hmoves, -, -, hturn⟩ :=
      exists_own hc rfl (hproceeds (.ok c.message))
    cases hmoves with
    | connected => exact ⟨_, s', _, hstep, hu, hturn _ rfl, nofun⟩
  | sending =>
    rw [hs] at hproceeds
    obtain ⟨s', c', ids, out, hstep, hu, hmoves, -, -, hturn⟩ :=
      exists_own hc rfl (hproceeds (.error (.system .addressInUse)))
    cases hmoves with
    | unsent _ hr =>
      refine ⟨_, s', _, hstep, hu, hturn _ rfl, fun he => ?_⟩
      obtain rfl := Except.error.inj he
      exact absurd hr PostCall.sendResult_ne
    | sent _ hr => exact absurd hr PostCall.sendResult_error_ne
  | waiting =>
    by_cases hm : c.mailbox = .empty
    · simp only [hs, if_pos hm] at hproceeds
      obtain ⟨s', c', ids, out, hstep, hu, hmoves, -, -, hturn⟩ := exists_own hc rfl hproceeds
      cases hmoves with
      | expired => exact ⟨_, s', _, hstep, hu, hturn _ rfl, nofun⟩
    · simp only [hs, if_neg hm] at hproceeds
      obtain ⟨s', c', ids, out, hstep, hu, hmoves, -, -, hturn⟩ := exists_own hc rfl hproceeds
      cases hmoves with
      | answered => exact ⟨_, s', _, hstep, hu, hturn _ rfl, nofun⟩
      | givenUp _ hm => exact ⟨_, s', _, hstep, hu, hturn _ rfl, fun _ => ⟨rfl, hm⟩⟩

def Due (s : Activity) (call : Nat) (c c' : PostCall) : Prop :=
  s.calls[call]? = some c' ∧ (c'.stage = .connecting ∨ c'.stage = .sending) ∧
    (c.Sendable → c'.Sendable)

lemma exists_takeTurn (ht : s.turn = none) (hc : s.calls[i]? = some c) (hq : c.stage = .queued)
    (hfirst : ∀ j d, j < i → s.calls[j]? = some d → d.stage.isQueued = false) :
    ∃ s' c', s.step (.takeTurn i) = some s' ∧ Updates s s' i c c' ∧ s'.Due i c c' := by
  have hhead : s.firstQueued? = some i := by
    obtain ⟨hi, hget⟩ := List.getElem?_eq_some_iff.mp hc
    refine List.findIdx?_eq_some_iff_getElem.mpr ⟨hi, by rw [hget, hq]; rfl, fun j hj => ?_⟩
    rw [hfirst j _ hj (List.getElem?_eq_getElem _)]
    exact Bool.false_ne_true
  have hproceeds := proceeds hc
  rw [Proceeds, hq] at hproceeds
  obtain ⟨s', c', ids, out, hstep, hu, hmoves, -⟩ := exists_own hc rfl (hproceeds ht hhead)
  refine ⟨s', c', hstep, hu, hu.after, ?_, fun h => h.move hmoves⟩
  cases hmoves with
  | connecting => exact .inl rfl
  | registered => exact .inr rfl

lemma exists_turn_of_free (n : Nat) (ht : s.turn = none) (hj : j + n = i)
    (hbefore : ∀ k d, k < j → s.calls[k]? = some d → d.stage.isQueued = false)
    (hc : s.calls[i]? = some c) (hq : c.stage = .queued) :
    ∃ later s' c', s.run later = some s' ∧ s'.Due i c c' := by
  induction n generalizing s j with
  | zero =>
    obtain rfl : j = i := hj
    obtain ⟨s', c', hstep, -, hdue⟩ := exists_takeTurn ht hc hq hbefore
    exact ⟨[.takeTurn j], s', c', run_cons hstep [], hdue⟩
  | succ n ih =>
    have hlt : j < i := by omega
    obtain ⟨d, hd⟩ : ∃ d, s.calls[j]? = some d :=
      ⟨_, List.getElem?_eq_getElem (Nat.lt_trans hlt (List.getElem?_eq_some_iff.mp hc).1)⟩
    cases hdq : d.stage.isQueued with
    | false =>
      refine ih (j := j + 1) ht (by omega) (fun k e hk he => ?_) hc
      rcases Nat.lt_succ_iff_lt_or_eq.mp hk with hk | rfl
      · exact hbefore k e hk he
      · obtain rfl := Option.some.inj (hd.symm.trans he)
        exact hdq
    | true =>
      obtain ⟨s₁, d₁, hstep₁, hu₁, hd₁, hstage, -⟩ :=
        exists_takeTurn ht hd (PostStage.eq_queued hdq) hbefore
      have hturn : d₁.stage.hasTurn = true := by rcases hstage with h | h <;> rw [h] <;> rfl
      obtain ⟨a, s₂, result, hstep₂, hu₂, ht₂, -⟩ := exists_end hd₁ hturn
      have hothers (k : Nat) (hk : k ≠ j) : s₂.calls[k]? = s.calls[k]? :=
        (hu₂.others k hk).trans (hu₁.others k hk)
      obtain ⟨later, s', c', hrun, hdue⟩ := ih (j := j + 1) ht₂ (by omega) (fun k e hk he => by
        rcases Nat.lt_succ_iff_lt_or_eq.mp hk with hk | rfl
        · exact hbefore k e hk ((hothers k (Nat.ne_of_lt hk)).symm.trans he)
        · obtain rfl := Option.some.inj (hu₂.after.symm.trans he)
          rfl) ((hothers i (Nat.ne_of_gt hlt)).trans hc)
      exact ⟨.takeTurn j :: a :: later, s', c',
        (run_cons hstep₁ _).trans ((run_cons hstep₂ _).trans hrun), hdue⟩

lemma Serialised.exists_turn (hs : s.Serialised) (hc : s.calls[i]? = some c)
    (hq : c.stage = .queued) : ∃ later s' c', s.run later = some s' ∧ s'.Due i c c' := by
  have hbefore {s : Activity} (k : Nat) (d : PostCall) (hk : k < 0) (_ : s.calls[k]? = some d) :
      d.stage.isQueued = false := absurd hk (Nat.not_lt_zero k)
  cases ht : s.turn with
  | none => exact exists_turn_of_free i ht (Nat.zero_add i) hbefore hc hq
  | some j =>
    obtain ⟨d, hd, hturn, -⟩ := hs.holder j ht
    have hne : i ≠ j := by
      rintro rfl
      obtain rfl := Option.some.inj (hc.symm.trans hd)
      rw [hq] at hturn
      cases hturn
    obtain ⟨a, s₁, result, hstep, hu, ht₁, -⟩ := exists_end hd hturn
    obtain ⟨later, s', c', hrun, hdue⟩ := exists_turn_of_free i ht₁ (Nat.zero_add i)
      hbefore ((hu.others i hne).trans hc) hq
    exact ⟨a :: later, s', c', (run_cons hstep _).trans hrun, hdue⟩

lemma Due.exists_sent {c₀ : PostCall} (hd : s.Due i c₀ c) (hsend : c₀.Sendable) :
    ∃ a s' m, s.step a = some s' ∧ s'.requestsOf i = s.requestsOf i ++ [m] := by
  obtain ⟨hc, hstage, hs⟩ := hd
  have hproceeds := proceeds hc
  rw [Proceeds] at hproceeds
  rcases hstage with hq | hq <;> rw [hq] at hproceeds
  · obtain ⟨s', c', ids, out, hstep, -, hmoves, -, hsent, -⟩ :=
      exists_own hc rfl (hproceeds (.ok c.message))
    cases hmoves with
    | connected => exact ⟨_, s', _, hstep, by rw [hsent, if_pos rfl]⟩
  · obtain ⟨outcome, hok⟩ := hs hsend
    obtain ⟨s', c', ids, out, hstep, -, hmoves, -, hsent, -⟩ :=
      exists_own hc rfl (hproceeds outcome)
    cases hmoves with
    | unsent _ hr => exact nomatch hok.symm.trans hr
    | sent => exact ⟨_, s', _, hstep, by rw [hsent, if_pos rfl]⟩

lemma Due.not_silent {c₀ : PostCall} (hd : s.Due i c₀ c) (hsend : c₀.Sendable) : ¬ s.Silent i := by
  intro hsilent
  obtain ⟨a, s', m, hstep, hsent⟩ := hd.exists_sent hsend
  rw [hsilent [a] s' (run_cons hstep [])] at hsent
  exact List.cons_ne_nil m [] (List.self_eq_append_right.mp hsent)

lemma Silent.run (h : s.Silent i) (hrun : s.run later = some s') : s'.Silent i := by
  intro more t ht
  rw [h _ t (run_trans hrun ht), h _ s' hrun]

lemma Serialised.silent_iff (hs : s.Serialised) (hc : s.calls[i]? = some c)
    (hf : ∀ result, c.stage ≠ .finished result) (hsend : c.Sendable) :
    s.Silent i ↔ c.stage = .waiting := by
  constructor
  · intro hsilent
    cases hq : c.stage with
    | queued =>
      obtain ⟨later, s', c', hrun, hdue⟩ := hs.exists_turn hc hq
      exact absurd (hsilent.run hrun) (hdue.not_silent hsend)
    | connecting =>
      have hdue : s.Due i c c := ⟨hc, .inl hq, id⟩
      exact absurd hsilent (hdue.not_silent hsend)
    | sending =>
      have hdue : s.Due i c c := ⟨hc, .inr hq, id⟩
      exact absurd hsilent (hdue.not_silent hsend)
    | waiting => rfl
    | finished result => exact absurd hq (hf result)
  · intro hw
    exact silent_of_past hs hc (by rw [hw]; rfl)

lemma Serialised.endsStopped_iff (hs : s.Serialised) (hc : s.calls[i]? = some c)
    (hf : ∀ result, c.stage ≠ .finished result) :
    s.EndsStopped i ↔ c.stage = .waiting ∧ c.mailbox = .closed := by
  constructor
  · intro he
    have hturn {t : Activity} {d : PostCall} {later : List Action} (hrun : s.run later = some t)
        (hd : t.calls[i]? = some d) (ht : d.stage.hasTurn = true) :
        d.stage = .waiting ∧ d.mailbox = .closed := by
      obtain ⟨a, u, result, hstep, hu, -, hresult⟩ := exists_end hd ht
      exact hresult (he.only _ u result (run_trans hrun (run_cons hstep [])) ⟨_, hu.after, rfl⟩)
    cases hq : c.stage with
    | queued =>
      obtain ⟨later, s', c', hrun, hc', hstage, -⟩ := hs.exists_turn hc hq
      obtain ⟨hw, -⟩ := hturn hrun hc' (by rcases hstage with h | h <;> rw [h] <;> rfl)
      rw [hw] at hstage
      exact hstage.elim nofun nofun
    | connecting | sending | waiting =>
      have hw := hturn (show s.run [] = some s from rfl) hc (by rw [hq]; rfl)
      rwa [hq] at hw
    | finished result => exact absurd hq (hf result)
  · rintro ⟨hw, hm⟩
    have hd : s.Dismissed i := ⟨c, hc, hm, .inl hw⟩
    exact hd.endsStopped hs

/-- Whatever has happened on a node, a stop gives up the call that waits for its answer: nothing of
it is sent any more, and it ends with the error that the node was stopped. So it is with the calls
that waited when the stop came, and with no other call that has not ended: a call whose request is
still to be sent can send it, however long ago the node was stopped, and end in another way. -/
theorem run_stops (node : LocalNode) (hp : node.pending = none) (actions : List Action)
    (s : Activity) (h : (idle node).run actions = some s) :
    (∀ k s' i c, s.step (.closed k) = some s' → s.calls[i]? = some c → c.stage = .waiting →
      c.mailbox = .empty → s'.Silent i ∧ s'.EndsStopped i) ∧
    ∀ i c, s.calls[i]? = some c → (∀ result, c.stage ≠ .finished result) →
      (c.Sendable → (s.Silent i ↔ c.stage = .waiting)) ∧
        (s.EndsStopped i ↔ c.stage = .waiting ∧ c.mailbox = .closed) := by
  have hs : s.Serialised := (tracked_run hp h).serialised
  refine ⟨fun k s' i c hstep hc hw hm => ?_, fun i c hc hf => ?_⟩
  · have hd : s'.Dismissed i := dismissed_of_closed hs hstep hc hw hm
    exact ⟨hd.silent (hs.step hstep), hd.endsStopped (hs.step hstep)⟩
  · exact ⟨hs.silent_iff hc hf, hs.endsStopped_iff hc hf⟩

theorem run_stops_asking :
    ∃ s s', (idle runningLampNode).run (asks 0 ++ [.stop]) = some s ∧
      s.step (.closed 0) = some s' ∧ s'.Silent 0 ∧ s'.EndsStopped 0 := by
  obtain ⟨s, s', c, hs, hstep, hc, hw, hm⟩ : ∃ s s' c,
      (idle runningLampNode).run (asks 0 ++ [.stop]) = some s ∧
        s.step (.closed 0) = some s' ∧ s.calls[0]? = some c ∧ c.stage = .waiting ∧
        c.mailbox = .empty := ⟨_, _, _, rfl, rfl, rfl, rfl, rfl⟩
  obtain ⟨hgiven, -⟩ := run_stops runningLampNode rfl _ s hs
  exact ⟨s, s', hs, hstep, hgiven 0 s' 0 c hstep hc hw hm⟩

def asksAndStops : List Action :=
  [.start, .opened 0 (.ok { settings := {}, unicast := [⟨{ address := .localhost }, 3610⟩] }),
    .startAnnounced 0] ++ asks 0 ++ (asks 1).take 1 ++ [.stop, .closed 1]

def asksOn : List Action := [.resume 0, .takeTurn 1, .datagramSent 1 (.ok 14), .expire 1]

theorem not_stop_ends_calls :
    ∃ s t c, (idle LocalNode.lampNode).run asksAndStops = some s ∧
      s.step (.discarded 1) = some t ∧ t.node.phase = .stopped ∧ t.calls[1]? = some c ∧
      c.transport.settings.tcp = false ∧ c.stage = .queued ∧
      ¬ t.Silent 1 ∧ ¬ t.EndsStopped 1 := by
  obtain ⟨s, t, u, c, request, hs, ht, hp, hc, htcp, hq, hu, hbefore, hafter, hended⟩ :
      ∃ s t u c request, (idle LocalNode.lampNode).run asksAndStops = some s ∧
        s.step (.discarded 1) = some t ∧ t.node.phase = .stopped ∧ t.calls[1]? = some c ∧
        c.transport.settings.tcp = false ∧ c.stage = .queued ∧ t.run asksOn = some u ∧
        t.requestsOf 1 = [] ∧ u.requestsOf 1 = [request] ∧
        u.Ended 1 (.error (.timeout u.node.settings.requestTimeout)) :=
    ⟨_, _, _, _, _, rfl, rfl, rfl, rfl, rfl, rfl, rfl, rfl, rfl, _, rfl, rfl⟩
  refine ⟨s, t, c, hs, ht, hp, hc, htcp, hq, fun hsilent => ?_, fun hends => ?_⟩
  · have hnone := hsilent asksOn u hu
    rw [hbefore, hafter] at hnone
    cases hnone
  · cases hends.only asksOn u _ hu hended

end Activity

end EchonetLite
