import EchonetLite.Proofs.Node.Serving

/-! What a message is answered by an object without a listener. -/

namespace EchonetLite

namespace Request

structure Answered (o : Object) (m : Message) (answer : Option Message) : Prop where
  dropped : m.esv ≠ .infC → (∀ success refusal, ¬ m.esv.Exchange success refusal) → answer = none
  acknowledged : m.esv = .infC → ∃ a, answer = some a ∧ a.esv = .infCRes ∧
    ∀ e ∈ a.entries, e.edt = []
  refused : ∀ success refusal, m.esv.Exchange success refusal →
    ((∃ a, answer = some a ∧ a.esv = refusal) ↔ ∃ e ∈ m.entries, o.Refuses m.esv e)
  echoed : ∀ success refusal, m.esv.Exchange success refusal → m.esv.Writes →
    ∀ a, answer = some a → a.esv = refusal → a.entries = m.entries
  carriedOut : ∀ success refusal, m.esv.Exchange success refusal →
    (∀ e ∈ m.entries, ¬ o.Refuses m.esv e) →
      answer.map Message.esv = success ∧
        ∀ a, answer = some a → ∀ e ∈ a.entries, (o.after m).data? e.epc = some e.edt
  addressed : ∀ a, answer = some a →
    a.tid = m.tid ∧ a.seoj = o.code ∧
      a.deoj = (if a.esv = .inf then .nodeProfile else m.seoj) ∧
        a.entries.map Entry.epc = m.entries.map Entry.epc

variable {o : Object} {m : Message} {refusal : Service} {success : Option Service}

lemma answered_dropped (hi : m.esv ≠ .infC)
    (hr : ∀ success refusal, ¬ m.esv.Exchange success refusal) : Answered o m none where
  dropped _ _ := rfl
  acknowledged h := absurd h hi
  refused success refusal hx := absurd hx (hr success refusal)
  echoed success refusal hx := absurd hx (hr success refusal)
  carriedOut success refusal hx := absurd hx (hr success refusal)
  addressed a h := by cases h

lemma answered_acknowledgement (hi : m.esv = .infC) :
    Answered o m (some (acknowledgement o m)) where
  dropped h := absurd hi h
  acknowledged _ := ⟨_, rfl, rfl, by simp [acknowledgement, Entry.empty]⟩
  refused success refusal hx := absurd hi hx.ne_infC
  echoed success refusal hx := absurd hi hx.ne_infC
  carriedOut success refusal hx := absurd hi hx.ne_infC
  addressed a h := by
    obtain rfl := Option.some.inj h
    refine ⟨rfl, rfl, (if_neg (show Service.infCRes ≠ .inf by decide)).symm, ?_⟩
    simp [acknowledgement, Entry.empty, Function.comp_def]

lemma answered_refusal (hx : m.esv.Exchange success refusal)
    (hb : ∃ e ∈ m.entries, o.Refuses m.esv e) : Answered o m (refusal? o m) where
  dropped _ hr := absurd hx (hr success refusal)
  acknowledged hi := absurd hi hx.ne_infC
  refused success' refusal' hx' := by
    obtain ⟨rfl, rfl⟩ := hx.unique hx'
    exact ⟨fun _ => hb, fun _ => ⟨_, refusal?_eq hx o, rfl⟩⟩
  echoed success' refusal' hx' hw a ha _ := by
    obtain rfl := Option.some.inj ((refusal?_eq hx o).symm.trans ha)
    exact map_refusedEntry hw o m.entries
  carriedOut success' refusal' hx' ha := by
    obtain ⟨e, he, hr⟩ := hb
    exact absurd hr (ha e he)
  addressed a ha := by
    obtain rfl := Option.some.inj ((refusal?_eq hx o).symm.trans ha)
    refine ⟨rfl, rfl, (if_neg hx.refusal_ne_inf).symm, ?_⟩
    simp [Function.comp_def]

lemma answered_answer (hx : m.esv.Exchange success refusal)
    (ha : ∀ e ∈ m.entries, ¬ o.Refuses m.esv e) : Answered o m (answer? (o.after m) m) where
  dropped _ hr := absurd hx (hr success refusal)
  acknowledged hi := absurd hi hx.ne_infC
  refused success' refusal' hx' := by
    obtain ⟨rfl, rfl⟩ := hx.unique hx'
    constructor
    · rintro ⟨a, h, hr⟩
      exact absurd hr (esv_ne_of_answer? hx h)
    · rintro ⟨e, he, hr⟩
      exact absurd hr (ha e he)
  echoed success' refusal' hx' hw a h hr := by
    obtain ⟨rfl, rfl⟩ := hx.unique hx'
    exact absurd hr (esv_ne_of_answer? hx h)
  carriedOut success' refusal' hx' _ := by
    obtain ⟨rfl, rfl⟩ := hx.unique hx'
    refine ⟨map_esv_answer? hx _, ?_⟩
    intro a h e he
    rw [entries_of_answer? h] at he
    obtain ⟨f, hf, rfl⟩ := List.mem_map.mp he
    obtain ⟨data, hd⟩ := Object.exists_data_after (Object.exists_property (ha f hf)) m
    simp only [hd, Option.getD_some]
  addressed a h := by
    rw [answer?_eq hx] at h
    obtain ⟨s, hs, rfl⟩ := Option.map_eq_some_iff.mp h
    exact ⟨rfl, o.code_after m, rfl, by simp [Function.comp_def]⟩

end Request

namespace NodeObjects

/-- Every message to a node whose objects have no listener is answered as `Request.Answered` says,
and a request that is carried out leaves its data in the object that the answer is read from. -/
theorem handle_answered (n : NodeObjects) (m : Message) (out : Outbox)
    (quiet : ∀ h ∈ n.toList, h.listener = none) :
    ((¬ ∃ h put, n.Addressed m.deoj h put) → (n.handle m out).answer = none) ∧
      ∀ h put, n.Addressed m.deoj h put →
        Request.Answered h.object m (n.handle m out).answer ∧
          ∀ success refusal, m.esv.Exchange success refusal →
            (∀ e ∈ m.entries, ¬ h.object.Refuses m.esv e) →
              (n.handle m out).objects = put { h with object := h.object.after m } := by
  constructor
  · intro hn
    rw [handle_unaddressed ((n.exists_addressed_or m.deoj).resolve_left hn)]
  intro h put ha
  rw [handle_addressed ha]
  cases Request.verdict h.object m with
  | acknowledged hi =>
    rw [Request.serve_infC hi]
    exact ⟨Request.answered_acknowledgement hi, fun _ _ hx => absurd hi hx.ne_infC⟩
  | dropped hi hr =>
    rw [Request.serve_dropped hi hr]
    exact ⟨Request.answered_dropped hi hr, fun _ _ hx => absurd hx (hr _ _)⟩
  | refused success refusal hx hb =>
    obtain ⟨reason, hs⟩ := Request.serve_refused hx hb out
    rw [hs]
    refine ⟨Request.answered_refusal hx hb, fun _ _ _ hok => ?_⟩
    obtain ⟨e, he, hre⟩ := hb
    exact absurd hre (hok e he)
  | accepted success refusal hx hok =>
    rw [Request.serve_quiet (quiet h ha.mem) hx hok]
    exact ⟨Request.answered_answer hx hok, fun _ _ _ _ => rfl⟩

theorem handle_answered_lamps :
    (∀ h ∈ lamps.toList, h.listener = none) ∧
      ∃ a, (lamps.handle
          { seoj := .controller, deoj := ⟨0x02, 0x90, 0x00⟩, esv := .setC,
            entries := [⟨0x81, [0x08]⟩, ⟨0x81, [0x10]⟩] } {}).answer = some a ∧
        a.esv = .setRes ∧ a.seoj = ⟨0x02, 0x90, 0x01⟩ := by
  have quiet : ∀ h ∈ lamps.toList, h.listener = none := by simp [lamps, toList]
  obtain ⟨put, ha⟩ := exists_addressed (show lamps.find? ⟨0x02, 0x90, 0x00⟩ =
    some { object := .device ⟨0x02, 0x90, 0x01⟩ } from rfl)
  have h := ((handle_answered lamps
    { seoj := .controller, deoj := ⟨0x02, 0x90, 0x00⟩, esv := .setC,
      entries := [⟨0x81, [0x08]⟩, ⟨0x81, [0x10]⟩] } {} quiet).2 _ put ha).1
  obtain ⟨a, hs, he⟩ := Option.map_eq_some_iff.mp
    (h.carriedOut _ _ .setC ((Request.fault?_eq_none_iff .setC).mp (by decide))).1
  exact ⟨quiet, a, hs, he, (h.addressed a hs).2.1⟩

end NodeObjects

end EchonetLite
