import EchonetLite.Proofs.Node.Addressing
import EchonetLite.Proofs.Node.Validation
import EchonetLite.Proofs.Object.Writes

/-! What serving a message comes to in each case: no object, acknowledgement, not a request, a
refused entry, and a request that an object without a listener carries out. -/

namespace EchonetLite

namespace Object

def announce (o : Object) (e : Entry) (out : Outbox) : Outbox :=
  if o.attached && (o.property? e.epc).any Property.isAnnounceable then out.announce o.code e
  else out

def after (o : Object) (m : Message) : Object :=
  if m.esv.Writes then o.storeAll m.entries else o

def announceAll (o : Object) (m : Message) (out : Outbox) : Outbox :=
  if m.esv.Writes then m.entries.foldl (fun out e => o.announce e out) out else out

lemma write_eq {o : Object} {e : Entry} {p : Property} (hp : o.property? e.epc = some p)
    (out : Outbox) : o.write e.epc e.edt out = (.ok (), o.store e.epc e.edt, o.announce e out) := by
  simp only [write, hp, announce, Option.any_some]

lemma write_of_none {o : Object} {epc : UInt8} (hp : o.property? epc = none) (data : Bytes)
    (out : Outbox) :
    o.write epc data out = (.error (.protocol (.noProperty o.code epc)), o, out) := by
  rw [write, hp]

lemma announce_store (o : Object) (epc : UInt8) (data : Bytes) (e : Entry) (out : Outbox) :
    (o.store epc data).announce e out = o.announce e out := by
  simp only [announce]
  rw [property?_store]
  cases o.property? e.epc <;> rfl

@[simp] lemma code_after (o : Object) (m : Message) : (o.after m).code = o.code := by
  rw [after]
  split
  · rw [storeAll_eq]
  · rfl

lemma exists_data_after {o : Object} {c : UInt8} (h : ∃ p, o.property? c = some p)
    (m : Message) : ∃ data, (o.after m).data? c = some data := by
  obtain ⟨p, hp⟩ := h
  rw [after]
  split
  · exact ⟨_, by rw [data?, property?_storeAll, hp]; rfl⟩
  · exact ⟨p.data, by rw [data?, hp]; rfl⟩

lemma exists_property_store {o : Object} {c : UInt8} (h : ∃ p, o.property? c = some p)
    (epc : UInt8) (data : Bytes) : ∃ p, (o.store epc data).property? c = some p := by
  obtain ⟨p, hp⟩ := h
  exact ⟨_, by rw [property?_store, hp, Option.map_some]⟩

end Object

namespace Request

variable {o : Object} {m : Message} {h : HostedObject} {refusal : Service}
  {success : Option Service}

lemma carryOut_write {s : Service} {es : List Entry} (hw : s.Writes)
    (he : ∀ e ∈ es, ∃ p, o.property? e.epc = some p) (out : Outbox) :
    carryOut none s es o out =
      ⟨o.storeAll es, es.foldl (fun out e => o.announce e out) out,
        es.map (Event.told o.code s), none⟩ := by
  -- Storing data removes no property, so the remaining entries still find theirs.
  induction es generalizing o out with
  | nil => rfl
  | cons e es ih =>
    obtain ⟨⟨p, hp⟩, hes⟩ := List.forall_mem_cons.mp he
    have hr := ih (o := o.store e.epc e.edt)
      (fun f hf => Object.exists_property_store (hes f hf) _ _) (o.announce e out)
    simp only [Object.announce_store] at hr
    simp only [carryOut, carryOutEntry, Service.isWriteClass_iff.mpr hw, if_true,
      Object.write_eq hp, hr]
    rfl

lemma carryOut_read {s : Service} (hw : ¬ s.Writes) (es : List Entry) (o : Object)
    (out : Outbox) :
    carryOut none s es o out = ⟨o, out, es.map (Event.told o.code s), none⟩ := by
  rw [← Service.isWriteClass_iff] at hw
  induction es with
  | nil => rfl
  | cons e es ih =>
    simp only [carryOut, carryOutEntry, if_neg hw, ih]
    rfl

lemma carryOut_quiet (ha : ∀ e ∈ m.entries, ¬ o.Refuses m.esv e) (out : Outbox) :
    carryOut none m.esv m.entries o out =
      ⟨o.after m, o.announceAll m out, m.entries.map (Event.told o.code m.esv), none⟩ := by
  rw [Object.after, Object.announceAll]
  split
  case isTrue hw =>
    exact carryOut_write hw (fun e he => Object.exists_property (ha e he)) out
  case isFalse hw =>
    exact carryOut_read hw m.entries o out

lemma serve_infC (hi : m.esv = .infC) (h : HostedObject) (out : Outbox) :
    serve h m out =
      { object := h.object, outbox := out, answer := some (acknowledgement h.object m) } := by
  simp only [serve, hi, if_true]

lemma serve_dropped (hi : m.esv ≠ .infC)
    (hr : ∀ success refusal, ¬ m.esv.Exchange success refusal) (h : HostedObject) (out : Outbox) :
    serve h m out =
      { object := h.object, outbox := out, notice := some (.notRequest m.esv m.deoj) } := by
  have hn : m.esv.isRequest = false := by
    rw [Bool.eq_false_iff]
    intro hs
    obtain ⟨success, refusal, hx⟩ := Service.isRequest_iff.mp hs
    exact hr success refusal hx
  simp only [serve, hi, hn, Bool.not_false, if_true, if_false]

lemma exists_fault (hx : m.esv.Exchange success refusal)
    (hb : ∃ e ∈ m.entries, o.Refuses m.esv e) : ∃ reason, fault? o m = some reason := by
  cases hf : fault? o m with
  | none =>
    obtain ⟨e, he, hr⟩ := hb
    exact absurd hr ((fault?_eq_none_iff hx).mp hf e he)
  | some reason => exact ⟨reason, rfl⟩

lemma serve_fault {reason : Refusal} (hx : m.esv.Exchange success refusal)
    (hf : fault? h.object m = some reason) (out : Outbox) :
    serve h m out =
      { object := h.object, outbox := out, answer := refusal? h.object m,
        notice := some (.refused m.esv h.code reason) } := by
  simp only [serve, hx.ne_infC, hx.isRequest, hf, Bool.not_true, Bool.false_eq_true, if_false]

lemma serve_refused (hx : m.esv.Exchange success refusal)
    (hb : ∃ e ∈ m.entries, h.object.Refuses m.esv e) (out : Outbox) :
    ∃ reason, serve h m out =
      { object := h.object, outbox := out, answer := refusal? h.object m,
        notice := some (.refused m.esv h.code reason) } := by
  obtain ⟨reason, hf⟩ := exists_fault hx hb
  exact ⟨reason, serve_fault hx hf out⟩

lemma serve_accepted {done : Carried} (hx : m.esv.Exchange success refusal)
    (ha : ∀ e ∈ m.entries, ¬ h.object.Refuses m.esv e) {out : Outbox}
    (hd : carryOut h.listener m.esv m.entries h.object out = done) :
    serve h m out =
      { object := done.object, outbox := done.outbox, events := done.events,
        answer := if done.refusal.isNone then answer? done.object m else refusal? done.object m,
        notice := done.refusal.map fun r => .refused m.esv done.object.code r } := by
  have hf := (fault?_eq_none_iff hx).mpr ha
  simp only [serve, hx.ne_infC, hx.isRequest, hf, hd, Bool.not_true, Bool.false_eq_true, if_false]
  cases done.refusal <;> rfl

lemma serve_quiet (hl : h.listener = none) (hx : m.esv.Exchange success refusal)
    (ha : ∀ e ∈ m.entries, ¬ h.object.Refuses m.esv e) (out : Outbox) :
    serve h m out =
      { object := h.object.after m, outbox := h.object.announceAll m out,
        events := m.entries.map (Event.told h.code m.esv),
        answer := answer? (h.object.after m) m } := by
  have hd := carryOut_quiet ha out
  rw [← hl] at hd
  rw [serve_accepted hx ha hd]
  rfl

lemma unchanged_or_accepted (h : HostedObject) (m : Message) (out : Outbox) :
    (serve h m out).object = h.object ∨
      ∃ success refusal, m.esv.Exchange success refusal ∧
        ∀ e ∈ m.entries, ¬ h.object.Refuses m.esv e := by
  cases verdict h.object m with
  | acknowledged hi => rw [serve_infC hi]; exact .inl rfl
  | dropped hi hr => rw [serve_dropped hi hr]; exact .inl rfl
  | refused success refusal hx hb =>
    obtain ⟨reason, hs⟩ := serve_refused hx hb out
    rw [hs]
    exact .inl rfl
  | accepted success refusal hx ha => exact .inr ⟨success, refusal, hx, ha⟩

lemma serve_object (hl : h.listener = none) (m : Message) (out : Outbox) :
    (serve h m out).object = h.object ∨
      (∀ e ∈ m.entries, ¬ h.object.Refuses m.esv e) ∧
        (serve h m out).object = h.object.after m := by
  rcases unchanged_or_accepted h m out with ho | ⟨success, refusal, hx, ha⟩
  · exact .inl ho
  · rw [serve_quiet hl hx ha]
    exact .inr ⟨ha, rfl⟩

def written (o : Object) (m : Message) : List Entry :=
  if m.esv.isWriteClass && (fault? o m).isNone then m.entries else []

lemma written_eq_nil (hw : ¬ m.esv.Writes) : written o m = [] := by
  rw [written, Bool.eq_false_iff.mpr (mt Service.isWriteClass_iff.mp hw), Bool.false_and]
  rfl

lemma written_eq_nil_of_fault {reason : Refusal} (hf : fault? o m = some reason) :
    written o m = [] := by
  rw [written, hf, Option.isNone_some, Bool.and_false]
  rfl

lemma written_eq_entries (hx : m.esv.Exchange success refusal) (hw : m.esv.Writes)
    (ha : ∀ e ∈ m.entries, ¬ o.Refuses m.esv e) : written o m = m.entries := by
  rw [written, (fault?_eq_none_iff hx).mpr ha, Service.isWriteClass_iff.mpr hw]
  rfl

lemma serve_written (hl : h.listener = none) (m : Message) (out : Outbox) :
    (serve h m out).object = h.object.storeAll (written h.object m) ∧
      (serve h m out).outbox =
        (written h.object m).foldl (fun out e => h.object.announce e out) out := by
  cases verdict h.object m with
  | acknowledged hi =>
    have hw : ¬ m.esv.Writes := by
      rw [hi]
      nofun
    rw [serve_infC hi, written_eq_nil hw]
    exact ⟨rfl, rfl⟩
  | dropped hi hr =>
    have hw : ¬ m.esv.Writes := fun hw => by
      obtain ⟨success, refusal, hx⟩ := hw.exchange
      exact hr success refusal hx
    rw [serve_dropped hi hr, written_eq_nil hw]
    exact ⟨rfl, rfl⟩
  | refused success refusal hx hb =>
    obtain ⟨reason, hf⟩ := exists_fault hx hb
    rw [serve_fault hx hf, written_eq_nil_of_fault hf]
    exact ⟨rfl, rfl⟩
  | accepted success refusal hx ha =>
    rw [serve_quiet hl hx ha, Object.after, Object.announceAll]
    by_cases hw : m.esv.Writes
    · rw [if_pos hw, if_pos hw, written_eq_entries hx hw ha]
      exact ⟨rfl, rfl⟩
    · rw [if_neg hw, if_neg hw, written_eq_nil hw]
      exact ⟨rfl, rfl⟩

@[simp] lemma epc_refusedEntry (o : Object) (s : Service) (e : Entry) :
    (refusedEntry o s e).epc = e.epc := by
  rw [refusedEntry]
  split
  · rfl
  · split
    · split <;> rfl
    · rfl

lemma map_refusedEntry {s : Service} (hw : s.Writes) (o : Object) (es : List Entry) :
    es.map (refusedEntry o s) = es := by
  have he : ∀ e ∈ es, refusedEntry o s e = e := by
    intro e _
    rw [refusedEntry, if_pos (Service.isWriteClass_iff.mpr hw)]
  exact (List.map_congr_left he).trans (List.map_id' es)

lemma refusal?_eq (hx : m.esv.Exchange success refusal) (o : Object) :
    refusal? o m = some
      { tid := m.tid, seoj := o.code, deoj := m.seoj, esv := refusal,
        entries := m.entries.map (refusedEntry o m.esv) } := by
  simp only [refusal?, Message.refusal?, hx.refusal?_eq, Option.map_some, Message.reply]

lemma answer?_eq (hx : m.esv.Exchange success refusal) (o : Object) :
    answer? o m = success.map fun s =>
      { tid := m.tid, seoj := o.code, deoj := if s = .inf then .nodeProfile else m.seoj, esv := s,
        entries := m.entries.map fun e => ⟨e.epc, (o.data? e.epc).getD []⟩ } := by
  have hd : ∀ s, success = some s → (m.esv.isNotificationRequest = true ↔ s = .inf) := by
    generalize m.esv = esv at hx
    intro s hs
    cases hx with
    | setI => cases hs
    | setC | get | infReq | setGet => cases hs; decide
  simp only [answer?, Message.response?, hx.response?_eq, Option.map_map]
  cases success with
  | none => rfl
  | some s => simp only [Option.map_some, Function.comp_apply, Message.reply, hd s rfl]

lemma map_esv_answer? (hx : m.esv.Exchange success refusal) (o : Object) :
    (answer? o m).map Message.esv = success := by
  rw [answer?_eq hx]
  simp [Function.comp_def]

lemma esv_ne_of_answer? {a : Message} (hx : m.esv.Exchange success refusal)
    (h : answer? o m = some a) : a.esv ≠ refusal := by
  intro hr
  have hs := map_esv_answer? hx o
  rw [h, Option.map_some, hr] at hs
  exact hx.success_ne hs.symm

lemma entries_of_answer? {a : Message} (h : answer? o m = some a) :
    a.entries = m.entries.map fun e => ⟨e.epc, (o.data? e.epc).getD []⟩ := by
  obtain ⟨r, _, rfl⟩ := Option.map_eq_some_iff.mp h
  rfl

lemma succeeds_iff {success : Service} (hl : h.listener = none)
    (hx : m.esv.Exchange (some success) refusal) (out : Outbox) :
    (∃ a, (serve h m out).answer = some a ∧ a.esv = success) ↔
      ∀ e ∈ m.entries, ¬ h.object.Refuses m.esv e := by
  constructor
  · rintro ⟨a, ha, hs⟩ e he hr
    obtain ⟨reason, hv⟩ := serve_refused hx ⟨e, he, hr⟩ out
    rw [hv, refusal?_eq hx] at ha
    obtain rfl := Option.some.inj ha
    exact hx.success_ne (congrArg some hs.symm)
  · intro hok
    rw [serve_quiet hl hx hok, answer?_eq hx]
    exact ⟨_, rfl, rfl⟩

end Request

namespace NodeObjects

variable {n : NodeObjects} {m : Message} {h : HostedObject} {put : HostedObject → NodeObjects}

lemma handle_unaddressed (hn : ∀ h ∈ n.toList, ¬ m.deoj.Covers h.code) (out : Outbox) :
    n.handle m out =
      { objects := n, outbox := out, notice := some (.noObject m.deoj m.esv) } := by
  simp only [handle, find?_eq_none_iff.mpr hn]

lemma handle_addressed (ha : n.Addressed m.deoj h put) (out : Outbox) :
    n.handle m out =
      { objects := put { h with object := (Request.serve h m out).object }
        outbox := (Request.serve h m out).outbox
        answer := (Request.serve h m out).answer
        events := (Request.serve h m out).events
        notice := (Request.serve h m out).notice } := by
  simp only [handle, ha.find?, ha.modify]

lemma Addressed.succeeds_iff {success refusal : Service} (ha : n.Addressed m.deoj h put)
    (hl : h.listener = none) (hx : m.esv.Exchange (some success) refusal) (out : Outbox) :
    (∃ a, (n.handle m out).answer = some a ∧ a.esv = success) ↔
      ∀ e ∈ m.entries, ¬ h.object.Refuses m.esv e := by
  rw [handle_addressed ha]
  exact Request.succeeds_iff hl hx out

lemma Addressed.handle_write (ha : n.Addressed m.deoj h put) (hl : h.listener = none)
    (hw : m.esv.Writes) (hok : ∀ e ∈ m.entries, ¬ h.object.Refuses m.esv e) (out : Outbox) :
    (n.handle m out).objects = put { h with object := h.object.storeAll m.entries } ∧
      (n.handle m out).outbox = m.entries.foldl (fun out e => h.object.announce e out) out := by
  obtain ⟨success, refusal, hx⟩ := hw.exchange
  obtain ⟨ho, hb⟩ := Request.serve_written hl m out
  rw [Request.written_eq_entries hx hw hok] at ho hb
  rw [handle_addressed ha, ho, hb]
  exact ⟨rfl, rfl⟩

end NodeObjects

end EchonetLite
