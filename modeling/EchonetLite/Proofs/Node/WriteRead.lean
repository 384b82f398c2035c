import EchonetLite.Proofs.Node.Sequences

/-! A request to write and read does what a write and then a read of the same entries would do, if
both can be carried out, and nothing otherwise. -/

namespace EchonetLite

namespace Message

def asWrite (m : Message) : Message := { m with esv := .setC }

def asRead (m : Message) : Message := { m with esv := .get }

end Message

lemma Property.permits_setGet_iff (p : Property) :
    p.access.Permits .setGet ↔ p.access.Permits .setC ∧ p.access.Permits .get := by
  rw [← allows_iff .setGet, ← allows_iff .setC, ← allows_iff .get]
  change (p.isReadable && p.isWritable) = true ↔ p.isWritable = true ∧ p.isReadable = true
  rw [Bool.and_eq_true, and_comm]

namespace Object

variable {o : Object} {e : Entry} {es : List Entry}

lemma refuses_setGet_iff : o.Refuses .setGet e ↔ o.Refuses .setC e ∨ o.Refuses .get e := by
  cases hp : o.property? e.epc with
  | none => exact iff_of_true (.missing hp) (.inl (.missing hp))
  | some p =>
    have hg : ¬ Service.get.Writes := by decide
    rw [refuses_iff hp, refuses_iff hp, refuses_iff hp, p.permits_setGet_iff]
    simp only [Service.Writes.setGet, Service.Writes.setC, hg, true_and, false_and, or_false]
    tauto

lemma accepts_setGet_iff : (∀ e ∈ es, ¬ o.Refuses .setGet e) ↔
    (∀ e ∈ es, ¬ o.Refuses .setC e) ∧ ∀ e ∈ es, ¬ (o.storeAll es).Refuses .get e := by
  have hg : ¬ Service.get.Writes := by decide
  simp only [refuses_setGet_iff, refuses_storeAll_of_reads hg, not_or, forall_and]

end Object

namespace NodeObjects

variable {n : NodeObjects} {m : Message} {h : HostedObject} {put : HostedObject → NodeObjects}
  {out : Outbox}

lemma handleAfter_asWrite (ha : n.Addressed m.deoj h put) (hl : h.listener = none)
    (hw : ∀ e ∈ m.entries, ¬ h.object.Refuses .setC e) (out : Outbox) :
    ∃ outbox, n.handleAfter m.asWrite m.asRead out =
      (put { h with object := h.object.storeAll m.entries }).handle m.asRead outbox := by
  obtain ⟨ho, _⟩ := Addressed.handle_write (m := m.asWrite) ha hl .setC hw out
  exact ⟨_, by rw [handleAfter, ho]; rfl⟩

lemma writeThenRead_succeeds_iff (ha : n.Addressed m.deoj h put) (hl : h.listener = none)
    (out : Outbox) :
    ((∃ a, (n.handle m.asWrite out).answer = some a ∧ a.esv = .setRes) ∧
        ∃ b, (n.handleAfter m.asWrite m.asRead out).answer = some b ∧ b.esv = .getRes) ↔
      ∀ e ∈ m.entries, ¬ h.object.Refuses .setGet e := by
  rw [Object.accepts_setGet_iff, Addressed.succeeds_iff (m := m.asWrite) ha hl .setC]
  refine and_congr_right fun hw => ?_
  obtain ⟨outbox, hr⟩ := handleAfter_asWrite ha hl hw out
  rw [hr]
  exact (ha.put_storeAll m.entries).succeeds_iff (m := m.asRead) hl .get outbox

lemma handle_setGet_accepted (ha : n.Addressed m.deoj h put) (hl : h.listener = none)
    (hm : m.esv = .setGet) (hok : ∀ e ∈ m.entries, ¬ h.object.Refuses .setGet e) (out : Outbox) :
    (n.handle m out).objects = (n.handle m.asWrite out).objects ∧
      (n.handle m out).outbox = (n.handle m.asWrite out).outbox ∧
      (n.handle m out).answer = (n.handleAfter m.asWrite m.asRead out).answer.map fun b =>
        { b with esv := .setGetRes } := by
  obtain ⟨hw, hr⟩ := Object.accepts_setGet_iff.mp hok
  have hx : m.esv.Exchange (some .setGetRes) .setGetSna := hm ▸ .setGet
  have hwrites : m.esv.Writes := hm ▸ .setGet
  rw [← hm] at hok
  obtain ⟨ho, hb⟩ := ha.handle_write hl hwrites hok out
  obtain ⟨ho', hb'⟩ := Addressed.handle_write (m := m.asWrite) ha hl .setC hw out
  refine ⟨ho.trans ho'.symm, hb.trans hb'.symm, ?_⟩
  obtain ⟨outbox, hread⟩ := handleAfter_asWrite ha hl hw out
  have hs := Request.serve_quiet hl hx hok out
  have hsr := Request.serve_quiet (m := m.asRead)
    (h := { h with object := h.object.storeAll m.entries }) hl .get hr outbox
  rw [hread, handle_addressed ha, handle_addressed (m := m.asRead) (ha.put_storeAll m.entries), hs,
    hsr, Object.after, if_pos hwrites, Request.answer?_eq hx,
    Request.answer?_eq (m := m.asRead) .get]
  rfl

/-- A request to write and read succeeds exactly if the write and the read right after it would. Then
the node is as the write leaves it, and the answer is that to the read but for the service. If it
does not succeed, it is refused and the node is as before. -/
theorem handle_setGet (n : NodeObjects) (m : Message) (out : Outbox)
    (quiet : ∀ h ∈ n.toList, h.listener = none) (hm : m.esv = .setGet) :
    ((∃ a, (n.handle m out).answer = some a ∧ a.esv = .setGetRes) ↔
      (∃ a, (n.handle m.asWrite out).answer = some a ∧ a.esv = .setRes) ∧
        ∃ b, (n.handleAfter m.asWrite m.asRead out).answer = some b ∧ b.esv = .getRes) ∧
    (∀ a, (n.handle m out).answer = some a → a.esv = .setGetRes →
      (n.handle m out).objects = (n.handle m.asWrite out).objects ∧
        (n.handle m out).outbox = (n.handle m.asWrite out).outbox ∧
        ∃ b, (n.handleAfter m.asWrite m.asRead out).answer = some b ∧
          a = { b with esv := .setGetRes }) ∧
    ((∀ a, (n.handle m out).answer = some a → a.esv ≠ .setGetRes) →
      (n.handle m out).objects = n ∧ (n.handle m out).outbox = out ∧
        (n.find? m.deoj = none → (n.handle m out).answer = none) ∧
        ∀ h, n.find? m.deoj = some h →
          ∃ a, (n.handle m out).answer = some a ∧ a.esv = .setGetSna) := by
  have hx : m.esv.Exchange (some .setGetRes) .setGetSna := hm ▸ .setGet
  rcases n.exists_addressed_or m.deoj with ⟨h, put, ha⟩ | hn
  · have hl := quiet h ha.mem
    have hs := ha.succeeds_iff hl hx out
    rw [hm] at hs
    refine ⟨hs.trans (writeThenRead_succeeds_iff ha hl out).symm, ?_, ?_⟩
    · intro a hanswer he
      obtain ⟨ho, hb, hr⟩ := handle_setGet_accepted ha hl hm (hs.mp ⟨a, hanswer, he⟩) out
      obtain ⟨b, hb', rfl⟩ := Option.map_eq_some_iff.mp (hr.symm.trans hanswer)
      exact ⟨ho, hb, b, hb', rfl⟩
    · intro hne
      have hb : ∃ e ∈ m.entries, h.object.Refuses m.esv e := by
        by_contra hok
        obtain ⟨a, hanswer, he⟩ := hs.mpr fun e he hr => hok ⟨e, he, hm ▸ hr⟩
        exact hne a hanswer he
      obtain ⟨reason, hv⟩ := Request.serve_refused hx hb out
      rw [handle_addressed ha, hv, Request.refusal?_eq hx]
      refine ⟨ha.put_self, rfl, fun hf => ?_, fun _ _ => ⟨_, rfl, rfl⟩⟩
      rw [ha.find?] at hf
      cases hf
  · rw [handle_unaddressed hn, handle_unaddressed (m := m.asWrite) hn]
    refine ⟨iff_of_false ?_ ?_, nofun, fun _ => ⟨rfl, rfl, fun _ => rfl, ?_⟩⟩
    · rintro ⟨a, ha, _⟩
      cases ha
    · rintro ⟨⟨a, ha, _⟩, _⟩
      cases ha
    · intro h hf
      rw [find?_eq_none_iff.mpr hn] at hf
      cases hf

theorem handle_setGet_dimmer :
    (∀ h ∈ LocalNode.dimmer.objects.toList, h.listener = none) ∧
      ∃ a, (LocalNode.dimmer.objects.handle
          { LocalNode.dim [[0x32], [0x4B]] with esv := .setGet } {}).answer = some a ∧
        a.esv = .setGetRes ∧ a.entries = [⟨0xB0, [0x4B]⟩, ⟨0xB0, [0x4B]⟩] := by
  obtain ⟨hi, hs, _⟩ := handle_setGet LocalNode.dimmer.objects
    { LocalNode.dim [[0x32], [0x4B]] with esv := .setGet } {} LocalNode.quiet_dimmer rfl
  obtain ⟨a, ha, he⟩ := hi.mpr ⟨Option.map_eq_some_iff.mp (by decide +kernel),
    Option.map_eq_some_iff.mp (by decide +kernel)⟩
  obtain ⟨_, _, b, hb, rfl⟩ := hs a ha he
  refine ⟨LocalNode.quiet_dimmer, _, ha, he, ?_⟩
  have hentries : (some b).map Message.entries = some [⟨0xB0, [0x4B]⟩, ⟨0xB0, [0x4B]⟩] := by
    rw [← hb]
    decide +kernel
  exact Option.some.inj hentries

end NodeObjects

end EchonetLite
