import EchonetLite.Proofs.Node.Secrecy

/-! What a refused read gives away. The refusal carries the data of every readable property that was
asked for, and beside it the data of those that are announced without being readable. -/

namespace EchonetLite

namespace Object

def readOut (o : Object) (e : Entry) : Entry :=
  ⟨e.epc, (((o.property? e.epc).filter Property.isReadable).map Property.data).getD []⟩

inductive Discloses (o : Object) (e : Entry) : Entry → Prop
  | readable {p : Property} : o.property? e.epc = some p → p.access.readable = true →
      Discloses o e ⟨e.epc, p.data⟩
  | announced {p : Property} : o.property? e.epc = some p → p.access.readable = false →
      p.access.announceable = true → Discloses o e ⟨e.epc, p.data⟩
  | withheld {p : Property} : o.property? e.epc = some p → p.access.readable = false →
      p.access.announceable = false → Discloses o e ⟨e.epc, []⟩
  | missing : o.property? e.epc = none → Discloses o e ⟨e.epc, []⟩

def Leaks (o : Object) (e : Entry) : Prop :=
  ∃ p ∈ o.property? e.epc, p.access.readable = false ∧ p.access.announceable = true ∧ p.data ≠ []

instance (o : Object) : DecidablePred o.Leaks := fun e =>
  inferInstanceAs (Decidable (∃ p ∈ o.property? e.epc, _))

variable {o : Object} {e f : Entry}

lemma readOut_of_some {p : Property} (hp : o.property? e.epc = some p) :
    o.readOut e = ⟨e.epc, if p.access.readable then p.data else []⟩ := by
  rw [readOut, hp, Option.filter_some]
  cases hr : p.access.readable <;> simp [Property.isReadable, hr]

lemma leaks_iff {p : Property} (hp : o.property? e.epc = some p) : o.Leaks e ↔
    p.access.readable = false ∧ p.access.announceable = true ∧ p.data ≠ [] := by
  simp [Leaks, hp]

lemma Discloses.eq_readOut_iff (h : o.Discloses e f) : f = o.readOut e ↔ ¬ o.Leaks e := by
  cases h with
  | readable hp hr => simp [readOut_of_some hp, leaks_iff hp, hr]
  | announced hp hr ha => simp [readOut_of_some hp, leaks_iff hp, hr, ha]
  | withheld hp hr ha => simp [readOut_of_some hp, leaks_iff hp, hr, ha]
  | missing hp => simp [readOut, Leaks, hp]

lemma eq_map_readOut_iff {es fs : List Entry} (h : List.Forall₂ o.Discloses es fs) :
    fs = es.map o.readOut ↔ ∀ e ∈ es, ¬ o.Leaks e := by
  induction h with
  | nil => simp
  | cons hd _ ih => rw [List.map_cons, List.cons.injEq, List.forall_mem_cons, hd.eq_readOut_iff, ih]

lemma refuses_get_iff : o.Refuses .get e ↔
    ∀ p, o.property? e.epc = some p → p.access.readable = false := by
  have hw : ¬ Service.get.Writes := nofun
  constructor
  · intro h p hp
    rcases (refuses_iff hp).mp h with hn | ⟨hwrites, _⟩
    · exact Bool.eq_false_iff.mpr fun hr => hn (.read rfl hr)
    · exact absurd hwrites hw
  · intro h
    cases hp : o.property? e.epc with
    | none => exact .missing hp
    | some p =>
      apply Refuses.denied p hp
      intro hr
      rw [← Property.allows_iff .get] at hr
      exact absurd (h p hp) (Bool.not_eq_false _ ▸ hr)

end Object

namespace Request

lemma discloses_refusedEntry {s : Service} (hw : ¬ s.Writes) (o : Object) (e : Entry) :
    o.Discloses e (refusedEntry o s e) := by
  rw [refusedEntry, if_neg (mt Service.isWriteClass_iff.mp hw)]
  cases hp : o.property? e.epc with
  | none => exact .missing hp
  | some p =>
    cases hr : p.access.readable with
    | true => simpa [Property.isReadable, hr] using Object.Discloses.readable hp hr
    | false =>
      cases ha : p.access.announceable with
      | true =>
        simpa [Property.isReadable, Property.isAnnounceable, hr, ha] using
          Object.Discloses.announced hp hr ha
      | false =>
        simpa [Property.isReadable, Property.isAnnounceable, hr, ha, Entry.empty] using
          Object.Discloses.withheld hp hr ha

lemma discloses_refused {s : Service} (hw : ¬ s.Writes) (o : Object) (es : List Entry) :
    List.Forall₂ o.Discloses es (es.map (refusedEntry o s)) := by
  rw [List.forall₂_map_right_iff, List.forall₂_same]
  exact fun e _ => discloses_refusedEntry hw o e

end Request

namespace NodeObjects

/-- A read is refused if one of its properties is missing or cannot be read. The refusal changes
nothing, and it keeps the data of all other properties back exactly if none of the properties asked
for is announced without being readable. -/
theorem refused_read_withholds_iff (n : NodeObjects) (m : Message) (out : Outbox)
    (quiet : ∀ h ∈ n.toList, h.listener = none) (hm : m.esv = .get) {h : HostedObject}
    {put : HostedObject → NodeObjects} (ha : n.Addressed m.deoj h put) :
    ((∃ a, (n.handle m out).answer = some a ∧ a.esv = .getSna) ↔
      ∃ e ∈ m.entries, ∀ p, h.object.property? e.epc = some p → p.access.readable = false) ∧
    ∀ a, (n.handle m out).answer = some a → a.esv = .getSna →
      (n.handle m out).objects = n ∧ List.Forall₂ h.object.Discloses m.entries a.entries ∧
        (a.entries = m.entries.map h.object.readOut ↔ ∀ e ∈ m.entries, ¬ h.object.Leaks e) := by
  have hx : m.esv.Exchange (some .getRes) .getSna := hm ▸ .get
  have hw : ¬ m.esv.Writes := by
    rw [hm]
    nofun
  have hrefused : (∃ e ∈ m.entries, h.object.Refuses m.esv e) ↔
      ∃ e ∈ m.entries, ∀ p, h.object.property? e.epc = some p → p.access.readable = false := by
    simp only [hm, Object.refuses_get_iff]
  rw [← hrefused, handle_addressed ha]
  by_cases hb : ∃ e ∈ m.entries, h.object.Refuses m.esv e
  · obtain ⟨reason, hs⟩ := Request.serve_refused hx hb out
    rw [hs, Request.refusal?_eq hx]
    refine ⟨iff_of_true ⟨_, rfl, rfl⟩ hb, ?_⟩
    intro a hanswer _
    obtain rfl := Option.some.inj hanswer
    have hd := Request.discloses_refused hw h.object m.entries
    exact ⟨ha.put_self, hd, Object.eq_map_readOut_iff hd⟩
  · have hok : ∀ e ∈ m.entries, ¬ h.object.Refuses m.esv e := fun e he hr => hb ⟨e, he, hr⟩
    obtain ⟨a, hanswer, hs⟩ := (Request.succeeds_iff (quiet h ha.mem) hx out).mpr hok
    have hne : ¬ ∃ a, (Request.serve h m out).answer = some a ∧ a.esv = .getSna := by
      rintro ⟨a', ha', hr⟩
      obtain rfl := Option.some.inj (hanswer.symm.trans ha')
      rw [hs] at hr
      exact absurd hr (by decide)
    exact ⟨iff_of_false hne hb, fun a ha' hr => absurd ⟨a, ha', hr⟩ hne⟩

theorem refused_read_withholds_lock :
    (∀ h ∈ (LocalNode.lockNode [1, 2, 3, 4]).objects.toList, h.listener = none) ∧
      ∃ a, ((LocalNode.lockNode [1, 2, 3, 4]).objects.handle
          (.readRequest .controller ⟨0x02, 0x6F, 0x01⟩ [0x80, 0xF0, 0xF1]) {}).answer = some a ∧
        a.esv = .getSna ∧ a.entries = [⟨0x80, [0x30]⟩, ⟨0xF0, []⟩, ⟨0xF1, []⟩] := by
  have quiet : ∀ h ∈ (LocalNode.lockNode [1, 2, 3, 4]).objects.toList, h.listener = none := by
    simp [LocalNode.lockNode, toList]
  obtain ⟨put, ha⟩ := exists_addressed
    (show (LocalNode.lockNode [1, 2, 3, 4]).objects.find? ⟨0x02, 0x6F, 0x01⟩ =
      some { object := LocalNode.lock [1, 2, 3, 4] } from rfl)
  obtain ⟨hrefused, hentries⟩ := refused_read_withholds_iff _
    (.readRequest .controller ⟨0x02, 0x6F, 0x01⟩ [0x80, 0xF0, 0xF1]) {} quiet rfl ha
  have hmissing : (LocalNode.lock [1, 2, 3, 4]).property? 0xF1 = none := by decide +kernel
  have hleaks : ∀ e ∈ [Entry.empty 0x80, .empty 0xF0, .empty 0xF1],
      ¬ (LocalNode.lock [1, 2, 3, 4]).Leaks e := by
    decide +kernel
  obtain ⟨a, hanswer, hs⟩ := hrefused.mpr ⟨.empty 0xF1, by simp [Message.readRequest], by
    intro p hp
    rw [Entry.empty, hmissing] at hp
    cases hp⟩
  have he := (hentries a hanswer hs).2.2.mpr hleaks
  refine ⟨quiet, a, hanswer, hs, he.trans ?_⟩
  decide +kernel

theorem not_refused_read_withholds :
    ¬ ∀ (n : NodeObjects) (m : Message) (h : HostedObject) (put : HostedObject → NodeObjects)
      (a : Message), (∀ h ∈ n.toList, h.listener = none) → m.esv = .get →
        n.Addressed m.deoj h put → (n.handle m {}).answer = some a → a.esv = .getSna →
          a.entries = m.entries.map h.object.readOut := by
  intro hall
  obtain ⟨put, ha⟩ := exists_addressed
    (show (LocalNode.new {} (.replicate 13 0) 0).objects.find? .nodeProfile =
      some _ from rfl)
  have he := hall _ (.readRequest .controller .nodeProfile [0x80, 0xD5]) _ put _
    (by simp [LocalNode.new, toList]) rfl ha rfl rfl
  exact absurd he (by decide +kernel)

end NodeObjects

end EchonetLite
