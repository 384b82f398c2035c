import EchonetLite.Proofs.Node.Confinement

/-! Data that can neither be read nor is announced stays inside a node on which no listener answers.
Two nodes that differ in such data alone cannot be told apart by messages. -/

namespace EchonetLite

structure Property.Alike (p p' : Property) : Prop where
  rest : { p' with data := p.data } = p
  length : p'.data.length = p.data.length
  shown : p.isReadable = true ∨ p.isAnnounceable = true → p'.data = p.data

namespace Property

variable {p p' : Property}

lemma Alike.refl (p : Property) : p.Alike p := ⟨rfl, rfl, fun _ => rfl⟩

lemma Alike.epc (h : p.Alike p') : p'.epc = p.epc := by rw [← h.rest]

lemma Alike.access (h : p.Alike p') : p'.access = p.access := by rw [← h.rest]

lemma Alike.allows (h : p.Alike p') (s : Service) : p'.allows s = p.allows s := by
  simp only [Property.allows, isReadable, isWritable, isAnnounceable, h.access]

lemma Alike.write (h : p.Alike p') (es : List Entry) :
    ({ p with data := (Entry.lastData? es p.epc).getD p.data } : Property).Alike
      { p' with data := (Entry.lastData? es p'.epc).getD p'.data } := by
  rw [h.epc]
  cases Entry.lastData? es p.epc with
  | none => exact ⟨by rw [← h.rest], h.length, h.shown⟩
  | some data => exact ⟨by rw [← h.rest], rfl, fun _ => rfl⟩

end Property

lemma PropertyTable.alike_find? {t t' : PropertyTable}
    (h : List.Forall₂ Property.Alike t.toList t'.toList) (epc : UInt8) :
    (t.find? epc = none ∧ t'.find? epc = none) ∨
      ∃ p p', t.find? epc = some p ∧ t'.find? epc = some p' ∧ p.Alike p' := by
  rw [find?, find?]
  generalize t.toList = list at h
  generalize t'.toList = list' at h
  induction h with
  | nil => exact .inl ⟨rfl, rfl⟩
  | @cons p p' list list' hp _ ih =>
    rw [List.find?_cons, List.find?_cons, hp.epc]
    split
    · exact .inr ⟨p, p', rfl, rfl, hp⟩
    · exact ih

structure Object.Alike (o o' : Object) : Prop where
  properties : List.Forall₂ Property.Alike o.properties.toList o'.properties.toList
  rest : { o' with properties := o.properties } = o

namespace Object

variable {o o' : Object} {m : Message} {e : Entry}

lemma Alike.code (h : o.Alike o') : o'.code = o.code := by rw [← h.rest]

lemma Alike.property? (h : o.Alike o') (epc : UInt8) :
    (o.property? epc = none ∧ o'.property? epc = none) ∨
      ∃ p p', o.property? epc = some p ∧ o'.property? epc = some p' ∧ p.Alike p' :=
  PropertyTable.alike_find? h.properties epc

lemma alike_store {epc : UInt8} {p : Property} {data : Bytes} (hp : o.property? epc = some p)
    (hr : p.isReadable = false) (ha : p.isAnnounceable = false)
    (hl : data.length = p.data.length) : o.Alike (o.store epc data) where
  properties := by
    apply List.forall₂_map_right_iff.mpr
    apply List.forall₂_same.mpr
    intro q hq
    dsimp only
    split
    case isTrue he =>
      have hf := PropertyTable.find?_of_mem hq
      rw [he] at hf
      obtain rfl := Option.some.inj (hf.symm.trans hp)
      refine ⟨rfl, hl, ?_⟩
      rintro (h | h)
      · rw [hr] at h
        cases h
      · rw [ha] at h
        cases h
    case isFalse => exact .refl q
  rest := rfl

lemma Alike.storeAll (h : o.Alike o') (es : List Entry) :
    (o.storeAll es).Alike (o'.storeAll es) := by
  rw [storeAll_eq, storeAll_eq]
  refine ⟨?_, by rw [← h.rest]⟩
  apply List.forall₂_map_left_iff.mpr
  apply List.forall₂_map_right_iff.mpr
  exact h.properties.imp fun _ _ hp => hp.write es

lemma Alike.after (h : o.Alike o') (m : Message) : (o.after m).Alike (o'.after m) := by
  rw [Object.after, Object.after]
  split
  · exact h.storeAll m.entries
  · exact h

lemma Alike.announce (h : o.Alike o') (e : Entry) (out : Outbox) :
    o'.announce e out = o.announce e out := by
  have ha : (o'.property? e.epc).any Property.isAnnounceable =
      (o.property? e.epc).any Property.isAnnounceable := by
    rcases h.property? e.epc with ⟨hp, hp'⟩ | ⟨p, p', hp, hp', ha⟩
    · rw [hp, hp']
    · simp only [hp, hp', Option.any_some, Property.isAnnounceable, ha.access]
  have ht : o'.attached = o.attached := by rw [← h.rest]
  rw [Object.announce, Object.announce, ha, ht, h.code]

lemma Alike.announceAll (h : o.Alike o') (m : Message) (out : Outbox) :
    o'.announceAll m out = o.announceAll m out := by
  have hf : (fun out e => o'.announce e out) = fun out e => o.announce e out := by
    funext out e
    exact h.announce e out
  rw [Object.announceAll, Object.announceAll, hf]

lemma Alike.data?_after (h : o.Alike o') (he : e ∈ m.entries) (ha : ¬ o.Refuses m.esv e) :
    (o'.after m).data? e.epc = (o.after m).data? e.epc := by
  rcases h.property? e.epc with ⟨hp, _⟩ | ⟨p, p', hp, hp', hpp⟩
  · exact absurd (.missing hp) ha
  rw [Object.after, Object.after]
  split
  case isTrue hw =>
    obtain ⟨data, hd⟩ := Entry.exists_lastData? he
    rw [Object.data?, Object.data?, property?_storeAll, property?_storeAll, hp, hp', hd]
    rfl
  case isFalse hw =>
    rw [Object.data?, Object.data?, hp, hp']
    refine congrArg some (hpp.shown ?_)
    rw [refuses_iff hp, not_or, not_not] at ha
    rcases ha.1 with ⟨hs, _⟩ | ⟨_, hr⟩ | ⟨_, hi⟩ | ⟨_, _, hr⟩
    · rcases hs with hs | hs <;> exact absurd (hs ▸ by constructor) hw
    · exact .inl hr
    · exact .inr hi
    · exact .inl hr

end Object

namespace Request

variable {o o' : Object} {m : Message}

lemma alike_entryFault? (h : o.Alike o') (s : Service) (e : Entry) :
    entryFault? o' s e = entryFault? o s e := by
  rw [entryFault?, entryFault?]
  rcases h.property? e.epc with ⟨hp, hp'⟩ | ⟨p, p', hp, hp', ha⟩
  · rw [hp, hp']
  · rw [hp, hp']
    dsimp only
    rw [ha.allows, Property.size, Property.size, ha.length]

lemma alike_fault? (h : o.Alike o') (m : Message) : fault? o' m = fault? o m := by
  have hf : entryFault? o' m.esv = entryFault? o m.esv := funext fun e => alike_entryFault? h m.esv e
  rw [fault?, fault?, hf]

lemma alike_refusedEntry (h : o.Alike o') (s : Service) (e : Entry) :
    refusedEntry o' s e = refusedEntry o s e := by
  rw [refusedEntry, refusedEntry]
  rcases h.property? e.epc with ⟨hp, hp'⟩ | ⟨p, p', hp, hp', ha⟩
  · rw [hp, hp']
  · have hs : (p'.isReadable || p'.isAnnounceable) = (p.isReadable || p.isAnnounceable) := by
      simp only [Property.isReadable, Property.isAnnounceable, ha.access]
    rw [hp, hp']
    dsimp only
    rw [hs]
    by_cases hc : (p.isReadable || p.isAnnounceable) = true
    · rw [if_pos hc, if_pos hc, ha.shown (Bool.or_eq_true_iff.mp hc)]
    · rw [if_neg hc, if_neg hc]

lemma alike_refusal? (h : o.Alike o') (m : Message) : refusal? o' m = refusal? o m := by
  have hf : refusedEntry o' m.esv = refusedEntry o m.esv :=
    funext fun e => alike_refusedEntry h m.esv e
  rw [refusal?, refusal?, hf, h.code]

lemma alike_answer? (h : o.Alike o') (ha : ∀ e ∈ m.entries, ¬ o.Refuses m.esv e) :
    answer? (o'.after m) m = answer? (o.after m) m := by
  have hd : m.entries.map (fun e => (⟨e.epc, ((o'.after m).data? e.epc).getD []⟩ : Entry)) =
      m.entries.map fun e => ⟨e.epc, ((o.after m).data? e.epc).getD []⟩ := by
    apply List.map_congr_left
    intro e he
    rw [h.data?_after he (ha e he)]
  rw [answer?, answer?, hd, (h.after m).code]

end Request

structure HostedObject.Alike (h h' : HostedObject) : Prop where
  object : h.object.Alike h'.object
  listener : h'.listener = h.listener

namespace HostedObject

variable {h h' : HostedObject}

lemma Alike.code (ha : h.Alike h') : h'.code = h.code := ha.object.code

lemma Alike.serve (ha : h.Alike h') (hl : h.listener = none) (m : Message) (out : Outbox) :
    (Request.serve h m out).object.Alike (Request.serve h' m out).object ∧
      { Request.serve h' m out with object := (Request.serve h m out).object } =
        Request.serve h m out := by
  have hf := Request.alike_fault? ha.object m
  cases Request.verdict h.object m with
  | acknowledged hi =>
    rw [Request.serve_infC hi, Request.serve_infC hi]
    refine ⟨ha.object, ?_⟩
    simp only [Request.acknowledgement, ha.code]
  | dropped hi hr =>
    rw [Request.serve_dropped hi hr, Request.serve_dropped hi hr]
    exact ⟨ha.object, rfl⟩
  | refused success refusal hx hb =>
    obtain ⟨reason, hs⟩ := Request.exists_fault hx hb
    rw [Request.serve_fault hx hs, Request.serve_fault hx (hf.trans hs)]
    refine ⟨ha.object, ?_⟩
    simp only [Request.alike_refusal? ha.object, ha.code]
  | accepted success refusal hx hok =>
    have hok' := (Request.fault?_eq_none_iff hx).mp
      (hf.trans ((Request.fault?_eq_none_iff hx).mpr hok))
    rw [Request.serve_quiet hl hx hok, Request.serve_quiet (ha.listener.trans hl) hx hok']
    refine ⟨ha.object.after m, ?_⟩
    simp only [Request.alike_answer? ha.object hok, ha.object.announceAll, ha.code]

end HostedObject

namespace NodeObjects

lemma Corresponds.handle {n n' : NodeObjects} (hn : n.Corresponds HostedObject.Alike n')
    (quiet : ∀ h ∈ n.toList, h.listener = none) (m : Message) (out : Outbox) :
    (n.handle m out).objects.Corresponds HostedObject.Alike (n'.handle m out).objects ∧
      { n'.handle m out with objects := (n.handle m out).objects } = n.handle m out := by
  have hc : ∀ g g', HostedObject.Alike g g' → g'.code = g.code := fun g g' hg => hg.code
  rcases n.exists_addressed_or m.deoj with ⟨g, put, ha⟩ | hu
  · obtain ⟨g', put', ha', hg, hput⟩ := hn.addressed hc ha
    obtain ⟨ho, hs⟩ := hg.serve (quiet g ha.mem) m out
    rw [handle_addressed ha, handle_addressed ha', ← hs]
    exact ⟨hput _ _ ⟨ho, hg.listener⟩, rfl⟩
  · rw [handle_unaddressed hu, handle_unaddressed (hn.unaddressed hc hu)]
    exact ⟨hn, rfl⟩

end NodeObjects

/-- The two nodes differ at most in data that can neither be read nor is announced. -/
structure LocalNode.Alike (n n' : LocalNode) : Prop where
  objects : n.objects.Corresponds HostedObject.Alike n'.objects
  rest : { n' with objects := n.objects } = n

namespace LocalNode

variable {n n' : LocalNode}

lemma Alike.outbox (h : n.Alike n') : n'.outbox = n.outbox := by rw [← h.rest]

lemma Alike.handle (h : n.Alike n') (quiet : ∀ h ∈ n.objects.toList, h.listener = none)
    (m : Message) : (n.handle m).1.Alike (n'.handle m).1 ∧ (n'.handle m).2 = (n.handle m).2 := by
  obtain ⟨ho, hs⟩ := h.objects.handle quiet m n.outbox
  rw [LocalNode.handle, LocalNode.handle, h.outbox, ← hs]
  exact ⟨⟨ho, by rw [← h.rest]⟩, rfl⟩

lemma Alike.handleAll (h : n.Alike n') (quiet : ∀ h ∈ n.objects.toList, h.listener = none)
    (messages : List Message) : (n.handleAll messages).Alike (n'.handleAll messages) := by
  induction messages generalizing n n' with
  | nil => exact h
  | cons m messages ih =>
    have hm := NodeObjects.confined_handle quiet m n.outbox
    exact ih (h.handle quiet m).1 (hm.quiet (fun _ _ h => h.listener) quiet)

/-- Of two nodes that differ in data alone that can neither be read nor is announced, both do the
same with every message of a run: they answer it alike, they have queued the same announcements, and
they go on to differ in such data alone. -/
theorem handleAll_alike (h : n.Alike n') (quiet : ∀ h ∈ n.objects.toList, h.listener = none)
    (messages : List Message) :
    (n.handleAll messages).Alike (n'.handleAll messages) ∧
      (n'.handleAll messages).outbox = (n.handleAll messages).outbox ∧
      ∀ m, ((n'.handleAll messages).handle m).2 = ((n.handleAll messages).handle m).2 := by
  have hr := h.handleAll quiet messages
  have hq := (confined_handleAll quiet messages).1.quiet (fun _ _ h => h.listener) quiet
  exact ⟨hr, hr.outbox, fun m => (hr.handle hq m).2⟩

def lock (key : Bytes) : Object :=
  (Object.device ⟨0x02, 0x6F, 0x01⟩).edit (.addWithData 0xF0 .write key)

def lockNode (key : Bytes) : LocalNode :=
  { settings := {}, objects := { devices := [{ object := lock key }] } }

lemma alike_lock : (lock [1, 2, 3, 4]).Alike (lock [5, 6, 7, 8]) := by
  have he : lock [5, 6, 7, 8] = (lock [1, 2, 3, 4]).store 0xF0 [5, 6, 7, 8] := by decide +kernel
  have hp : (lock [1, 2, 3, 4]).property? 0xF0 =
      some ⟨0xF0, .write, [1, 2, 3, 4], some ⟨0x02, 0x6F, 0x01⟩⟩ := by decide +kernel
  rw [he]
  exact Object.alike_store hp rfl rfl rfl

theorem handleAll_alike_lockNode :
    (lockNode [1, 2, 3, 4]).Alike (lockNode [5, 6, 7, 8]) ∧
      (∀ h ∈ (lockNode [1, 2, 3, 4]).objects.toList, h.listener = none) ∧
      ∀ messages m, (((lockNode [5, 6, 7, 8]).handleAll messages).handle m).2 =
        (((lockNode [1, 2, 3, 4]).handleAll messages).handle m).2 := by
  have h : (lockNode [1, 2, 3, 4]).Alike (lockNode [5, 6, 7, 8]) :=
    ⟨⟨.nil, .cons ⟨alike_lock, rfl⟩ .nil⟩, rfl⟩
  have quiet : ∀ h ∈ (lockNode [1, 2, 3, 4]).objects.toList, h.listener = none := by
    simp [lockNode, NodeObjects.toList]
  exact ⟨h, quiet, fun messages => (handleAll_alike h quiet messages).2.2⟩

end LocalNode

end EchonetLite
