import EchonetLite.Proofs.Node.Sequences

/-! A message that is delivered twice does no harm. The second delivery finds the data of the first
one and puts the same data in its place. -/

namespace EchonetLite

namespace Object

variable {o : Object} {m : Message} {es : List Entry} {e : Entry}

lemma storeAll_storeAll (o : Object) (es : List Entry) :
    (o.storeAll es).storeAll es = o.storeAll es := by
  rw [storeAll_eq o es, storeAll_eq, PropertyTable.mapData_mapData]
  congr 2
  funext p
  cases Entry.lastData? es p.epc <;> rfl

lemma after_after (o : Object) (m : Message) : (o.after m).after m = o.after m := by
  by_cases hw : m.esv.Writes
  · simp only [after, if_pos hw, storeAll_storeAll]
  · simp only [after, if_neg hw]

lemma not_refuses_storeAll {s : Service} (he : e ∈ es)
    (same : ∀ f ∈ es, f.epc = e.epc → f.edt.length = e.edt.length) (ha : ¬ o.Refuses s e) :
    ¬ (o.storeAll es).Refuses s e := by
  obtain ⟨p, hp⟩ := exists_property ha
  obtain ⟨data, hd⟩ := Entry.exists_lastData? he
  obtain ⟨f, hf, hc, rfl⟩ := Entry.exists_of_lastData? hd
  rw [refuses_storeAll_iff hp, hd, Option.getD_some, same f hf hc]
  rw [refuses_iff hp] at ha
  rintro (hn | ⟨_, _, hl⟩)
  · exact ha (.inl hn)
  · exact hl rfl

lemma not_refuses_after
    (same : ∀ e ∈ m.entries, ∀ f ∈ m.entries, e.epc = f.epc → e.edt.length = f.edt.length)
    (ha : ∀ e ∈ m.entries, ¬ o.Refuses m.esv e) :
    ∀ e ∈ m.entries, ¬ (o.after m).Refuses m.esv e := by
  intro e he
  rw [after]
  split
  · exact not_refuses_storeAll he (fun f hf => same f hf e he) (ha e he)
  · exact ha e he

end Object

namespace Request

variable {h : HostedObject} {m : Message}

lemma serve_again (hl : h.listener = none)
    (same : ∀ e ∈ m.entries, ∀ f ∈ m.entries, e.epc = f.epc → e.edt.length = f.edt.length)
    (out out' : Outbox) :
    (serve { h with object := (serve h m out).object } m out').object = (serve h m out).object ∧
      (serve { h with object := (serve h m out).object } m out').answer =
        (serve h m out).answer := by
  rcases unchanged_or_accepted h m out with ho | ⟨success, refusal, hx, ha⟩
  · obtain ⟨ho', hs⟩ := serve_outbox hl m out out'
    rw [ho]
    exact ⟨ho'.trans ho, hs⟩
  · have hs := serve_quiet (h := { h with object := h.object.after m }) hl hx
      (Object.not_refuses_after same ha) out'
    rw [Object.after_after] at hs
    rw [serve_quiet hl hx ha, hs]
    exact ⟨rfl, rfl⟩

end Request

namespace NodeObjects

/-- A message whose entries for one property all have data of one length can be delivered once more:
it is answered as before, and the objects stay as the first delivery has left them. -/
theorem handle_redelivered (n : NodeObjects) (m : Message) (out : Outbox)
    (quiet : ∀ h ∈ n.toList, h.listener = none)
    (same : ∀ e ∈ m.entries, ∀ f ∈ m.entries, e.epc = f.epc → e.edt.length = f.edt.length) :
    (n.handleAfter m m out).answer = (n.handle m out).answer ∧
      (n.handleAfter m m out).objects = (n.handle m out).objects := by
  rw [handleAfter]
  rcases n.exists_addressed_or m.deoj with ⟨h, put, ha⟩ | hn
  · have hl := quiet h ha.mem
    have ha' := ha.put_addressed (g := { h with object := (Request.serve h m out).object })
      (Request.code_serve hl m out)
    obtain ⟨ho, hs⟩ := Request.serve_again hl same out (Request.serve h m out).outbox
    rw [handle_addressed ha, handle_addressed ha', ho]
    exact ⟨hs, rfl⟩
  · rw [handle_unaddressed hn, handle_unaddressed hn]
    exact ⟨rfl, rfl⟩

theorem handle_redelivered_dimmer :
    (∀ h ∈ LocalNode.dimmer.objects.toList, h.listener = none) ∧
      (∃ a, (LocalNode.dimmer.objects.handleAfter (LocalNode.dim [[0x32], [0x4B]])
        (LocalNode.dim [[0x32], [0x4B]]) {}).answer = some a ∧ a.esv = .setRes) ∧
      (LocalNode.dimmer.objects.handleAfter (LocalNode.dim [[0x32], [0x4B]])
        (LocalNode.dim [[0x32], [0x4B]]) {}).objects =
        (LocalNode.dimmer.objects.handle (LocalNode.dim [[0x32], [0x4B]]) {}).objects := by
  obtain ⟨ha, ho⟩ := handle_redelivered LocalNode.dimmer.objects (LocalNode.dim [[0x32], [0x4B]])
    {} LocalNode.quiet_dimmer (by decide)
  refine ⟨LocalNode.quiet_dimmer, ?_, ho⟩
  rw [ha]
  exact Option.map_eq_some_iff.mp (by decide +kernel)

end NodeObjects

end EchonetLite
