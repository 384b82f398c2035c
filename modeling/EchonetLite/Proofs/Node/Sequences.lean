import EchonetLite.Proofs.Node.Confinement

/-! A message that is handled right after another one. Where no listener answers, the first message
leaves every object in its place and every access as it was, so that only the data it has written
can make a difference to the second one. -/

namespace EchonetLite

namespace Object

variable {o : Object} {es : List Entry} {s : Service} {e : Entry}

lemma refuses_storeAll_iff {p : Property} (hp : o.property? e.epc = some p) (es : List Entry) :
    (o.storeAll es).Refuses s e ↔ ¬ p.access.Permits s ∨
      s.Writes ∧ ((Entry.lastData? es e.epc).getD p.data).length ≠ 0 ∧
        ((Entry.lastData? es e.epc).getD p.data).length ≠ e.edt.length := by
  have hp' : (o.storeAll es).property? e.epc =
      some { p with data := (Entry.lastData? es e.epc).getD p.data } := by
    rw [property?_storeAll, hp, Option.map_some]
  exact refuses_iff hp'

lemma refuses_storeAll_of_missing (hp : o.property? e.epc = none) (es : List Entry) :
    (o.storeAll es).Refuses s e :=
  .missing (by rw [property?_storeAll, hp, Option.map_none])

lemma refuses_storeAll_of_reads (hs : ¬ s.Writes) (es : List Entry) :
    (o.storeAll es).Refuses s e ↔ o.Refuses s e := by
  cases hp : o.property? e.epc with
  | none => exact iff_of_true (refuses_storeAll_of_missing hp es) (.missing hp)
  | some p => simp only [refuses_storeAll_iff hp, refuses_iff hp, hs, false_and]

end Object

namespace Request

variable {h : HostedObject}

lemma code_serve (hl : h.listener = none) (m : Message) (out : Outbox) :
    (serve h m out).object.code = h.code := by
  rw [(serve_written hl m out).1, Object.storeAll_eq]

lemma serve_outbox (hl : h.listener = none) (m : Message) (out out' : Outbox) :
    (serve h m out').object = (serve h m out).object ∧
      (serve h m out').answer = (serve h m out).answer := by
  cases verdict h.object m with
  | acknowledged hi =>
    rw [serve_infC hi, serve_infC hi]
    exact ⟨rfl, rfl⟩
  | dropped hi hr =>
    rw [serve_dropped hi hr, serve_dropped hi hr]
    exact ⟨rfl, rfl⟩
  | refused success refusal hx hb =>
    obtain ⟨reason, hf⟩ := exists_fault hx hb
    rw [serve_fault hx hf, serve_fault hx hf]
    exact ⟨rfl, rfl⟩
  | accepted success refusal hx ha =>
    rw [serve_quiet hl hx ha, serve_quiet hl hx ha]
    exact ⟨rfl, rfl⟩

end Request

namespace NodeObjects

variable {n : NodeObjects} {code : ObjectCode} {h g : HostedObject}
  {put : HostedObject → NodeObjects}

def handleAfter (n : NodeObjects) (before m : Message) (out : Outbox) : Handled :=
  (n.handle before out).objects.handle m (n.handle before out).outbox

lemma Addressed.put_addressed (ha : n.Addressed code h put) (hg : g.code = h.code) :
    (put g).Addressed code g put := by
  cases ha with
  | profile hb hh => exact .profile hb (hg ▸ hh)
  | device hb hh => exact .device hb (hg ▸ hh)

lemma Addressed.put_storeAll (ha : n.Addressed code h put) (es : List Entry) :
    (put { h with object := h.object.storeAll es }).Addressed code
      { h with object := h.object.storeAll es } put :=
  ha.put_addressed (by rw [HostedObject.code, Object.storeAll_eq])

lemma handle_outbox (quiet : ∀ h ∈ n.toList, h.listener = none) (m : Message)
    (out out' : Outbox) :
    (n.handle m out').objects = (n.handle m out).objects ∧
      (n.handle m out').answer = (n.handle m out).answer := by
  rcases n.exists_addressed_or m.deoj with ⟨h, put, ha⟩ | hn
  · obtain ⟨ho, hs⟩ := Request.serve_outbox (quiet h ha.mem) m out out'
    rw [handle_addressed ha, handle_addressed ha]
    exact ⟨congrArg (fun o => put { h with object := o }) ho, hs⟩
  · rw [handle_unaddressed hn, handle_unaddressed hn]
    exact ⟨rfl, rfl⟩

lemma unaddressed_handle (quiet : ∀ h ∈ n.toList, h.listener = none)
    (hn : ∀ h ∈ n.toList, ¬ code.Covers h.code) (m : Message) (out : Outbox) :
    ∀ h ∈ (n.handle m out).objects.toList, ¬ code.Covers h.code :=
  (confined_handle quiet m out).unaddressed (fun _ _ hc => hc.code) hn

end NodeObjects

lemma LocalNode.quiet_dimmer : ∀ h ∈ dimmer.objects.toList, h.listener = none := by
  simp [dimmer, NodeObjects.toList]

end EchonetLite
