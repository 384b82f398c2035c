import EchonetLite.Node.Local
import EchonetLite.Proofs.Node.Serving

/-! A request is carried out as a whole or not at all. -/

namespace EchonetLite

namespace LocalNode

def Accepts (n : LocalNode) (m : Message) : Prop :=
  ∃ h put, n.objects.Addressed m.deoj h put ∧ ∀ e ∈ m.entries, ¬ h.object.Refuses m.esv e

variable {n : LocalNode} {m : Message} {h : HostedObject} {put : HostedObject → NodeObjects}

lemma handle_addressed (ha : n.objects.Addressed m.deoj h put) :
    (n.handle m).1 =
      { n with
        objects := put { h with object := (Request.serve h m n.outbox).object }
        outbox := (Request.serve h m n.outbox).outbox } := by
  simp only [handle, NodeObjects.handle_addressed ha]

lemma handle_eq_self (ha : n.objects.Addressed m.deoj h put)
    (ho : (Request.serve h m n.outbox).object = h.object)
    (hb : (Request.serve h m n.outbox).outbox = n.outbox) : (n.handle m).1 = n := by
  rw [handle_addressed ha, ho, hb, ha.put_self]

lemma writes_of_handle_ne (quiet : ∀ h ∈ n.objects.toList, h.listener = none)
    (hne : (n.handle m).1 ≠ n) : m.esv.Writes ∧ n.Accepts m := by
  rcases n.objects.exists_addressed_or m.deoj with ⟨h, put, ha⟩ | hn
  · cases Request.verdict h.object m with
    | acknowledged hi =>
      rw [handle_eq_self ha (by rw [Request.serve_infC hi]) (by rw [Request.serve_infC hi])] at hne
      exact absurd rfl hne
    | dropped hi hr =>
      have hs := Request.serve_dropped hi hr h n.outbox
      exact absurd (handle_eq_self ha (by rw [hs]) (by rw [hs])) hne
    | refused success refusal hx hb =>
      obtain ⟨reason, hs⟩ := Request.serve_refused hx hb n.outbox
      exact absurd (handle_eq_self ha (by rw [hs]) (by rw [hs])) hne
    | accepted success refusal hx hok =>
      have hs := Request.serve_quiet (quiet h ha.mem) hx hok n.outbox
      by_cases hw : m.esv.Writes
      · exact ⟨hw, h, put, ha, hok⟩
      · have ho : h.object.after m = h.object := if_neg hw
        have hb : h.object.announceAll m n.outbox = n.outbox := if_neg hw
        exact absurd (handle_eq_self ha (by rw [hs, ho]) (by rw [hs, hb])) hne
  · have hs : (n.handle m).1 = n := by
      simp only [handle, NodeObjects.handle_unaddressed hn]
    exact absurd hs hne

lemma answer_of_accepts {s refusal : Service} (quiet : ∀ h ∈ n.objects.toList, h.listener = none)
    (hx : m.esv.Exchange (some s) refusal) (hacc : n.Accepts m) :
    ∃ a, (n.handle m).2.answer = some a ∧ a.esv = s := by
  obtain ⟨h, put, ha, hok⟩ := hacc
  simp only [handle, NodeObjects.handle_addressed ha,
    Request.serve_quiet (quiet h ha.mem) hx hok, Request.answer?_eq hx]
  exact ⟨_, rfl, rfl⟩

/-- A message that is neither answered with success nor an accepted write without answer leaves the
node as it was, and so does a read. An accepted write changes the data that it writes in the object
that it addresses, and no other part of the objects. -/
theorem handle_all_or_nothing (n : LocalNode) (m : Message)
    (quiet : ∀ h ∈ n.objects.toList, h.listener = none) :
    ((∀ a, (n.handle m).2.answer = some a →
        a.esv ≠ .setRes ∧ a.esv ≠ .getRes ∧ a.esv ≠ .inf ∧ a.esv ≠ .setGetRes) →
      ¬ (m.esv = .setI ∧ n.Accepts m) → (n.handle m).1 = n) ∧
    (m.esv = .get ∨ m.esv = .infReq → (n.handle m).1 = n) ∧
    ∀ h put, n.objects.Addressed m.deoj h put → m.esv.Writes →
      (∀ e ∈ m.entries, ¬ h.object.Refuses m.esv e) →
        ∃ o outbox, (n.handle m).1 = { n with objects := put { h with object := o }, outbox } ∧
          h.object.Rewritten m.entries o := by
  refine ⟨?_, ?_, ?_⟩
  · intro hn hsi
    apply Classical.byContradiction
    intro hne
    obtain ⟨hw, hacc⟩ := writes_of_handle_ne quiet hne
    generalize he : m.esv = esv at hw
    cases hw with
    | setI => exact hsi ⟨he, hacc⟩
    | setC =>
      obtain ⟨a, ha, hs⟩ := answer_of_accepts quiet (by rw [he]; exact .setC) hacc
      exact (hn a ha).1 hs
    | setGet =>
      obtain ⟨a, ha, hs⟩ := answer_of_accepts quiet (by rw [he]; exact .setGet) hacc
      exact (hn a ha).2.2.2 hs
  · intro hr
    apply Classical.byContradiction
    intro hne
    obtain ⟨hw, _⟩ := writes_of_handle_ne quiet hne
    rcases hr with he | he <;> rw [he] at hw
    · exact absurd hw (by decide)
    · exact absurd hw (by decide)
  · intro h put ha hw hok
    obtain ⟨success, refusal, hx⟩ := hw.exchange
    refine ⟨h.object.after m, h.object.announceAll m n.outbox, ?_, ?_⟩
    · rw [handle_addressed ha, Request.serve_quiet (quiet h ha.mem) hx hok]
    · rw [Object.after, if_pos hw]
      exact Object.rewritten_storeAll fun e he => Object.exists_property (hok e he)

theorem handle_all_or_nothing_lamps :
    (∀ h ∈ NodeObjects.lamps.toList, h.listener = none) ∧
      (handle { settings := {}, objects := .lamps }
        { seoj := .controller, deoj := ⟨0x02, 0x90, 0x01⟩, esv := .setC,
          entries := [⟨0x81, [0x08]⟩, ⟨0x80, [0x31]⟩] }).1 =
        { settings := {}, objects := .lamps } := by
  have quiet : ∀ h ∈ NodeObjects.lamps.toList, h.listener = none := by
    simp [NodeObjects.lamps, NodeObjects.toList]
  refine ⟨quiet, (handle_all_or_nothing _ _ quiet).1 ?_ (fun h => absurd h.1 (by decide))⟩
  intro a ha
  have hs : (some a).map Message.esv = some .setCSna := by
    rw [← ha]
    decide
  rw [Option.some.inj hs]
  decide

end LocalNode

end EchonetLite
