import EchonetLite.Proofs.Node.Sequences

/-! A message that writes several entries, and messages that write them one at a time. A message is
checked as a whole before the first of its entries is written. So a property without data takes data
of different lengths from one message, which it does not take from one message after the other. -/

namespace EchonetLite

def Entry.Admits (e f : Entry) : Prop :=
  f.epc = e.epc → e.edt ≠ [] → f.edt.length = e.edt.length

namespace Message

def only (m : Message) (e : Entry) : Message := { m with entries := [e] }

def singly (m : Message) : List Message := m.entries.map m.only

end Message

namespace Object

variable {o : Object} {e f : Entry} {es : List Entry}

def TakesEach (o : Object) (es : List Entry) : Prop :=
  ∀ before e after, es = before ++ e :: after → ¬ (o.storeAll before).Refuses .setC e

lemma takesEach_nil (o : Object) : o.TakesEach [] := by
  intro before e after h
  cases before <;> cases h

lemma takesEach_cons :
    o.TakesEach (e :: es) ↔ ¬ o.Refuses .setC e ∧ (o.storeAll [e]).TakesEach es := by
  constructor
  · intro h
    exact ⟨h [] e es rfl, fun before f after hs => h (e :: before) f after (congrArg _ hs)⟩
  · rintro ⟨he, h⟩ before f after hs
    cases before with
    | nil =>
      obtain ⟨rfl, rfl⟩ := List.cons.inj hs
      exact he
    | cons d before =>
      obtain ⟨rfl, rfl⟩ := List.cons.inj hs
      exact h before f after rfl

lemma takes_next_iff (he : ¬ o.Refuses .setC e) :
    ¬ (o.storeAll [e]).Refuses .setC f ↔ ¬ o.Refuses .setC f ∧ e.Admits f := by
  have hw : Service.setC.Writes := .setC
  cases hp : o.property? f.epc with
  | none =>
    exact iff_of_false (not_not.mpr (refuses_storeAll_of_missing hp [e]))
      fun h => h.1 (.missing hp)
  | some p =>
    rw [refuses_storeAll_iff hp, refuses_iff hp, Entry.lastData?_cons,
      Entry.lastData?_eq_none (List.forall_mem_nil _), Option.none_or]
    -- For the same property the length is now that of `e`. If there is one, it is the length from
    -- before or there was none before, so the check from before still stands.
    by_cases hc : f.epc = e.epc
    · have had : e.Admits f ↔ (e.edt.length ≠ 0 → f.edt.length = e.edt.length) := by
        rw [Entry.Admits, ne_eq, ne_eq, List.length_eq_zero_iff]
        exact ⟨fun h => h hc, fun h _ => h⟩
      rw [refuses_iff (hc ▸ hp)] at he
      rw [if_pos hc, Option.getD_some, had]
      simp only [hw, true_and, not_or, not_not, not_and] at he ⊢
      constructor
      · rintro ⟨ha, hf⟩
        refine ⟨⟨ha, fun hz => ?_⟩, fun hz => (hf hz).symm⟩
        have hpe := he.2 hz
        rw [hpe] at hz ⊢
        exact hf hz
      · rintro ⟨⟨ha, _⟩, hf⟩
        exact ⟨ha, fun hz => (hf hz).symm⟩
    · have had : e.Admits f := fun h => absurd h hc
      rw [if_neg hc, Option.getD_none, and_iff_left had]

lemma takesEach_iff :
    o.TakesEach es ↔ (∀ e ∈ es, ¬ o.Refuses .setC e) ∧ es.Pairwise Entry.Admits := by
  induction es generalizing o with
  | nil => exact iff_of_true o.takesEach_nil ⟨List.forall_mem_nil _, .nil⟩
  | cons e es ih =>
    rw [takesEach_cons, ih, List.forall_mem_cons, List.pairwise_cons, and_assoc]
    refine and_congr_right fun he => ?_
    have hn : (∀ f ∈ es, ¬ (o.storeAll [e]).Refuses .setC f) ↔
        ∀ f ∈ es, ¬ o.Refuses .setC f ∧ e.Admits f :=
      forall₂_congr fun f _ => takes_next_iff he
    rw [hn, forall₂_and, and_assoc]

end Object

namespace NodeObjects

variable {n : NodeObjects} {m : Message} {h : HostedObject} {put : HostedObject → NodeObjects}

structure Series where
  answers : List (Option Message)
  objects : NodeObjects
  outbox : Outbox

def handleEach (n : NodeObjects) : List Message → Outbox → Series
  | [], out => ⟨[], n, out⟩
  | m :: ms, out =>
    let first := n.handle m out
    let rest := first.objects.handleEach ms first.outbox
    { rest with answers := first.answer :: rest.answers }

lemma Addressed.handleEach_only (ha : n.Addressed m.deoj h put) (hl : h.listener = none)
    (hm : m.esv = .setC) (es : List Entry) (out : Outbox) :
    ((∀ answer ∈ (n.handleEach (es.map m.only) out).answers,
        ∃ a, answer = some a ∧ a.esv = .setRes) ↔ h.object.TakesEach es) ∧
      (h.object.TakesEach es →
        (n.handleEach (es.map m.only) out).objects =
            put { h with object := h.object.storeAll es } ∧
          (n.handleEach (es.map m.only) out).outbox =
            es.foldl (fun out e => h.object.announce e out) out) := by
  induction es generalizing n h out with
  | nil =>
    exact ⟨iff_of_true (List.forall_mem_nil _) h.object.takesEach_nil,
      fun _ => ⟨ha.put_self.symm, rfl⟩⟩
  | cons e es ih =>
    have hs : (∃ a, (n.handle (m.only e) out).answer = some a ∧ a.esv = .setRes) ↔
        ¬ h.object.Refuses .setC e := by
      rw [Addressed.succeeds_iff (m := m.only e) ha hl (hm ▸ .setC : m.esv.Exchange _ .setCSna),
        ← hm]
      exact List.forall_mem_singleton
    rw [List.map_cons, handleEach, List.forall_mem_cons, hs, Object.takesEach_cons]
    by_cases he : h.object.Refuses .setC e
    · exact ⟨iff_of_false (fun h => h.1 he) fun h => h.1 he, fun h => absurd he h.1⟩
    · obtain ⟨ho, hb⟩ := Addressed.handle_write (m := m.only e) ha hl (hm ▸ .setC : m.esv.Writes)
        (List.forall_mem_singleton.mpr (hm ▸ he)) out
      obtain ⟨hiff, hstate⟩ := ih (ha.put_storeAll [e]) hl (h.object.announce e out)
      have hann : (fun out f => (h.object.storeAll [e]).announce f out) =
          fun out f => h.object.announce f out := by
        funext out f
        exact h.object.announce_store _ _ _ _
      rw [hann] at hstate
      rw [ho, hb]
      exact ⟨and_congr_right fun _ => hiff, fun ht => hstate ht.2⟩

/-- The entries of a write, each of them in a message of its own, are all answered with success
exactly if the write is and none of its entries has data of another length than an earlier one has
put into the same property. The state is then the same in the end. By the same condition no entry of
an accepted write is written that the object would have refused at that point. -/
theorem answered_singly_iff (n : NodeObjects) (m : Message) (out : Outbox)
    (quiet : ∀ h ∈ n.toList, h.listener = none) (hm : m.esv = .setC) (hne : m.entries ≠ []) :
    ((∀ answer ∈ (n.handleEach m.singly out).answers, ∃ a, answer = some a ∧ a.esv = .setRes) ↔
      (∃ a, (n.handle m out).answer = some a ∧ a.esv = .setRes) ∧
        m.entries.Pairwise Entry.Admits) ∧
    ((∀ answer ∈ (n.handleEach m.singly out).answers, ∃ a, answer = some a ∧ a.esv = .setRes) →
      (n.handleEach m.singly out).objects = (n.handle m out).objects ∧
        (n.handleEach m.singly out).outbox = (n.handle m out).outbox) ∧
    ∀ h put, n.Addressed m.deoj h put →
      (∃ a, (n.handle m out).answer = some a ∧ a.esv = .setRes) →
        (h.object.TakesEach m.entries ↔ m.entries.Pairwise Entry.Admits) := by
  have hx : m.esv.Exchange (some .setRes) .setCSna := hm ▸ .setC
  rcases n.exists_addressed_or m.deoj with ⟨h, put, ha⟩ | hn
  · have hl := quiet h ha.mem
    have hs := ha.succeeds_iff hl hx out
    rw [hm] at hs
    obtain ⟨hiff, hstate⟩ := ha.handleEach_only hl hm m.entries out
    refine ⟨?_, ?_, ?_⟩
    · rw [hs, ← Object.takesEach_iff]
      exact hiff
    · intro hall
      have ht := hiff.mp hall
      have hok : ∀ e ∈ m.entries, ¬ h.object.Refuses m.esv e := by
        rw [hm]
        exact (Object.takesEach_iff.mp ht).1
      obtain ⟨ho, hb⟩ := hstate ht
      obtain ⟨ho', hb'⟩ := ha.handle_write hl (hm ▸ .setC) hok out
      exact ⟨ho.trans ho'.symm, hb.trans hb'.symm⟩
    · intro h' put' ha' hok
      obtain rfl : h = h' := Option.some.inj (ha.find?.symm.trans ha'.find?)
      rw [Object.takesEach_iff, and_iff_right (hs.mp hok)]
  · have hnone : ¬ ∃ a, (n.handle m out).answer = some a ∧ a.esv = .setRes := by
      rw [handle_unaddressed hn]
      rintro ⟨a, ha, _⟩
      cases ha
    have hfirst : ¬ ∀ answer ∈ (n.handleEach m.singly out).answers,
        ∃ a, answer = some a ∧ a.esv = .setRes := by
      obtain ⟨e, es, he⟩ := List.exists_cons_of_ne_nil hne
      rw [Message.singly, he, List.map_cons, handleEach, List.forall_mem_cons,
        handle_unaddressed (m := m.only e) hn]
      rintro ⟨⟨a, ha, _⟩, _⟩
      cases ha
    exact ⟨iff_of_false hfirst fun h => hnone h.1, fun hall => absurd hall hfirst,
      fun _ _ _ hok => absurd hok hnone⟩

theorem answered_singly_iff_dimmer :
    (∀ h ∈ LocalNode.dimmer.objects.toList, h.listener = none) ∧
      (∀ answer ∈
          (LocalNode.dimmer.objects.handleEach (LocalNode.dim [[0x32], [0x4B]]).singly {}).answers,
        ∃ a, answer = some a ∧ a.esv = .setRes) ∧
      (LocalNode.dimmer.objects.handleEach (LocalNode.dim [[0x32], [0x4B]]).singly {}).objects =
        (LocalNode.dimmer.objects.handle (LocalNode.dim [[0x32], [0x4B]]) {}).objects := by
  obtain ⟨hi, hs, _⟩ := answered_singly_iff LocalNode.dimmer.objects
    (LocalNode.dim [[0x32], [0x4B]]) {} LocalNode.quiet_dimmer rfl nofun
  have hadmits : (LocalNode.dim [[0x32], [0x4B]]).entries.Pairwise Entry.Admits :=
    .cons (List.forall_mem_singleton.mpr fun _ _ => rfl) (List.pairwise_singleton _ _)
  have hall := hi.mpr ⟨Option.map_eq_some_iff.mp (by decide +kernel), hadmits⟩
  exact ⟨LocalNode.quiet_dimmer, hall, (hs hall).1⟩

theorem not_answered_singly :
    ¬ ((∃ a, (LocalNode.dimmer.objects.handle (LocalNode.dim [[1, 2, 3], [4]]) {}).answer = some a ∧
        a.esv = .setRes) ↔
      ∀ answer ∈
          (LocalNode.dimmer.objects.handleEach (LocalNode.dim [[1, 2, 3], [4]]).singly {}).answers,
        ∃ a, answer = some a ∧ a.esv = .setRes) := by
  intro h
  have hall := h.mp (Option.map_eq_some_iff.mp (by decide +kernel))
  have hs : some Service.setCSna ∈ (LocalNode.dimmer.objects.handleEach
      (LocalNode.dim [[1, 2, 3], [4]]).singly {}).answers.map (Option.map Message.esv) := by
    decide +kernel
  obtain ⟨answer, ha, he⟩ := List.mem_map.mp hs
  obtain ⟨a, rfl, hr⟩ := hall answer ha
  rw [Option.map_some, hr] at he
  exact absurd he (by decide)

end NodeObjects

end EchonetLite
