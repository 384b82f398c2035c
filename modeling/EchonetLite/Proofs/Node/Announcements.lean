import EchonetLite.Node.Posting
import EchonetLite.Proofs.Node.Additions

/-! Whatever a node does with its objects, all that happens to its outbox is that changes are
announced, as long as the listeners of the objects do no more to it either. -/

namespace EchonetLite

namespace TransactionCounter

lemma advanceBy_add (c : TransactionCounter) (m n : Nat) :
    (c.advanceBy m).advanceBy n = c.advanceBy (m + n) := by
  induction n with
  | zero => rfl
  | succ n ih => exact congrArg advance ih

lemma last_advanceBy (c : TransactionCounter) (n : Nat) :
    (c.advanceBy n).last = c.last + UInt16.ofNat n := by
  induction n with
  | zero => exact (UInt16.add_zero c.last).symm
  | succ n ih =>
    rw [advanceBy, last_advance, ih, UInt16.ofNat_add, UInt16.add_assoc]
    rfl

end TransactionCounter

namespace Outbox

inductive Announced (out : Outbox) : Outbox → Prop
  | refl : Announced out out
  | announce {out' : Outbox} (source : ObjectCode) (entry : Entry) : Announced out out' →
      Announced out (out'.announce source entry)

variable {out out' out'' : Outbox}

lemma Announced.trans (h : out.Announced out') (h' : out'.Announced out'') :
    out.Announced out'' := by
  induction h' with
  | refl => exact h
  | announce source entry _ ih => exact .announce source entry ih

lemma Announced.grows (h : out.Announced out') : out'.running = out.running ∧
    ∃ more, out'.queue = out.queue ++ more ∧
      out'.counter = out.counter.advanceBy more.length ∧ (out.running = false → more = []) := by
  induction h with
  | refl => exact ⟨rfl, [], (List.append_nil _).symm, rfl, fun _ => rfl⟩
  | @announce out' source entry _ ih =>
    obtain ⟨hr, more, hq, hc, hn⟩ := ih
    rw [Outbox.announce]
    split
    case isTrue h =>
      refine ⟨hr, more ++ [notification (out'.issueTid).counter.last source entry], ?_, ?_, ?_⟩
      · rw [← List.append_assoc, ← hq]
        rfl
      · rw [List.length_append, List.length_singleton, TransactionCounter.advanceBy, ← hc]
        rfl
      · rw [← hr, h]
        nofun
    case isFalse => exact ⟨hr, more, hq, hc, hn⟩

end Outbox

lemma Object.announced_write (o : Object) (epc : UInt8) (data : Bytes) (out : Outbox) :
    out.Announced (o.write epc data out).2.2 := by
  rw [write]
  split
  · exact .refl
  · dsimp only
    split
    · exact .announce _ _ .refl
    · exact .refl

def Listener.Announces (l : Listener) : Prop :=
  ∀ s e o out, Outbox.Announced out (l.respond s e o out).2.2

lemma Listener.announces_applyWrites : applyWrites.Announces := by
  intro s e o out
  simp only [applyWrites, writing]
  split
  · exact o.announced_write e.epc e.edt out
  · exact .refl

namespace Request

variable {listener : Option Listener}

lemma announced_carryOutEntry (hl : ∀ l, listener = some l → l.Announces) (s : Service) (e : Entry)
    (o : Object) (out : Outbox) : out.Announced (carryOutEntry listener s e o out).outbox := by
  cases listener with
  | none =>
    simp only [carryOutEntry]
    split
    · have hw := o.announced_write e.epc e.edt out
      generalize o.write e.epc e.edt out = result at hw
      obtain ⟨_ | _, o', out'⟩ := result <;> exact hw
    · exact .refl
  | some l =>
    have ha := hl l rfl s e o out
    simp only [carryOutEntry]
    generalize l.respond s e o out = result at ha
    obtain ⟨accepted, o', out'⟩ := result
    cases accepted <;> exact ha

lemma announced_carryOut (hl : ∀ l, listener = some l → l.Announces) (s : Service)
    (es : List Entry) (o : Object) (out : Outbox) :
    out.Announced (carryOut listener s es o out).outbox := by
  induction es generalizing o out with
  | nil => exact .refl
  | cons e es ih =>
    have hf := announced_carryOutEntry hl s e o out
    rw [carryOut]
    split
    · exact hf
    · exact hf.trans (ih _ _)

lemma announced_serve {h : HostedObject} (hl : ∀ l, h.listener = some l → l.Announces)
    (m : Message) (out : Outbox) : out.Announced (serve h m out).outbox := by
  have hd := announced_carryOut hl m.esv m.entries h.object out
  simp only [serve]
  split
  · exact .refl
  · split
    · exact .refl
    · split
      · exact .refl
      · split <;> exact hd

end Request

namespace NodeObjects

def listeners (n : NodeObjects) : List (Option Listener) := n.toList.map (·.listener)

def Announce (n : NodeObjects) : Prop := ∀ l, some l ∈ n.listeners → l.Announces

variable {n : NodeObjects}

lemma listeners_modify (n : NodeObjects) (code : ObjectCode) (f : HostedObject → HostedObject)
    (hf : ∀ h, (f h).listener = h.listener) : (n.modify code f).listeners = n.listeners := by
  have hm : ∀ list : List HostedObject,
      (modifyFirst (fun h => code.names h.code) f list).map (·.listener) =
        list.map (·.listener) := map_modifyFirst fun h _ => hf h
  rw [modify, listeners, listeners, toList, toList]
  split
  · rw [List.map_append, List.map_append, hm]
  · rw [List.map_append, List.map_append, hm]

lemma Announce.find? (ha : n.Announce) {code : ObjectCode} {h : HostedObject}
    (hf : n.find? code = some h) : ∀ l, h.listener = some l → l.Announces := by
  intro l hl
  refine ha l ?_
  rw [← hl]
  exact List.mem_map_of_mem (List.mem_of_find?_eq_some hf)

lemma announced_handle (ha : n.Announce) (m : Message) (out : Outbox) :
    out.Announced (n.handle m out).outbox ∧ (n.handle m out).objects.listeners = n.listeners := by
  rw [handle]
  split
  case h_1 => exact ⟨.refl, rfl⟩
  case h_2 h hf =>
    exact ⟨Request.announced_serve (ha.find? hf) m out, listeners_modify n _ _ fun _ => rfl⟩

end NodeObjects

namespace LocalNode

structure Worked (n n' : LocalNode) : Prop where
  settings : n'.settings = n.settings
  phase : n'.phase = n.phase
  transport : n'.transport = n.transport
  pending : n'.pending = n.pending
  listeners : n'.objects.listeners = n.objects.listeners
  outbox : n.outbox.Announced n'.outbox

variable {n n' : LocalNode}

lemma worked_handle (ha : n.objects.Announce) (m : Message) : n.Worked (n.handle m).1 where
  settings := rfl
  phase := rfl
  transport := rfl
  pending := rfl
  listeners := (NodeObjects.announced_handle ha m n.outbox).2
  outbox := (NodeObjects.announced_handle ha m n.outbox).1

lemma worked_setData (n : LocalNode) (code : ObjectCode) (epc : UInt8) (data : Bytes) :
    n.Worked (n.setData code epc data).2 := by
  rw [setData]
  split
  · exact ⟨rfl, rfl, rfl, rfl, rfl, .refl⟩
  case h_2 h _ =>
    exact ⟨rfl, rfl, rfl, rfl, NodeObjects.listeners_modify _ _ _ fun _ => rfl,
      h.object.announced_write epc data n.outbox⟩

def lampNode : LocalNode :=
  (new {} (Vector.replicate 13 0) 0).add
    (.device { object := .device ⟨0x02, 0x90, 0x01⟩, listener := some .applyWrites })

lemma announce_lampNode : lampNode.objects.Announce := by
  have hl : lampNode.objects.listeners = [none, some .applyWrites] := rfl
  intro l h
  simp only [hl, List.mem_cons, reduceCtorEq, Option.some.injEq, List.not_mem_nil, or_false,
    false_or] at h
  rw [h]
  exact Listener.announces_applyWrites

end LocalNode

end EchonetLite
