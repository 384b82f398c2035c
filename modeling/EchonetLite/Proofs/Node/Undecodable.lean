import EchonetLite.Node.Reception
import EchonetLite.Proofs.Frame.Boundary

/-! Datagrams that hold no frame leave no trace on a node that receives, wherever they come, and
neither does what stands behind a frame. Two receptions are compared up to such datagrams; one can
end in the same way as the other, only its loops may have to read more or less. -/

namespace EchonetLite

open EchonetLite.Frame

def Datagram.trimmed? (d : Endpoint × Bytes) : Option (Endpoint × Bytes) :=
  match Message.decode (d.2.take sizeLimit) with
  | .ok m => some (d.1, d.2.take m.encodedLength)
  | .error _ => none

lemma Message.decode_take_encodedLength {bytes : Bytes} {m : Message}
    (h : decode bytes = .ok m) : decode (bytes.take m.encodedLength) = .ok m := by
  obtain ⟨hf, hp⟩ := decode_eq_ok_iff.mp h
  have hw : m.wire = bytes.take m.wire.length := List.prefix_iff_eq_take.mp hp
  rw [← length_wire, ← hw]
  exact decode_wire hf

namespace Datagram

variable {d d' : Endpoint × Bytes}

lemma decode_trimmed {m : Message} (h : Message.decode (d.2.take sizeLimit) = .ok m) :
    Message.decode ((d.2.take m.encodedLength).take sizeLimit) = .ok m := by
  rw [List.take_take, Nat.min_comm, ← List.take_take]
  exact Message.decode_take_encodedLength h

lemma trimmed?_idem (h : trimmed? d = some d') : trimmed? d' = some d' := by
  cases hm : Message.decode (d.2.take sizeLimit) with
  | error e =>
    rw [trimmed?, hm] at h
    cases h
  | ok m =>
    rw [trimmed?, hm] at h
    obtain rfl := Option.some.inj h
    rw [trimmed?, decode_trimmed hm]
    dsimp only
    rw [List.take_take, Nat.min_self]

lemma bind_trimmed? (route : Route) (d : Endpoint × Bytes) :
    ((trimmed? d).bind fun d => Inbound.ofDatagram? route d.1 d.2) =
      Inbound.ofDatagram? route d.1 d.2 := by
  cases hm : Message.decode (d.2.take sizeLimit) with
  | error e =>
    rw [trimmed?, Inbound.ofDatagram?, hm]
    rfl
  | ok m =>
    rw [trimmed?, Inbound.ofDatagram?, hm, Option.bind_some, Inbound.ofDatagram?,
      decode_trimmed hm]

lemma filterMap_trimmed? (ds : List (Endpoint × Bytes)) :
    (ds.filterMap trimmed?).filterMap trimmed? = ds.filterMap trimmed? := by
  have hb : (fun d => (trimmed? d).bind trimmed?) = trimmed? := by
    funext d
    cases hd : trimmed? d with
    | none => rfl
    | some d' => exact trimmed?_idem hd
  rw [List.filterMap_filterMap, hb]

end Datagram

open Datagram (trimmed?)

namespace Receiver

variable {r : Receiver} {d d' : Endpoint × Bytes} {rest : List (Endpoint × Bytes)}

def trimmed (r : Receiver) : Receiver :=
  { r with incoming := r.incoming.filterMap trimmed?, buffer := [] }

lemma trimmed_trimmed (r : Receiver) : r.trimmed.trimmed = r.trimmed := by
  rw [trimmed, trimmed, Datagram.filterMap_trimmed?]

lemma held_of_isReading (hr : r.isReading = true) : r.held = none := by
  rw [isReading, Bool.and_eq_true] at hr
  exact Option.isNone_iff_eq_none.mp hr.2

lemma exists_read (hr : r.isReading = true) (hi : r.incoming = d :: rest) :
    ∃ buffer, r.read = some { r with
      incoming := rest, buffer, held := Inbound.ofDatagram? r.route d.1 d.2 } := by
  obtain ⟨source, payload⟩ := d
  rw [read, hr, hi]
  dsimp only
  rw [List.take_left, Inbound.ofDatagram?]
  cases Message.decode (payload.take Datagram.sizeLimit) with
  | ok m => exact ⟨_, rfl⟩
  | error e => exact ⟨_, by rw [← held_of_isReading hr]⟩

lemma exists_incoming_of_read {q : Receiver} (h : r.read = some q) :
    r.isReading = true ∧ ∃ d rest, r.incoming = d :: rest := by
  rw [read] at h
  split at h
  case h_1 hr hi => exact ⟨hr, _, _, hi⟩
  case h_2 => cases h

lemma read_of_undecodable (hr : r.isReading = true) (hi : r.incoming = d :: rest)
    (hd : trimmed? d = none) :
    ∃ q, r.read = some q ∧ q.trimmed = r.trimmed ∧ q.isReading = true ∧ q.incoming = rest := by
  obtain ⟨buffer, hq⟩ := exists_read hr hi
  have ho : Inbound.ofDatagram? r.route d.1 d.2 = none := by
    rw [← Datagram.bind_trimmed?, hd, Option.bind_none]
  rw [ho, ← held_of_isReading hr] at hq
  refine ⟨_, hq, ?_, hr, rfl⟩
  rw [trimmed, trimmed, hi, List.filterMap_cons_none hd]

lemma read_trimmed (hr : r.isReading = true) (hi : r.incoming = d :: rest)
    (hd : trimmed? d = some d') : r.trimmed.read.map trimmed = r.read.map trimmed := by
  obtain ⟨_, hq⟩ := exists_read hr hi
  have hi' : r.trimmed.incoming = d' :: rest.filterMap trimmed? := by
    rw [trimmed, hi, List.filterMap_cons_some hd]
  obtain ⟨_, hq'⟩ := exists_read (r := r.trimmed) hr hi'
  have ho : Inbound.ofDatagram? r.route d'.1 d'.2 = Inbound.ofDatagram? r.route d.1 d.2 := by
    rw [← Datagram.bind_trimmed? r.route d, hd, Option.bind_some]
  rw [hq, hq', Option.map_some, Option.map_some, trimmed, trimmed]
  dsimp only
  rw [Datagram.filterMap_trimmed?]
  simp only [trimmed, ho]

end Receiver

namespace Reception

variable {s s' t u : Reception} {a : Step} {i : Nat} {r : Receiver} {d : Endpoint × Bytes}
  {rest : List (Endpoint × Bytes)} {steps : List Step}

def trimmed (s : Reception) : Reception :=
  { s with receivers := s.receivers.map Receiver.trimmed }

def Step.isRead : Step → Bool
  | .read _ => true
  | _ => false

def others (all : List Step) : List Step := all.filter (!·.isRead)

/-- A run can end like this that takes the given steps and reads in between. -/
def CanEnd (s : Reception) (steps : List Step) (u : Reception) : Prop :=
  ∃ all t, s.run all = some t ∧ others all = steps ∧ t.trimmed = u.trimmed

lemma others_append (before after : List Step) :
    others (before ++ after) = others before ++ others after := List.filter_append before after

lemma run_append (s : Reception) (before after : List Step) :
    s.run (before ++ after) = (s.run before).bind (·.run after) := by
  induction before generalizing s with
  | nil => rfl
  | cons a before ih =>
    rw [List.cons_append, run, run, Option.bind_assoc]
    exact congrArg _ (funext ih)

lemma trimmed_trimmed (s : Reception) : s.trimmed.trimmed = s.trimmed := by
  have hm : (s.receivers.map Receiver.trimmed).map Receiver.trimmed =
      s.receivers.map Receiver.trimmed := by
    rw [List.map_map]
    exact List.map_congr_left fun r _ => Receiver.trimmed_trimmed r
  rw [trimmed, trimmed, hm]

lemma getElem?_trimmed (s : Reception) (i : Nat) :
    s.trimmed.receivers[i]? = (s.receivers[i]?).map Receiver.trimmed :=
  List.getElem?_map

lemma receiver_trimmed (hi : s.receivers[i]? = some r) :
    s.trimmed.receivers[i]? = some r.trimmed := by
  rw [getElem?_trimmed, hi, Option.map_some]

lemma setReceiver_trimmed (s : Reception) (i : Nat) (r : Receiver) :
    (s.setReceiver i r).trimmed = s.trimmed.setReceiver i r.trimmed := by
  rw [trimmed, setReceiver, List.map_set]
  rfl

lemma bind_receiver_trimmed {f g : Receiver → Option Reception}
    (h : ∀ r, g r.trimmed = (f r).map trimmed) (i : Nat) :
    s.trimmed.receivers[i]?.bind g = (s.receivers[i]?.bind f).map trimmed := by
  rw [getElem?_trimmed]
  cases s.receivers[i]? with
  | none => rfl
  | some r => exact h r

lemma enqueue_trimmed (s : Reception) (inbound : Inbound) :
    s.trimmed.enqueue inbound = (s.enqueue inbound).map trimmed := by
  rw [enqueue, enqueue, apply_ite (Option.map trimmed)]
  rfl

lemma interrupt_trimmed (s : Reception) (i : Nat) :
    s.trimmed.interrupt i = (s.interrupt i).map trimmed := by
  refine bind_receiver_trimmed (fun r => ?_) i
  rw [apply_ite (Option.map trimmed)]
  rfl

lemma endReceiver_trimmed (s : Reception) (i : Nat) :
    s.trimmed.endReceiver i = (s.endReceiver i).map trimmed := by
  refine bind_receiver_trimmed (fun r => ?_) i
  rw [apply_ite (Option.map trimmed), Option.map_some, setReceiver_trimmed]
  rfl

lemma handOver_trimmed (s : Reception) (i : Nat) :
    s.trimmed.handOver i = (s.handOver i).map trimmed := by
  refine bind_receiver_trimmed (fun r => ?_) i
  change r.held.bind _ = _
  cases r.held with
  | none => rfl
  | some inbound =>
    rw [Option.bind_some, Option.bind_some, apply_ite (Option.map trimmed), ← enqueue_trimmed,
      Option.map_some, setReceiver_trimmed, setReceiver_trimmed]
    rfl

lemma dispatch_trimmed (s : Reception) : s.trimmed.dispatch = s.dispatch.map trimmed := by
  rw [dispatch, dispatch, trimmed]
  dsimp only
  split <;> rfl

lemma work_trimmed (s : Reception) (task : Nat) :
    s.trimmed.work task = (s.work task).map trimmed := by
  rw [work, work, trimmed]
  dsimp only
  split <;> rfl

lemma step_trimmed (ha : a.isRead = false) : s.trimmed.step a = (s.step a).map trimmed := by
  cases a with
  | read i => cases ha
  | interrupted i => exact interrupt_trimmed s i
  | ended i => exact endReceiver_trimmed s i
  | handOver i => exact handOver_trimmed s i
  | fromConnection inbound => exact enqueue_trimmed s inbound
  | dispatch => exact dispatch_trimmed s
  | dispatcherEnded => rfl
  | work task => exact work_trimmed s task
  | act a =>
    rw [step, step, Option.map_map]
    rfl

lemma setReceiver_self (hi : s.receivers[i]? = some r) : s.setReceiver i r = s := by
  obtain ⟨hl, rfl⟩ := List.getElem?_eq_some_iff.mp hi
  rw [setReceiver, List.set_getElem_self]

lemma getElem?_setReceiver (hi : s.receivers[i]? = some r) (q : Receiver) :
    (s.setReceiver i q).receivers[i]? = some q := by
  obtain ⟨hl, -⟩ := List.getElem?_eq_some_iff.mp hi
  exact List.getElem?_set_self hl

lemma read_eq (hi : s.receivers[i]? = some r) : s.read i = r.read.map (s.setReceiver i) := by
  rw [read, hi, Option.bind_some]

lemma read_of_undecodable (hi : s.receivers[i]? = some r) (hr : r.isReading = true)
    (hds : r.incoming = d :: rest) (hd : trimmed? d = none) :
    ∃ t q, s.read i = some t ∧ t.trimmed = s.trimmed ∧ t.receivers[i]? = some q ∧
      q.isReading = true ∧ q.incoming = rest := by
  obtain ⟨q, hq, ht, hqr, hqi⟩ := Receiver.read_of_undecodable hr hds hd
  refine ⟨s.setReceiver i q, q, ?_, ?_, getElem?_setReceiver hi q, hqr, hqi⟩
  · rw [read_eq hi, hq, Option.map_some]
  · rw [setReceiver_trimmed, ht, setReceiver_self (receiver_trimmed hi)]

lemma map_trimmed_read (hi : s.receivers[i]? = some r) :
    (s.read i).map trimmed = (r.read.map Receiver.trimmed).map (s.trimmed.setReceiver i) := by
  rw [read_eq hi, Option.map_map, Option.map_map]
  exact congrArg (Option.map · r.read) (funext fun q => setReceiver_trimmed s i q)

lemma read_trimmed (hi : s.receivers[i]? = some r) (hr : r.isReading = true)
    (hds : r.incoming = d :: rest) (hd : trimmed? d ≠ none) :
    (s.trimmed.read i).map trimmed = (s.read i).map trimmed := by
  obtain ⟨d', hd'⟩ := Option.ne_none_iff_exists'.mp hd
  rw [map_trimmed_read hi, map_trimmed_read (receiver_trimmed hi), trimmed_trimmed,
    Receiver.read_trimmed hr hds hd']

lemma exists_reads (hi : s.receivers[i]? = some r) (hr : r.isReading = true)
    (hne : r.trimmed.incoming ≠ []) :
    ∃ reads t, s.run reads = some t ∧ others reads = [] ∧
      (s.trimmed.read i).map trimmed = some t.trimmed := by
  -- on what the loop has still to read; each datagram without a frame costs one read
  induction hds : r.incoming generalizing s r with
  | nil =>
    rw [Receiver.trimmed, hds] at hne
    cases hne rfl
  | cons d rest ih =>
    by_cases hd : trimmed? d = none
    · obtain ⟨t, q, hs, ht, hq, hqr, hqi⟩ := read_of_undecodable hi hr hds hd
      have hne' : q.trimmed.incoming ≠ [] := by
        rw [Receiver.trimmed, hds, List.filterMap_cons_none hd, ← hqi] at hne
        exact hne
      obtain ⟨reads, u, hu, hreads, hread⟩ := ih hq hqr hne' hqi
      refine ⟨.read i :: reads, u, ?_, hreads, ht ▸ hread⟩
      rw [run, step, hs, Option.bind_some, hu]
    · obtain ⟨buffer, hq⟩ := Receiver.exists_read hr hds
      obtain ⟨t, hs⟩ : ∃ t, s.read i = some t := ⟨_, (read_eq hi).trans (congrArg _ hq)⟩
      refine ⟨[.read i], t, ?_, rfl, ?_⟩
      · rw [run, step, hs]
        rfl
      · rw [read_trimmed hi hr hds hd, hs, Option.map_some]

lemma read_alike (hs : s.trimmed = s'.trimmed) (h : s.read i = some t) :
    ∃ reads t', s'.run reads = some t' ∧ others reads = [] ∧ t'.trimmed = t.trimmed := by
  obtain ⟨r, hi, hread⟩ : ∃ r, s.receivers[i]? = some r ∧ r.read.map (s.setReceiver i) = some t :=
    Option.bind_eq_some_iff.mp h
  obtain ⟨q, hq, -⟩ := Option.map_eq_some_iff.mp hread
  obtain ⟨hr, d, rest, hds⟩ := Receiver.exists_incoming_of_read hq
  by_cases hd : trimmed? d = none
  · obtain ⟨t₀, -, ht₀, ht, -⟩ := read_of_undecodable hi hr hds hd
    obtain rfl := Option.some.inj (h.symm.trans ht₀)
    exact ⟨[], s', rfl, rfl, hs.symm.trans ht.symm⟩
  · -- the other loop has the same frame before it, perhaps behind datagrams without frames
    obtain ⟨d', hd'⟩ := Option.ne_none_iff_exists'.mp hd
    obtain ⟨r', hi', hrr⟩ : ∃ r', s'.receivers[i]? = some r' ∧ r'.trimmed = r.trimmed := by
      rw [← Option.map_eq_some_iff, ← getElem?_trimmed, ← hs, getElem?_trimmed, hi, Option.map_some]
    have hr' : r'.isReading = true := (congrArg Receiver.isReading hrr).trans hr
    have hne : r'.trimmed.incoming ≠ [] := by
      rw [hrr, Receiver.trimmed, hds, List.filterMap_cons_some hd']
      exact List.cons_ne_nil _ _
    obtain ⟨reads, t', ht', hreads, he⟩ := exists_reads hi' hr' hne
    rw [← hs, read_trimmed hi hr hds hd, h] at he
    exact ⟨reads, t', ht', hreads, (Option.some.inj he).symm⟩

lemma step_alike (hs : s.trimmed = s'.trimmed) (h : s.step a = some t) :
    ∃ all t', s'.run all = some t' ∧ others all = others [a] ∧ t'.trimmed = t.trimmed := by
  cases ha : a.isRead with
  | true =>
    obtain ⟨i, rfl⟩ : ∃ i, a = .read i := by
      cases a with
      | read i => exact ⟨i, rfl⟩
      | _ => cases ha
    exact read_alike hs h
  | false =>
    have hstep : (s'.step a).map trimmed = some t.trimmed := by
      rw [← step_trimmed ha, ← hs, step_trimmed ha, h, Option.map_some]
    obtain ⟨t', ht', htt⟩ := Option.map_eq_some_iff.mp hstep
    refine ⟨[a], t', ?_, rfl, htt⟩
    rw [run, ht']
    rfl

lemma run_alike (hs : s.trimmed = s'.trimmed) (h : s.run steps = some t) :
    ∃ all t', s'.run all = some t' ∧ others all = others steps ∧ t'.trimmed = t.trimmed := by
  induction steps generalizing s s' with
  | nil =>
    obtain rfl := Option.some.inj h
    exact ⟨[], s', rfl, rfl, hs.symm⟩
  | cons a steps ih =>
    obtain ⟨u, hu, hrest⟩ := Option.bind_eq_some_iff.mp h
    obtain ⟨first, u', hu', hfirst, huu⟩ := step_alike hs hu
    obtain ⟨later, t', ht', hlater, htt⟩ := ih huu.symm hrest
    refine ⟨first ++ later, t', ?_, ?_, htt⟩
    · rw [run_append, hu', Option.bind_some, ht']
    · rw [others_append, hfirst, hlater, ← others_append, List.singleton_append]

lemma CanEnd.alike (hs : s.trimmed = s'.trimmed) (h : s.CanEnd steps u) : s'.CanEnd steps u := by
  obtain ⟨all, t, ht, hall, hu⟩ := h
  obtain ⟨all', t', ht', hall', htt⟩ := run_alike hs ht
  exact ⟨all', t', ht', hall'.trans hall, htt.trans hu⟩

/-- A reception can end in the same ways, with the same messages delivered, the same datagrams sent
and the same node, as if only frames were before its loops. -/
theorem canEnd_trimmed (s u : Reception) (steps : List Step) :
    s.trimmed.CanEnd steps u ↔ s.CanEnd steps u :=
  ⟨CanEnd.alike s.trimmed_trimmed, CanEnd.alike s.trimmed_trimmed.symm⟩

example :
    let asker := Endpoint.ofIpv4 .localhost 3611
    let node := { LocalNode.new {} (Vector.replicate 13 0) 0 with
      transport := some { settings := {}, unicast := [⟨{ address := .localhost }, 3610⟩] } }
    let question : Bytes :=
      [0x10, 0x81, 0, 7, 0x05, 0xFF, 0x01, 0x0E, 0xF0, 0x01, 0x62, 1, 0x80, 0]
    let reception : Reception :=
      { activity := .idle node
        receivers := [{ route := .datagram, incoming :=
          [(asker, []), (asker, question ++ [0xAA]), (asker, question.take 5)] }] }
    (reception.run [.read 0, .read 0, .handOver 0, .dispatch, .work 0, .work 0, .read 0]).map
        (·.sent) =
      some [⟨.ofIpv4 .localhost 3610, asker,
        [0x10, 0x81, 0, 7, 0x0E, 0xF0, 0x01, 0x05, 0xFF, 0x01, 0x72, 1, 0x80, 1, 0x30]⟩] := by
  decide +kernel

end Reception

end EchonetLite
