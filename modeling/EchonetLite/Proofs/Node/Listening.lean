import EchonetLite.Proofs.Node.Serving

/-! A listener is asked about the entries of a request in order, each time with the object as the
previous call left it, until it rejects one. -/

namespace EchonetLite

namespace Listener

def after (l : Listener) (s : Service) (es : List Entry) (o : Object) (out : Outbox) :
    Object × Outbox :=
  es.foldl (fun state e => (l.respond s e state.1 state.2).2) (o, out)

def accepts (l : Listener) (s : Service) (before : List Entry) (e : Entry) (o : Object)
    (out : Outbox) : Bool :=
  (l.respond s e (l.after s before o out).1 (l.after s before o out).2).1

def KeepsCode (l : Listener) : Prop :=
  ∀ s e o out, (l.respond s e o out).2.1.code = o.code

structure Hears (l : Listener) (s : Service) (o : Object) (out : Outbox)
    (es accepted : List Entry) (rejected : Option Entry) : Prop where
  accepting : ∀ before e later, accepted = before ++ e :: later →
    l.accepts s before e o out = true
  rejecting : ∀ e, rejected = some e → l.accepts s accepted e o out = false ∧
    ∃ later, es = accepted ++ e :: later
  complete : rejected = none → es = accepted

variable {l : Listener} {s : Service} {e : Entry} {es accepted : List Entry} {o : Object}
  {out : Outbox} {rejected : Option Entry}

lemma Hears.cons (ha : (l.respond s e o out).1 = true)
    (hh : l.Hears s (l.respond s e o out).2.1 (l.respond s e o out).2.2 es accepted rejected) :
    l.Hears s o out (e :: es) (e :: accepted) rejected where
  accepting before f later h := by
    cases before with
    | nil =>
      obtain ⟨rfl, rfl⟩ := List.cons.inj h
      exact ha
    | cons d before =>
      obtain ⟨rfl, rfl⟩ := List.cons.inj h
      exact hh.accepting before f later rfl
  rejecting f hf := by
    obtain ⟨hr, later, rfl⟩ := hh.rejecting f hf
    exact ⟨hr, later, rfl⟩
  complete hn := by rw [hh.complete hn]

lemma Hears.reject (hr : (l.respond s e o out).1 = false) (es : List Entry) :
    l.Hears s o out (e :: es) [] (some e) where
  accepting before f later h := by cases before <;> cases h
  rejecting f hf := by
    obtain rfl := Option.some.inj hf
    exact ⟨hr, es, rfl⟩
  complete hn := by cases hn

lemma Hears.nil (l : Listener) (s : Service) (o : Object) (out : Outbox) :
    l.Hears s o out [] [] none where
  accepting before f later h := by cases before <;> cases h
  rejecting f hf := by cases hf
  complete _ := rfl

end Listener

namespace Request

variable {l : Listener}

def accepted (code : ObjectCode) (s : Service) (e : Entry) : List Event :=
  [.asked code s e true, .told code s e]

lemma carryOutEntry_accepts (hk : l.KeepsCode) {s : Service} {e : Entry} {o : Object}
    {out : Outbox} (ha : (l.respond s e o out).1 = true) :
    carryOutEntry (some l) s e o out =
      ⟨(l.respond s e o out).2.1, (l.respond s e o out).2.2, accepted o.code s e, none⟩ := by
  have hc := hk s e o out
  simp only [carryOutEntry]
  generalize l.respond s e o out = result at ha hc
  obtain ⟨_, o', out'⟩ := result
  obtain rfl := ha
  simp only [accepted, ← hc]

lemma carryOutEntry_rejects {s : Service} {e : Entry} {o : Object} {out : Outbox}
    (hr : (l.respond s e o out).1 = false) :
    carryOutEntry (some l) s e o out =
      ⟨(l.respond s e o out).2.1, (l.respond s e o out).2.2, [.asked o.code s e false],
        some (.rejected e.epc)⟩ := by
  simp only [carryOutEntry]
  generalize l.respond s e o out = result at hr
  obtain ⟨_, o', out'⟩ := result
  obtain rfl := hr
  rfl

lemma carryOut_listening (hk : l.KeepsCode) (s : Service) (es : List Entry) (o : Object)
    (out : Outbox) :
    ∃ heard rejected, l.Hears s o out es heard rejected ∧
      carryOut (some l) s es o out =
        { object := (l.after s (heard ++ rejected.toList) o out).1
          outbox := (l.after s (heard ++ rejected.toList) o out).2
          events := heard.flatMap (accepted o.code s) ++
            rejected.toList.map fun e => .asked o.code s e false
          refusal := rejected.map fun e => .rejected e.epc } := by
  -- The listener may change the object at every call, so the object varies in the induction.
  induction es generalizing o out with
  | nil => exact ⟨[], none, .nil l s o out, rfl⟩
  | cons e es ih =>
    cases ha : (l.respond s e o out).1 with
    | false =>
      refine ⟨[], some e, .reject ha es, ?_⟩
      simp only [carryOut, carryOutEntry_rejects ha]
      rfl
    | true =>
      obtain ⟨heard, rejected, hh, hr⟩ := ih (l.respond s e o out).2.1 (l.respond s e o out).2.2
      refine ⟨e :: heard, rejected, .cons ha hh, ?_⟩
      simp only [carryOut, carryOutEntry_accepts hk ha, hr, hk s e o out, List.flatMap_cons,
        List.append_assoc]
      rfl

/-- `handled` is what comes of the request `m` to `h` when the listener accepts the entries `heard`
and then rejects `rejected`, or accepts all, and leaves the object `o`. -/
structure Listened (h : HostedObject) (put : HostedObject → NodeObjects) (m : Message)
    (heard : List Entry) (rejected : Option Entry) (o : Object) (handled : Handled) : Prop where
  events : handled.events =
    heard.flatMap (fun e => [.asked h.code m.esv e true, .told h.code m.esv e]) ++
      rejected.toList.map (fun e => .asked h.code m.esv e false)
  objects : handled.objects = put { h with object := o }
  refused : ∀ success refusal, m.esv.Exchange success refusal →
    ((∃ a, handled.answer = some a ∧ a.esv = refusal) ↔ ∃ e, rejected = some e)
  carriedOut : ∀ success refusal, m.esv.Exchange success refusal → rejected = none →
    handled.answer.map Message.esv = success
  data : ∀ a, handled.answer = some a → rejected = none →
    a.entries = m.entries.map fun e => ⟨e.epc, (o.data? e.epc).getD []⟩
  refusedData : ∀ a e, handled.answer = some a → rejected = some e → ¬ m.esv.Writes →
    a.entries = m.entries.map (refusedEntry o m.esv)

variable {h : HostedObject} {put : HostedObject → NodeObjects} {m : Message}
  {success : Option Service} {refusal : Service} {handled : Handled} {heard : List Entry}
  {rejected : Option Entry} {o : Object} {e : Entry}

lemma listened_of_answer (hx : m.esv.Exchange success refusal)
    (hv : handled.events = heard.flatMap (accepted h.code m.esv))
    (ho : handled.objects = put { h with object := o })
    (ha : handled.answer = answer? o m) : Listened h put m heard none o handled where
  events := by rw [hv]; exact (List.append_nil _).symm
  objects := ho
  refused success' refusal' hx' := by
    obtain ⟨rfl, rfl⟩ := hx.unique hx'
    constructor
    · rintro ⟨a, h, hr⟩
      exact absurd hr (esv_ne_of_answer? hx (ha.symm.trans h))
    · rintro ⟨e, he⟩
      cases he
  carriedOut success' refusal' hx' _ := by
    obtain ⟨rfl, rfl⟩ := hx.unique hx'
    rw [ha, map_esv_answer? hx]
  data a h _ := entries_of_answer? (ha.symm.trans h)
  refusedData a e _ he := by cases he

lemma listened_of_refusal (hx : m.esv.Exchange success refusal)
    (hv : handled.events =
      heard.flatMap (accepted h.code m.esv) ++ [.asked h.code m.esv e false])
    (ho : handled.objects = put { h with object := o })
    (ha : handled.answer = refusal? o m) : Listened h put m heard (some e) o handled where
  events := hv
  objects := ho
  refused success' refusal' hx' := by
    obtain ⟨rfl, rfl⟩ := hx.unique hx'
    exact ⟨fun _ => ⟨e, rfl⟩, fun _ => ⟨_, ha.trans (refusal?_eq hx o), rfl⟩⟩
  carriedOut success' refusal' hx' hn := by cases hn
  data a h hn := by cases hn
  refusedData a e' h _ _ := by
    obtain rfl := Option.some.inj ((ha.trans (refusal?_eq hx o)).symm.trans h)
    rfl

end Request

namespace NodeObjects

/-- A listener is asked only about requests whose entries all pass the checks, and then about each
entry in turn up to the first that it rejects. The node is told of the entries before that one, and
the answer is read from the object as the last call left it. -/
theorem handle_listening (n : NodeObjects) (m : Message) (out : Outbox) (h : HostedObject)
    (put : HostedObject → NodeObjects) (l : Listener) (success : Option Service)
    (refusal : Service) (ha : n.Addressed m.deoj h put) (hl : h.listener = some l)
    (hk : l.KeepsCode) (hx : m.esv.Exchange success refusal) :
    ((∃ e ∈ m.entries, h.object.Refuses m.esv e) →
      (n.handle m out).events = [] ∧ (n.handle m out).objects = n ∧
        (n.handle m out).outbox = out) ∧
    ((∀ e ∈ m.entries, ¬ h.object.Refuses m.esv e) →
      ∃ heard rejected o out', l.Hears m.esv h.object out m.entries heard rejected ∧
        l.after m.esv (heard ++ rejected.toList) h.object out = (o, out') ∧
          (n.handle m out).outbox = out' ∧
            Request.Listened h put m heard rejected o (n.handle m out)) := by
  rw [handle_addressed ha]
  constructor
  · intro hb
    obtain ⟨reason, hs⟩ := Request.serve_refused hx hb out
    rw [hs]
    exact ⟨rfl, ha.put_self, rfl⟩
  · intro hok
    obtain ⟨heard, rejected, hh, hc⟩ :=
      Request.carryOut_listening hk m.esv m.entries h.object out
    rw [← hl] at hc
    rw [Request.serve_accepted hx hok hc]
    refine ⟨heard, rejected, (l.after m.esv (heard ++ rejected.toList) h.object out).1,
      (l.after m.esv (heard ++ rejected.toList) h.object out).2, hh, rfl, rfl, ?_⟩
    cases rejected with
    | none => exact Request.listened_of_answer hx (List.append_nil _) rfl rfl
    | some e => exact Request.listened_of_refusal hx rfl rfl rfl

end NodeObjects

lemma Listener.keepsCode_rejectProperty (epc : UInt8) : (rejectProperty epc).KeepsCode := by
  intro s e o out
  simp only [rejectProperty]
  split
  · rfl
  · split
    · rw [writing, Object.write]
      cases o.property? e.epc <;> rfl
    · rfl

theorem NodeObjects.handle_listening_rejected :
    (Listener.rejectProperty 0x80).KeepsCode ∧ Service.get.Exchange (some .getRes) .getSna ∧
      ∃ a, (NodeObjects.handle
          { devices := [{ object := .device ⟨0x02, 0x90, 0x01⟩,
                          listener := some (.rejectProperty 0x80) }] }
          { seoj := .controller, deoj := ⟨0x02, 0x90, 0x01⟩, esv := .get,
            entries := [⟨0x81, []⟩, ⟨0x80, []⟩, ⟨0x88, []⟩] } {}).answer = some a ∧
        a.esv = .getSna := by
  have hk := Listener.keepsCode_rejectProperty 0x80
  obtain ⟨put, ha⟩ := NodeObjects.exists_addressed
    (show NodeObjects.find? { devices := [{ object := .device ⟨0x02, 0x90, 0x01⟩,
                                            listener := some (.rejectProperty 0x80) }] }
        ⟨0x02, 0x90, 0x01⟩ = some { object := .device ⟨0x02, 0x90, 0x01⟩,
                                    listener := some (.rejectProperty 0x80) } from rfl)
  obtain ⟨heard, rejected, o, out, hh, -, -, hs⟩ := (NodeObjects.handle_listening _
    { seoj := .controller, deoj := ⟨0x02, 0x90, 0x01⟩, esv := .get,
      entries := [⟨0x81, []⟩, ⟨0x80, []⟩, ⟨0x88, []⟩] } {} _ put _ _ _ ha rfl hk .get).2
        ((Request.fault?_eq_none_iff .get).mp (by decide))
  refine ⟨hk, .get, (hs.refused _ _ .get).mpr (Option.ne_none_iff_exists'.mp ?_)⟩
  intro hn
  have hr := hh.accepting [⟨0x81, []⟩] ⟨0x80, []⟩ [⟨0x88, []⟩] (hh.complete hn).symm
  exact absurd hr (by decide)

end EchonetLite
